import Jack.Parse.ClassDec

namespace Jack

namespace ParseState

variable {α κ ε : Type}

/-- Reads what the next token selects. A token that selects nothing is read and refused. -/
def selected (select : LexemeKind → Option κ) (expected : String)
    (item : (s : ParseState ε) → κ → Step α s.remaining ε) (s : ParseState ε) :
    Step α s.remaining ε :=
  s.sight fun next =>
  match select next.kind with
  | some choice => item s choice
  | none => s.advance.andThen fun token s₁ _ => .fail (unexpected expected token) s₁

def classVarDec (s : ParseState ε) : Step VariableDec s.remaining ε :=
  s.selected VariableKind.ofClassKeyword? "`static` or `field`" variableDec

def varDec (s : ParseState ε) : Step VariableDec s.remaining ε :=
  s.selected VariableKind.ofLocalKeyword? (inBackticks Keyword.varKw.text) variableDec

def subroutineDec [Emitter ε] (s : ParseState ε) : Step Subroutine s.remaining ε :=
  s.selected SubroutineKind.ofKind? "`constructor`, `function` or `method`" subroutine

end ParseState

inductive BodyReader : Type → Type where
  | term : BodyReader Term
  | nameTerm (token : Token) : BodyReader Term
  | expression : BodyReader Expression
  | call : BodyReader Call
  | arguments : BodyReader Arguments
  | statement (kind : StatementKind) : BodyReader Statement
  | statements : BodyReader (List Statement)
  | block : BodyReader Block

inductive DeclarationReader : Type → Type where
  | typeName : DeclarationReader TypeName
  | names (type : String) (kind : VariableKind) : DeclarationReader (List (Name × Token))
  | classVarDec : DeclarationReader VariableDec
  | varDec : DeclarationReader VariableDec
  | parameters : DeclarationReader (List Parameter)
  | subroutineBody (kind : SubroutineKind) (functionName : String) : DeclarationReader SubroutineBody
  | subroutineDec : DeclarationReader Subroutine
  | classDec : DeclarationReader ClassDec
  | unit : DeclarationReader ClassDec

section

variable {α ε : Type} [Emitter ε]

def BodyReader.read : BodyReader α → ParseState ε → Reply α ε
  | .term, s => s.term.reply
  | .nameTerm token, s => (s.nameTerm token).reply
  | .expression, s => s.expression.reply
  | .call, s => s.call.reply
  | .arguments, s => s.arguments.reply
  | .statement kind, s => (s.statementOf kind).reply
  | .statements, s => s.statements.reply
  | .block, s => s.block.reply

def DeclarationReader.read : DeclarationReader α → ParseState ε → Reply α ε
  | .typeName, s => s.typeName.reply
  | .names type kind, s => (s.newVariables type kind []).reply
  | .classVarDec, s => s.classVarDec.reply
  | .varDec, s => s.varDec.reply
  | .parameters, s => s.parameters.reply
  | .subroutineBody kind functionName, s => (s.subroutineBody kind functionName).reply
  | .subroutineDec, s => s.subroutineDec.reply
  | .classDec, s => s.classDec.reply
  | .unit, s => s.unit.reply

end

/-- What is read cannot be empty. A name was read before the term that begins with it. -/
def BodyReader.consumes {α : Type} : BodyReader α → Bool
  | nameTerm _ | arguments | statements => false
  | _ => true

def DeclarationReader.consumes {α : Type} : DeclarationReader α → Bool
  | parameters => false
  | _ => true

end Jack
