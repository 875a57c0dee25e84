import Jack.Parse.Reader

namespace Jack

/-- What a turn of a loop comes to: another one, with what there is so far, or the result. -/
inductive Turn (σ α : Type) where
  | again (soFar : σ)
  | stop (result : α)

def Arguments.join : Option (Arguments × Token) → Expression → Arguments
  | .none, value => .one value
  | .some (before, comma), value => .more before comma value

namespace ParseState

variable {α κ ε : Type}

def itemTurn (select : LexemeKind → Option κ) (item : (s : ParseState ε) → Step α s.remaining ε)
    (s : ParseState ε) (found : List α) : Step (Turn (List α) (List α)) (s.remaining + 1) ε :=
  s.sight fun next =>
  match select next.kind with
  | some _ =>
    (item s).andThen fun value s₁ h₁ =>
    .done (.again (value :: found)) s₁ (remaining_lt_succ_of_lt h₁)
  | none => .done (.stop found.reverse) s s.remaining_lt_succ

def nameTurn (s : ParseState ε) (type : String) (kind : VariableKind) (found : List (Name × Token)) :
    Step (Turn (List (Name × Token)) (List (Name × Token))) (s.remaining + 1) ε :=
  (s.newVariable type kind).andThen fun name s₁ h₁ =>
  s₁.advance.andThen fun separator s₂ h₂ =>
  if separator.isSymbol ',' then
    .done (.again ((name, separator) :: found)) s₂ (remaining_lt_succ_trans h₁ h₂)
  else if separator.isSymbol ';' then
    .done (.stop ((name, separator) :: found).reverse) s₂ (remaining_lt_succ_trans h₁ h₂)
  else .fail (unexpected "`,` or `;`" separator) s₂

def parameterTurn (s : ParseState ε) (found : List Parameter) :
    Step (Turn (List Parameter) (List Parameter)) (s.remaining + 1) ε :=
  s.typeName.andThen fun type s₁ h₁ =>
  (s₁.newVariable type.text .argument).andThen fun name s₂ h₂ =>
  s₂.sight fun next =>
  if next.isSymbol ',' then
    s₂.advance.andThen fun comma s₃ h₃ =>
    .done (.again (⟨type, name, some comma⟩ :: found)) s₃ (by omega)
  else .done (.stop (⟨type, name, none⟩ :: found).reverse) s₂ (remaining_lt_succ_trans h₁ h₂)

variable [Emitter ε]

def statementTurn (s : ParseState ε) (found : List Statement) :
    Step (Turn (List Statement) (List Statement)) (s.remaining + 1) ε :=
  s.sight fun next =>
  match StatementKind.ofKind? next.kind with
  | some kind =>
    (s.statementOf kind).andThen fun statement s₁ h₁ =>
    .done (.again (statement :: found)) s₁ (remaining_lt_succ_of_lt h₁)
  | none => .done (.stop found.reverse) s s.remaining_lt_succ

def operationTurn (s : ParseState ε) (left : Expression) :
    Step (Turn Expression Expression) (s.remaining + 1) ε :=
  s.sight fun next =>
  match BinaryOperator.ofKind? next.kind with
  | some operator =>
    s.advance.andThen fun token s₁ h₁ =>
    s₁.term.andThen fun right s₂ h₂ =>
    .done (.again (.binary left token operator right)) (s₂.emit [operator.code])
      (remaining_lt_succ_trans h₁ h₂ :)
  | none => .done (.stop left) s s.remaining_lt_succ

def argumentTurn (s : ParseState ε) (before? : Option (Arguments × Token)) :
    Step (Turn (Option (Arguments × Token)) Arguments) (s.remaining + 1) ε :=
  s.expression.andThen fun value s₁ h₁ =>
  s₁.sight fun next =>
  if next.isSymbol ',' then
    s₁.advance.andThen fun comma s₂ h₂ =>
    .done (.again (some (.join before? value, comma))) s₂ (remaining_lt_succ_trans h₁ h₂)
  else .done (.stop (.join before? value)) s₁ (remaining_lt_succ_of_lt h₁)

end ParseState

inductive Loop : Type → Type → Type where
  | classVariables : Loop (List VariableDec) (List VariableDec)
  | subroutines : Loop (List Subroutine) (List Subroutine)
  | localVariables : Loop (List VariableDec) (List VariableDec)
  | names (type : String) (kind : VariableKind) : Loop (List (Name × Token)) (List (Name × Token))
  | parameters : Loop (List Parameter) (List Parameter)
  | statements : Loop (List Statement) (List Statement)
  | operations : Loop Expression Expression
  | arguments : Loop (Option (Arguments × Token)) Arguments

namespace Loop

variable {σ α ε : Type} [Emitter ε]

def turn : Loop σ α → σ → ParseState ε → Reply (Turn σ α) ε
  | .classVariables, found, s =>
    (s.itemTurn VariableKind.ofClassKeyword? ParseState.classVarDec found).reply
  | .subroutines, found, s => (s.itemTurn SubroutineKind.ofKind? ParseState.subroutineDec found).reply
  | .localVariables, found, s =>
    (s.itemTurn VariableKind.ofLocalKeyword? ParseState.varDec found).reply
  | .names type kind, found, s => (s.nameTurn type kind found).reply
  | .parameters, found, s => (s.parameterTurn found).reply
  | .statements, found, s => (s.statementTurn found).reply
  | .operations, left, s => (s.operationTurn left).reply
  | .arguments, before?, s => (s.argumentTurn before?).reply

def run : Loop σ α → σ → ParseState ε → Reply α ε
  | .classVariables, found, s =>
    (s.many VariableKind.ofClassKeyword? ParseState.variableDec found).reply
  | .subroutines, found, s => (s.many SubroutineKind.ofKind? ParseState.subroutine found).reply
  | .localVariables, found, s =>
    (s.many VariableKind.ofLocalKeyword? ParseState.variableDec found).reply
  | .names type kind, found, s => (s.newVariables type kind found).reply
  | .parameters, found, s => (s.moreParameters found).reply
  | .statements, found, s => (s.moreStatements found).reply
  | .operations, left, s => (s.operations left).reply
  | .arguments, before?, s =>
    (s.expression.andThen fun value s₁ h₁ =>
      (s₁.moreArguments (.join before? value)).weaken h₁ : Step Arguments s.remaining ε).reply

end Loop

end Jack
