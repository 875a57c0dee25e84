import Jack.Parse.Expression
import Jack.Program.Statement

namespace Jack

def elseLabel (number : Nat) : String :=
  "IF_ELSE" ++ toString number

def endLabel (number : Nat) : String :=
  "IF_END" ++ toString number

def testLabel (number : Nat) : String :=
  "WHILE_EXP" ++ toString number

def exitLabel (number : Nat) : String :=
  "WHILE_END" ++ toString number

/-- Stores a word under an address pushed before it. -/
def storeCode : List Instruction :=
  [.pop .temp 0, .pop .pointer 1, .push .temp 0, .pop .thatCell 0]

inductive StatementKind where
  | letKind | ifKind | whileKind | doKind | returnKind
deriving DecidableEq, Repr

def StatementKind.ofKind? : LexemeKind → Option StatementKind
  | .keyword .letKw => some letKind
  | .keyword .ifKw => some ifKind
  | .keyword .whileKw => some whileKind
  | .keyword .doKw => some doKind
  | .keyword .returnKw => some returnKind
  | _ => none

namespace ParseState

variable {ε : Type} [Emitter ε]

def letStatement (s : ParseState ε) : Step Statement s.remaining ε :=
  (s.expectKeyword .letKw).andThen fun keyword s₁ h₁ =>
  s₁.expectIdentifier.andThen fun name s₂ h₂ =>
  s₂.attempt (s₂.resolve name) fun entry =>
  s₂.sight fun next =>
  if next.isSymbol '[' then
    (s₂.emit [entry.push]).advance.andThen fun opening s₃ h₃ =>
    s₃.expression.andThen fun index s₄ h₄ =>
    (s₄.expectSymbol ']').andThen fun closing s₅ h₅ =>
    ((s₅.emit [.apply .add]).expectSymbol '=').andThen fun equals s₆ h₆ =>
    s₆.expression.andThen fun value s₇ h₇ =>
    (s₇.expectSymbol ';').andThen fun semicolon s₈ h₈ =>
    .done (.assignElement keyword (.use name entry) opening index closing equals value semicolon)
      (s₈.emit storeCode) (by grind)
  else
    (s₂.expectSymbol '=').andThen fun equals s₃ h₃ =>
    s₃.expression.andThen fun value s₄ h₄ =>
    (s₄.expectSymbol ';').andThen fun semicolon s₅ h₅ =>
    .done (.assign keyword (.use name entry) equals value semicolon) (s₅.emit [entry.pop])
      (by grind)

def doStatement (s : ParseState ε) : Step Statement s.remaining ε :=
  (s.expectKeyword .doKw).andThen fun keyword s₁ h₁ =>
  s₁.call.andThen fun call s₂ h₂ =>
  (s₂.expectSymbol ';').andThen fun semicolon s₃ h₃ =>
  .done (.call keyword call semicolon) (s₃.emit [.pop .temp 0]) (by grind)

/-- A subroutine always returns a word, zero if the statement gives none. -/
def returnStatement (s : ParseState ε) : Step Statement s.remaining ε :=
  (s.expectKeyword .returnKw).andThen fun keyword s₁ h₁ =>
  s₁.sight fun next =>
  if next.isSymbol ';' then
    ((s₁.emit [.push .constant 0]).expectSymbol ';').andThen fun semicolon s₂ h₂ =>
    .done (.leave keyword semicolon) (s₂.emit [.ret]) (by grind)
  else
    s₁.expression.andThen fun value s₂ h₂ =>
    (s₂.expectSymbol ';').andThen fun semicolon s₃ h₃ =>
    .done (.leaveWith keyword value semicolon) (s₃.emit [.ret]) (by grind)

mutual

def ifStatement (s : ParseState ε) : Step Statement s.remaining ε :=
  (s.expectKeyword .ifKw).andThen fun keyword s₁ h₁ =>
  let number := s₁.nextLabel
  (s₁.useLabel.expectSymbol '(').andThen fun opening s₂ h₂ =>
  s₂.expression.andThen fun condition s₃ h₃ =>
  (s₃.expectSymbol ')').andThen fun closing s₄ h₄ =>
  (s₄.emit [.jumpIfFalse (elseLabel number)]).block.andThen fun body s₅ h₅ =>
  s₅.sight fun next =>
  if next.isKeyword .elseKw then
    (s₅.emit [.jump (endLabel number), .label (elseLabel number)]).advance.andThen
      fun elseKeyword s₆ h₆ =>
    s₆.block.andThen fun alternative s₇ h₇ =>
    .done (.whenElse keyword opening condition closing body elseKeyword alternative)
      (s₇.emit [.label (endLabel number)]) (by grind)
  else
    .done (.when keyword opening condition closing body)
      (s₅.emit [.label (elseLabel number)]) (by grind)
termination_by 4 * s.remaining
decreasing_by all_goals grind

def whileStatement (s : ParseState ε) : Step Statement s.remaining ε :=
  (s.expectKeyword .whileKw).andThen fun keyword s₁ h₁ =>
  let number := s₁.nextLabel
  ((s₁.useLabel.emit [.label (testLabel number)]).expectSymbol '(').andThen fun opening s₂ h₂ =>
  s₂.expression.andThen fun condition s₃ h₃ =>
  (s₃.expectSymbol ')').andThen fun closing s₄ h₄ =>
  (s₄.emit [.jumpIfFalse (exitLabel number)]).block.andThen fun body s₅ h₅ =>
  .done (.loop keyword opening condition closing body)
    (s₅.emit [.jump (testLabel number), .label (exitLabel number)]) (by grind)
termination_by 4 * s.remaining
decreasing_by all_goals grind

def statementOf (s : ParseState ε) (kind : StatementKind) : Step Statement s.remaining ε :=
  match kind with
  | .letKind => s.letStatement
  | .ifKind => s.ifStatement
  | .whileKind => s.whileStatement
  | .doKind => s.doStatement
  | .returnKind => s.returnStatement
termination_by 4 * s.remaining + 1
decreasing_by all_goals omega

def block (s : ParseState ε) : Step Block s.remaining ε :=
  (s.expectSymbol '{').andThen fun opening s₁ h₁ =>
  s₁.statements.andThen fun statements s₂ h₂ =>
  (s₂.expectSymbol '}').andThen fun closing s₃ h₃ =>
  .done (.braces opening statements closing) s₃ (by omega)
termination_by 4 * s.remaining + 3
decreasing_by all_goals omega

def statements (s : ParseState ε) : Step (List Statement) (s.remaining + 1) ε :=
  s.moreStatements []
termination_by 4 * s.remaining + 3
decreasing_by all_goals omega

def moreStatements (s : ParseState ε) (found : List Statement) :
    Step (List Statement) (s.remaining + 1) ε :=
  s.sight fun next =>
  match StatementKind.ofKind? next.kind with
  | some kind =>
    (s.statementOf kind).andThen fun statement s₁ h₁ =>
    (s₁.moreStatements (statement :: found)).weaken (remaining_succ_le_succ h₁)
  | none => .done found.reverse s s.remaining_lt_succ
termination_by 4 * s.remaining + 2
decreasing_by all_goals omega

end

end ParseState

end Jack
