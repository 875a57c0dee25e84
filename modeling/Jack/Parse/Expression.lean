import Jack.Parse.Step
import Jack.Program.Expression

namespace Jack

inductive TermStart where
  | constant (value : Constant)
  | group
  | unary (operator : UnaryOperator)
  | name
deriving DecidableEq, Repr

namespace TermStart

def ofSymbol? (mark : Char) : Option TermStart :=
  if mark = '(' then some group else (UnaryOperator.ofSymbol? mark).map unary

def ofKind? (kind : LexemeKind) : Option TermStart :=
  match kind with
  | .identifier => some name
  | .symbol mark => ofSymbol? mark
  | _ => (Constant.ofKind? kind).map constant

end TermStart

namespace ParseState

variable {ε : Type}

/-- A qualifier that begins with a capital letter is always a class. -/
def qualifierVariable? (s : ParseState ε) (qualifier : String) : Option Variable :=
  if qualifier.toList.head?.any Char.isUpper then none else s.names.lookup? qualifier

variable [Emitter ε]

mutual

def term (s : ParseState ε) : Step Term s.remaining ε :=
  s.advance.andThen fun token s₁ h₁ =>
  match TermStart.ofKind? token.kind with
  | some (.constant value) => .done (.constant token value) (s₁.emit value.code) h₁
  | some .group =>
    s₁.expression.andThen fun inner s₂ h₂ =>
    (s₂.expectSymbol ')').andThen fun closing s₃ h₃ =>
    .done (.group token inner closing) s₃ (remaining_lt_trans h₁ h₂ h₃)
  | some (.unary operator) =>
    s₁.term.andThen fun operand s₂ h₂ =>
    .done (.unary token operator operand) (s₂.emit [operator.code]) (by grind)
  | some .name => (s₁.nameTerm token).weaken (remaining_succ_le h₁)
  | none => .fail (unexpected "term" token) s₁
termination_by 5 * s.remaining + 2
decreasing_by all_goals omega

/-- The term that begins with a name just read. The token after the name tells an array element from
a call from a variable. -/
def nameTerm (s : ParseState ε) (token : Token) : Step Term (s.remaining + 1) ε :=
  s.sight fun next =>
  if next.isSymbol '[' then
    s.attempt (s.resolve token) fun entry =>
    (s.emit [entry.push]).advance.andThen fun opening s₁ h₁ =>
    s₁.expression.andThen fun index s₂ h₂ =>
    (s₂.expectSymbol ']').andThen fun closing s₃ h₃ =>
    .done (.element (.use token entry) opening index closing)
      (s₃.emit [.apply .add, .pop .pointer 1, .push .thatCell 0]) (by grind)
  else if next.isSymbol '(' || next.isSymbol '.' then
    s.giveBack.andThen fun _ s₁ h₁ =>
    s₁.call.andThen fun call s₂ h₂ => .done (.call call) s₂ (by omega)
  else
    s.attempt (s.resolve token) fun entry =>
    .done (.use (.use token entry)) (s.emit [entry.push]) (by grind)
termination_by 5 * s.remaining + 6
decreasing_by all_goals grind

/-- Terms joined by operators, applied strictly from left to right. The code is emitted as the parts are read,
operands before the operator that joins them. -/
def expression (s : ParseState ε) : Step Expression s.remaining ε :=
  s.term.andThen fun first s₁ h₁ => (s₁.operations (.term first)).weaken (remaining_succ_le h₁)
termination_by 5 * s.remaining + 3
decreasing_by all_goals omega

def operations (s : ParseState ε) (left : Expression) : Step Expression (s.remaining + 1) ε :=
  s.sight fun next =>
  match BinaryOperator.ofKind? next.kind with
  | some operator =>
    s.advance.andThen fun token s₁ h₁ =>
    s₁.term.andThen fun right s₂ h₂ =>
    ((s₂.emit [operator.code]).operations (.binary left token operator right)).weaken (by grind)
  | none => .done left s s.remaining_lt_succ
termination_by 5 * s.remaining + 3
decreasing_by all_goals grind

def call (s : ParseState ε) : Step Call s.remaining ε :=
  s.expectIdentifier.andThen fun first s₁ h₁ =>
  s₁.sight fun next =>
  if next.isSymbol '.' then
    match s₁.qualifierVariable? first.text with
    | none =>
      (s₁.qualifiedCall ⟨first, .className false⟩ first.text 0).weaken (remaining_le_of_lt h₁)
    | some entry =>
      ((s₁.emit [entry.push]).qualifiedCall (.use first entry) entry.type 1).weaken (by grind)
  else
    ((s₁.emit [.push .pointer 0]).expectSymbol '(').andThen fun opening s₂ h₂ =>
    s₂.arguments.andThen fun arguments s₃ h₃ =>
    (s₃.expectSymbol ')').andThen fun closing s₄ h₄ =>
    .done (.plain ⟨first, .subroutine false⟩ opening arguments closing)
      (s₄.emit [.call (s₄.className ++ "." ++ first.text) (arguments.count + 1).toUInt16])
      (by grind)
termination_by 5 * s.remaining
decreasing_by all_goals grind

/-- The call after its qualifier, which stands for a class and pushed `implicit` arguments. -/
def qualifiedCall (s : ParseState ε) (qualifier : Name) (target : String) (implicit : Nat) :
    Step Call s.remaining ε :=
  s.advance.andThen fun dot s₁ h₁ =>
  s₁.expectIdentifier.andThen fun subroutine s₂ h₂ =>
  (s₂.expectSymbol '(').andThen fun opening s₃ h₃ =>
  s₃.arguments.andThen fun arguments s₄ h₄ =>
  (s₄.expectSymbol ')').andThen fun closing s₅ h₅ =>
  .done (.qualified qualifier dot ⟨subroutine, .subroutine false⟩ opening arguments closing)
    (s₅.emit [.call (target ++ "." ++ subroutine.text) (arguments.count + implicit).toUInt16])
    (by grind)
termination_by 5 * s.remaining
decreasing_by all_goals omega

def arguments (s : ParseState ε) : Step Arguments (s.remaining + 1) ε :=
  s.sight fun next =>
  if next.isSymbol ')' then .done .none s s.remaining_lt_succ
  else
    s.expression.andThen fun value s₁ h₁ =>
    (s₁.moreArguments (.one value)).weaken (remaining_succ_le_succ h₁)
termination_by 5 * s.remaining + 4
decreasing_by all_goals omega

def moreArguments (s : ParseState ε) (before : Arguments) : Step Arguments (s.remaining + 1) ε :=
  s.sight fun next =>
  if next.isSymbol ',' then
    s.advance.andThen fun comma s₁ h₁ =>
    s₁.expression.andThen fun value s₂ h₂ =>
    (s₂.moreArguments (.more before comma value)).weaken (by omega)
  else .done before s s.remaining_lt_succ
termination_by 5 * s.remaining + 4
decreasing_by all_goals omega

end

end ParseState

end Jack
