import Jack.Proofs.Parse.Expression
import Jack.Proofs.Reading.Basic

namespace Jack

namespace Reading

open ParseState

variable {s : ParseState}

def term : Reading Term := fun s => s.term.reply

def expression : Reading Expression := fun s => s.expression.reply

def operations (left : Expression) : Reading Expression := fun s => (s.operations left).reply

def call : Reading Call := fun s => s.call.reply

def arguments : Reading Arguments := fun s => s.arguments.reply

def moreArguments (before : Arguments) : Reading Arguments := fun s => (s.moreArguments before).reply

def qualifiedCall (qualifier : Name) (target : String) (implicit : Nat) : Reading Call := do
  let dot ← symbol '.'
  let subroutine ← identifier
  let opening ← symbol '('
  let arguments ← arguments
  let closing ← symbol ')'
  emit [.call (target ++ "." ++ subroutine.text) (arguments.count + implicit).toUInt16]
  pure (.qualified qualifier dot ⟨subroutine, .subroutine false⟩ opening arguments closing)

def callAfter (first : Token) : Reading Call := do
  let next ← look
  if next.isSymbol '.' then
    match ← ask (·.qualifierVariable? first.text) with
    | none => qualifiedCall ⟨first, .className false⟩ first.text 0
    | some entry =>
      emit [entry.push]
      qualifiedCall (.use first entry) entry.type 1
  else
    emit [.push .pointer 0]
    let opening ← symbol '('
    let arguments ← arguments
    let closing ← symbol ')'
    let className ← ask (·.className)
    emit [.call (className ++ "." ++ first.text) (arguments.count + 1).toUInt16]
    pure (.plain ⟨first, .subroutine false⟩ opening arguments closing)

def termAfter (token : Token) : Reading Term := do
  let next ← look
  if next.isSymbol '[' then
    let entry ← resolve token
    emit [entry.push]
    let opening ← symbol '['
    let index ← expression
    let closing ← symbol ']'
    emit [.apply .add, .pop .pointer 1, .push .thatCell 0]
    pure (.element (.use token entry) opening index closing)
  else if next.isSymbol '(' || next.isSymbol '.' then
    let call ← callAfter token
    pure (.call call)
  else
    let entry ← resolve token
    emit [entry.push]
    pure (.use (.use token entry))

theorem expression_eq :
    expression = (do
      let first ← term
      operations (.term first)) := by
  funext s
  change (s.expression).reply = _
  rw [ParseState.expression]
  exact reply_andThen rfl fun first t fits _ => rfl

theorem operations_eq (left : Expression) :
    operations left = (do
      let next ← look
      match BinaryOperator.ofKind? next.kind with
      | some operator =>
        let token ← accept (BinaryOperator.ofKind? ·.kind == some operator) "operator"
        let right ← term
        emit [operator.code]
        operations (.binary left token operator right)
      | none => pure left) := by
  funext s
  change (s.operations left).reply = _
  rw [ParseState.operations]
  apply reply_sight
  intro next ahead seen
  cases isOperator : BinaryOperator.ofKind? next.kind with
  | none => rfl
  | some operator =>
    apply reply_advance_of_sight seen (by simp [isOperator])
    intro fits
    exact reply_andThen rfl fun right t fits _ => rfl

theorem arguments_eq :
    arguments = (do
      let next ← look
      if next.isSymbol ')' then pure .none
      else
        let value ← expression
        moreArguments (.one value)) := by
  funext s
  change (s.arguments).reply = _
  rw [ParseState.arguments]
  apply reply_sight
  intro next ahead seen
  by_cases closes : next.isSymbol ')'
  · rw [if_pos closes, if_pos closes]
    rfl
  · rw [if_neg closes, if_neg closes]
    exact reply_andThen rfl fun value t fits _ => rfl

theorem moreArguments_eq (before : Arguments) :
    moreArguments before = (do
      let next ← look
      if next.isSymbol ',' then
        let comma ← symbol ','
        let value ← expression
        moreArguments (.more before comma value)
      else pure before) := by
  funext s
  change (s.moreArguments before).reply = _
  rw [ParseState.moreArguments]
  apply reply_sight
  intro next ahead seen
  by_cases separates : next.isSymbol ','
  · rw [if_pos separates, if_pos separates]
    apply reply_advance_of_sight seen separates
    intro fits
    exact reply_andThen rfl fun value t fits _ => rfl
  · rw [if_neg separates, if_neg separates]
    rfl

theorem reply_qualifiedCall {next : Token} {ahead : List Token}
    (seen : s.cursor.ahead = next :: ahead) (dots : next.isSymbol '.') (qualifier : Name)
    (target : String) (implicit : Nat) :
    (s.qualifiedCall qualifier target implicit).reply = qualifiedCall qualifier target implicit s := by
  rw [ParseState.qualifiedCall]
  apply reply_advance_of_sight seen dots
  intro fits
  apply reply_andThen (reply_expectIdentifier _)
  intro subroutine t fits _
  apply reply_andThen (reply_expectSymbol _ _)
  intro opening t fits _
  apply reply_andThen rfl
  intro arguments t fits _
  apply reply_andThen (reply_expectSymbol _ _)
  intro closing t fits _
  rfl

theorem call_eq :
    call = (do
      let first ← identifier
      callAfter first) := by
  funext s
  change (s.call).reply = _
  rw [ParseState.call]
  apply reply_andThen (reply_expectIdentifier s)
  intro first t fits _
  apply reply_sight
  intro next ahead seen
  by_cases dots : next.isSymbol '.'
  · rw [if_pos dots, if_pos dots, bind_apply, ask]
    dsimp only
    cases t.qualifierVariable? first.text with
    | none => exact reply_qualifiedCall seen dots _ _ _
    | some entry => exact reply_qualifiedCall (s := t.emit [entry.push]) seen dots _ _ _
  · rw [if_neg dots, if_neg dots]
    apply reply_andThen (reply_expectSymbol _ _)
    intro opening t fits _
    apply reply_andThen rfl
    intro arguments t fits _
    apply reply_andThen (reply_expectSymbol _ _)
    intro closing t fits _
    rfl

theorem reply_nameTerm {token : Token} (isName : token.isIdentifier) (rest : List Token) :
    ((after s token rest).nameTerm token).reply = termAfter token (after s token rest) := by
  rw [nameTerm]
  apply reply_sight
  intro next ahead seen
  by_cases opens : next.isSymbol '['
  · rw [if_pos opens, if_pos opens]
    apply reply_resolve
    intro entry
    have seen : ((after s token rest).emit [entry.push]).cursor.ahead = next :: ahead := seen
    apply reply_advance_of_sight seen opens
    intro fits
    apply reply_andThen rfl
    intro index t fits _
    apply reply_andThen (reply_expectSymbol _ _)
    intro closing t fits _
    rfl
  · rw [if_neg opens, if_neg opens]
    by_cases calls : next.isSymbol '(' || next.isSymbol '.'
    · rw [if_pos calls, if_pos calls]
      apply reply_giveBack
      intro fits
      have called : call { s with cursor := ⟨s.cursor.behind, token :: rest, true⟩ } =
          callAfter token (after s token rest) := by
        rw [call_eq, bind_apply, identifier, accept]
        simp only [if_pos isName]
        rfl
      exact reply_andThen called fun call t fits _ => rfl
    · rw [if_neg calls, if_neg calls]
      apply reply_resolve
      intro entry
      rfl

theorem term_eq :
    term = (do
      let token ← accept (fun token => (TermStart.ofKind? token.kind).isSome) "term"
      match TermStart.ofKind? token.kind with
      | some (.constant value) =>
        emit value.code
        pure (.constant token value)
      | some .group =>
        let inner ← expression
        let closing ← symbol ')'
        pure (.group token inner closing)
      | some (.unary operator) =>
        let operand ← term
        emit [operator.code]
        pure (.unary token operator operand)
      | some .name => termAfter token
      | none => throw (unexpected "term" token)) := by
  funext s
  change (s.term).reply = _
  rw [ParseState.term]
  apply reply_advance
  · intro token rest fits _ begins
    cases start : TermStart.ofKind? token.kind with
    | none => simp [start] at begins
    | some start' =>
      cases start' with
      | constant value => rfl
      | group =>
        apply reply_andThen rfl
        intro inner t fits _
        apply reply_andThen (reply_expectSymbol _ _)
        intro closing t fits _
        rfl
      | unary operator => exact reply_andThen rfl fun operand t fits _ => rfl
      | name => exact reply_nameTerm (identifier_of_ofKind? start) rest
  · intro token rest fits _ fails
    cases start : TermStart.ofKind? token.kind with
    | none => rfl
    | some start' => simp [start] at fails

end Reading

end Jack
