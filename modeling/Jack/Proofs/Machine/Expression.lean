import Jack.Proofs.Machine.Evaluation
import Jack.Proofs.Machine.Step
import Jack.Proofs.Program.Calls
import Jack.Proofs.Program.Scope

namespace Jack

variable {callee : Callee} {context : Context} {names : VariableTable} {stack : List Word}
  {store : Store}

namespace Name

theorem takes_pushCode {name : Name} (uses : name.Uses names) :
    Takes callee name.pushCode stack store (store.readName name :: stack) store := by
  obtain ⟨entry, _, same⟩ := uses
  rw [same, pushCode_use, ← Variable.push_slot, Store.readName, slot?_use]
  exact .push entry.slot

theorem takes_popCode {name : Name} (uses : name.Uses names) (word : Word) :
    Takes callee name.popCode (word :: stack) store stack (store.writeName name word) := by
  obtain ⟨entry, _, same⟩ := uses
  rw [same, popCode_use, ← Variable.pop_slot, Store.writeName, slot?_use]
  exact .pop entry.slot word

end Name

namespace Constant

theorem takes_charCode (made : Word × Store) (c : Char) :
    Takes callee (charCode c) (made.1 :: stack) made.2 ((appendChar callee made c).1 :: stack)
      (appendChar callee made c).2 := by
  have called : Takes callee [.call "String.appendChar" 2] (c.toNat.toUInt16 :: made.1 :: stack)
      made.2 ((appendChar callee made c).1 :: stack) (appendChar callee made c).2 :=
    .call "String.appendChar" 2 [made.1, c.toNat.toUInt16] rfl
  exact (Takes.constant c.toNat.toUInt16).append called

theorem takes_chars (chars : List Char) (made : Word × Store) :
    Takes callee (chars.flatMap charCode) (made.1 :: stack) made.2
      ((chars.foldl (appendChar callee) made).1 :: stack)
      (chars.foldl (appendChar callee) made).2 := by
  induction chars generalizing made with
  | nil => exact .nothing
  | cons c chars ih => exact (takes_charCode made c).append (ih (appendChar callee made c))

theorem takes_code (value : Constant) :
    Takes callee value.code stack store ((value.eval callee store).1 :: stack)
      (value.eval callee store).2 := by
  cases value with
  | integer value => exact .constant value
  | string contents =>
    let empty := store.call callee "String.new" [contents.length.toUInt16]
    have created : Takes callee [.call "String.new" 1] (contents.length.toUInt16 :: stack) store
        (empty.1 :: stack) empty.2 :=
      .call "String.new" 1 [contents.length.toUInt16] rfl
    exact (Takes.constant contents.length.toUInt16).append
      (created.append (takes_chars contents.toList empty))
  | truth => exact (Takes.constant 0).append (.apply rfl)
  | falsity => exact .constant 0
  | null => exact .constant 0
  | this => exact .this

end Constant

theorem UnaryOperator.takes_code (operator : UnaryOperator) (word : Word) :
    Takes callee [operator.code] (word :: stack) store (operator.eval word :: stack) store := by
  cases operator <;> exact .apply rfl

theorem BinaryOperator.takes_code (operator : BinaryOperator) (left right : Word) :
    Takes callee [operator.code] (right :: left :: stack) store
      ((operator.eval callee left right store).1 :: stack)
      (operator.eval callee left right store).2 := by
  cases operator with
  | mul => exact .call "Math.multiply" 2 [left, right] rfl
  | div => exact .call "Math.divide" 2 [left, right] rfl
  | add => exact .apply rfl
  | sub => exact .apply rfl
  | and => exact .apply rfl
  | or => exact .apply rfl
  | lt => exact .apply rfl
  | gt => exact .apply rfl
  | eq => exact .apply rfl

theorem Arguments.length_eval (callee : Callee) (context : Context) (arguments : Arguments)
    (store : Store) : (arguments.eval callee context store).1.length = arguments.count := by
  cases arguments with
  | none => rfl
  | one value => rfl
  | more before comma value =>
    simp [Arguments.eval, Arguments.count, before.length_eval callee context]

mutual

theorem Term.takes_code (term : Term) (resolved : term.Resolved names)
    (few : term.mostArguments < 65535) (stack : List Word) (store : Store) :
    Takes callee (term.code context) stack store ((term.eval callee context store).1 :: stack)
      (term.eval callee context store).2 := by
  cases term with
  | constant token value => exact value.takes_code
  | use name => exact name.takes_pushCode resolved
  | element array opening index closing =>
    have offset := index.takes_code resolved.2 few (store.readName array :: stack) store
    exact (Name.takes_pushCode resolved.1).append (offset.append (.readElement _ _))
  | call call => exact call.takes_code resolved few stack store
  | group opening inner closing => exact inner.takes_code resolved few stack store
  | unary token operator operand =>
    exact (operand.takes_code resolved few stack store).append (operator.takes_code _)

theorem Expression.takes_code (value : Expression) (resolved : value.Resolved names)
    (few : value.mostArguments < 65535) (stack : List Word) (store : Store) :
    Takes callee (value.code context) stack store ((value.eval callee context store).1 :: stack)
      (value.eval callee context store).2 := by
  cases value with
  | term term => exact term.takes_code resolved few stack store
  | binary left token operator right =>
    rw [Expression.mostArguments] at few
    have first := left.takes_code resolved.1 (by omega) stack store
    have second := right.takes_code resolved.2 (by omega) ((left.eval callee context store).1 :: stack)
      (left.eval callee context store).2
    exact first.append (second.append (operator.takes_code _ _))

theorem Call.takes_code (call : Call) (resolved : call.Resolved names)
    (few : call.mostArguments < 65535) (stack : List Word) (store : Store) :
    Takes callee (call.code context) stack store ((call.eval callee context store).1 :: stack)
      (call.eval callee context store).2 := by
  cases call with
  | plain subroutine opening arguments closing =>
    rw [Call.mostArguments] at few
    have passed := arguments.takes_code resolved.2 (by omega) (store.this :: stack) store
    have count := (arguments.toNat_count (by omega)).2
    rw [← arguments.length_eval callee context store] at count
    exact Takes.this.append (passed.append (.callObject _ _ _ _ count))
  | qualified qualifier dot subroutine opening arguments closing =>
    rw [Call.mostArguments] at few
    have counts := arguments.toNat_count (by omega)
    rw [← arguments.length_eval callee context store] at counts
    cases object : qualifier.slot? with
    | some slot =>
      have passed := arguments.takes_code resolved.2.2 (by omega) (store.read slot :: stack) store
      rw [Call.code, Call.eval, object]
      exact (Takes.push slot).append (passed.append (.callObject _ _ _ _ counts.2))
    | none =>
      have passed := arguments.takes_code resolved.2.2 (by omega) stack store
      rw [Call.code, Call.eval, object]
      exact passed.append (.call _ _ _ counts.1)

theorem Arguments.takes_code (arguments : Arguments) (resolved : arguments.Resolved names)
    (few : arguments.mostArguments < 65535) (stack : List Word) (store : Store) :
    Takes callee (arguments.code context) stack store
      ((arguments.eval callee context store).1.reverse ++ stack)
      (arguments.eval callee context store).2 := by
  cases arguments with
  | none => exact .nothing
  | one value => exact value.takes_code resolved few stack store
  | more before comma value =>
    rw [Arguments.mostArguments] at few
    have first := before.takes_code resolved.1 (by omega) stack store
    have second := value.takes_code resolved.2 (by omega)
      ((before.eval callee context store).1.reverse ++ stack) (before.eval callee context store).2
    have both := first.append second
    simpa [Arguments.eval, Arguments.code] using both

end

end Jack
