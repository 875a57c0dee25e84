import Jack.Proofs.Program.Code

namespace Jack

/-- The instruction that follows is the next to run, and nothing jumps here. -/
def Instruction.isStraight : Instruction → Bool
  | .push _ _ | .pop _ _ | .apply _ | .call _ _ => true
  | .label _ | .jump _ | .jumpIfFalse _ | .function _ _ | .ret => false

def Straight (code : List Instruction) : Prop :=
  ∀ instruction ∈ code, instruction.isStraight

@[simp] theorem straight_nil : Straight [] := by
  simp [Straight]

@[simp] theorem straight_cons {instruction : Instruction} {code : List Instruction} :
    Straight (instruction :: code) ↔ instruction.isStraight ∧ Straight code :=
  List.forall_mem_cons

@[simp] theorem straight_append {code later : List Instruction} :
    Straight (code ++ later) ↔ Straight code ∧ Straight later :=
  List.forall_mem_append

theorem Straight.filterMap_eq_nil {α : Type} {part : Instruction → Option α} {code : List Instruction}
    (straight : Straight code)
    (lacks : ∀ instruction : Instruction, instruction.isStraight → part instruction = none) :
    code.filterMap part = [] := by
  apply List.filterMap_eq_nil_iff.mpr
  intro instruction member
  exact lacks instruction (straight instruction member)

@[simp] theorem Slot.isStraight_push (slot : Slot) : slot.push.isStraight := rfl

@[simp] theorem Slot.isStraight_pop (slot : Slot) : slot.pop.isStraight := rfl

@[simp] theorem isStraight_call (name : String) (argumentCount : UInt16) :
    (Instruction.call name argumentCount).isStraight := rfl

namespace Name

theorem straight_pushCode (name : Name) : Straight name.pushCode := by
  intro instruction member
  obtain ⟨slot, _, rfl⟩ := List.mem_map.mp member
  rfl

theorem straight_popCode (name : Name) : Straight name.popCode := by
  intro instruction member
  obtain ⟨slot, _, rfl⟩ := List.mem_map.mp member
  rfl

end Name

theorem Constant.straight_code (value : Constant) : Straight value.code := by
  cases value with
  | string contents =>
    intro instruction member
    simp only [code, stringCode, charCode, List.mem_cons, List.mem_flatMap, List.not_mem_nil,
      or_false] at member
    rcases member with rfl | rfl | ⟨c, _, rfl | rfl⟩ <;> rfl
  | integer value => simp [code, Instruction.isStraight]
  | truth => simp [code, Instruction.isStraight]
  | falsity => simp [code, Instruction.isStraight]
  | null => simp [code, Instruction.isStraight]
  | this => simp [code, Instruction.isStraight]

theorem UnaryOperator.isStraight_code (operator : UnaryOperator) : operator.code.isStraight := by
  cases operator <;> rfl

theorem BinaryOperator.isStraight_code (operator : BinaryOperator) : operator.code.isStraight := by
  cases operator <;> rfl

section

variable (context : Context)

mutual

theorem Term.straight_code (term : Term) : Straight (term.code context) := by
  cases term with
  | constant token value => exact value.straight_code
  | use name => exact name.straight_pushCode
  | element array opening index closing =>
    have inside := index.straight_code
    simp [Term.code, array.straight_pushCode, inside, Instruction.isStraight]
  | call call => exact call.straight_code
  | group opening inner closing => exact inner.straight_code
  | unary token operator operand =>
    have inside := operand.straight_code
    simp [Term.code, inside, operator.isStraight_code]

theorem Expression.straight_code (value : Expression) : Straight (value.code context) := by
  cases value with
  | term term => exact term.straight_code
  | binary left token operator right =>
    have first := left.straight_code
    have second := right.straight_code
    simp [Expression.code, first, second, operator.isStraight_code]

theorem Call.straight_code (call : Call) : Straight (call.code context) := by
  cases call with
  | plain subroutine opening arguments closing =>
    have passed := arguments.straight_code
    simp [Call.code, passed, Instruction.isStraight]
  | qualified qualifier dot subroutine opening arguments closing =>
    have passed := arguments.straight_code
    cases object : qualifier.slot? with
    | some slot => simp [Call.code, object, passed]
    | none => simp [Call.code, object, passed]

theorem Arguments.straight_code (arguments : Arguments) : Straight (arguments.code context) := by
  cases arguments with
  | none => exact straight_nil
  | one value => exact value.straight_code
  | more before comma value =>
    have first := before.straight_code
    have second := value.straight_code
    simp [Arguments.code, first, second]

end

end

end Jack
