import Jack.Proofs.Program.Calls
import Jack.Proofs.Program.Scope

namespace Jack

def Operation.operands : Operation → Nat
  | neg | not => 1
  | add | sub | eq | gt | lt | and | or => 2

namespace Instruction

def takes : Instruction → Nat
  | .push _ _ | .label _ | .jump _ | .function _ _ => 0
  | .pop _ _ | .jumpIfFalse _ | .ret => 1
  | .apply operation => operation.operands
  | .call _ argumentCount => argumentCount.toNat

def gives : Instruction → Nat
  | .push _ _ | .apply _ | .call _ _ => 1
  | .pop _ _ | .label _ | .jump _ | .jumpIfFalse _ | .function _ _ | .ret => 0

def depth? (depth : Nat) (instruction : Instruction) : Option Nat :=
  if instruction.takes ≤ depth then some (depth - instruction.takes + instruction.gives) else none

theorem depth?_eq {instruction : Instruction} {depth after : Nat}
    (found : instruction.depth? depth = some after) :
    instruction.takes ≤ depth ∧ after = depth - instruction.takes + instruction.gives := by
  unfold depth? at found
  split at found
  · cases found
    exact ⟨‹_›, rfl⟩
  · cases found

end Instruction

/-- The depth after all of the code, if no instruction takes more operands than there are. -/
def depthAfter? (depth : Nat) (code : List Instruction) : Option Nat :=
  code.foldlM Instruction.depth? depth

@[simp] theorem depthAfter?_nil (depth : Nat) : depthAfter? depth [] = some depth := rfl

@[simp] theorem depthAfter?_cons (depth : Nat) (instruction : Instruction) (later : List Instruction) :
    depthAfter? depth (instruction :: later) =
      (instruction.depth? depth).bind (depthAfter? · later) := rfl

theorem depthAfter?_singleton (depth : Nat) (instruction : Instruction) :
    depthAfter? depth [instruction] = instruction.depth? depth := by
  simp

@[simp] theorem depthAfter?_append (depth : Nat) (code later : List Instruction) :
    depthAfter? depth (code ++ later) = (depthAfter? depth code).bind (depthAfter? · later) :=
  List.foldlM_append

section

variable {depth : Nat}

@[simp] theorem depth?_push (segment : Segment) (index : UInt16) :
    (Instruction.push segment index).depth? depth = some (depth + 1) := by
  simp [Instruction.depth?, Instruction.takes, Instruction.gives]

@[simp] theorem depth?_pop (segment : Segment) (index : UInt16) :
    (Instruction.pop segment index).depth? (depth + 1) = some depth := by
  simp [Instruction.depth?, Instruction.takes, Instruction.gives]

@[simp] theorem depth?_slotPush (slot : Slot) : slot.push.depth? depth = some (depth + 1) :=
  depth?_push _ _

theorem depth?_call (name : String) {count : UInt16} {arguments : Nat}
    (all : count.toNat = arguments) :
    (Instruction.call name count).depth? (depth + arguments) = some (depth + 1) := by
  simp [Instruction.depth?, Instruction.takes, Instruction.gives, all]

@[simp] theorem depth?_unary (operator : UnaryOperator) :
    operator.code.depth? (depth + 1) = some (depth + 1) := by
  cases operator <;> simp [UnaryOperator.code, Instruction.depth?, Instruction.takes,
    Instruction.gives, Operation.operands]

@[simp] theorem depth?_binary (operator : BinaryOperator) :
    operator.code.depth? (depth + 2) = some (depth + 1) := by
  cases operator with
  | mul => exact depth?_call _ rfl
  | div => exact depth?_call _ rfl
  | _ => simp [BinaryOperator.code, Instruction.depth?, Instruction.takes, Instruction.gives,
      Operation.operands]

end

section

variable {context : Context} {names : VariableTable}

theorem Name.Uses.depth_pushCode {name : Name} (uses : name.Uses names) (depth : Nat) :
    depthAfter? depth name.pushCode = some (depth + 1) := by
  obtain ⟨entry, _, same⟩ := uses
  rw [same, pushCode_use]
  exact depth?_push _ _

theorem Name.Uses.depth_popCode {name : Name} (uses : name.Uses names) (depth : Nat) :
    depthAfter? (depth + 1) name.popCode = some depth := by
  obtain ⟨entry, _, same⟩ := uses
  rw [same, popCode_use]
  exact depth?_pop _ _

theorem Constant.depth_chars (chars : List Char) (depth : Nat) :
    depthAfter? (depth + 1) (chars.flatMap charCode) = some (depth + 1) := by
  induction chars with
  | nil => rfl
  | cons c chars ih =>
    have appended : (Instruction.call "String.appendChar" 2).depth? (depth + 2) =
        some (depth + 1) := depth?_call _ rfl
    simp [charCode, appended, ih]

theorem Constant.depth_code (value : Constant) (depth : Nat) :
    depthAfter? depth value.code = some (depth + 1) := by
  cases value with
  | string contents =>
    have created : (Instruction.call "String.new" 1).depth? (depth + 1) = some (depth + 1) :=
      depth?_call _ rfl
    simp [code, stringCode, created, depth_chars]
  | truth => simp [code, Instruction.depth?, Instruction.takes, Instruction.gives, Operation.operands]
  | integer value => simp [code]
  | falsity => simp [code]
  | null => simp [code]
  | this => simp [code]

mutual

theorem Term.depth_code (term : Term) (resolved : term.Resolved names)
    (few : term.mostArguments < 65535) (depth : Nat) :
    depthAfter? depth (term.code context) = some (depth + 1) := by
  cases term with
  | constant token value => exact value.depth_code depth
  | use name => exact Name.Uses.depth_pushCode resolved depth
  | element array opening index closing =>
    have base := resolved.1.depth_pushCode depth
    have offset := index.depth_code resolved.2 few (depth + 1)
    simp [Term.code, base, offset, Instruction.depth?, Instruction.takes, Instruction.gives,
      Operation.operands]
  | call call => exact call.depth_code resolved few depth
  | group opening inner closing => exact inner.depth_code resolved few depth
  | unary token operator operand =>
    have inside := operand.depth_code resolved few depth
    simp [Term.code, inside]

theorem Expression.depth_code (value : Expression) (resolved : value.Resolved names)
    (few : value.mostArguments < 65535) (depth : Nat) :
    depthAfter? depth (value.code context) = some (depth + 1) := by
  cases value with
  | term term => exact term.depth_code resolved few depth
  | binary left token operator right =>
    have below := Nat.max_lt.mp few
    have first := left.depth_code resolved.1 below.1 depth
    have second := right.depth_code resolved.2 below.2 (depth + 1)
    simp [Expression.code, first, second]

/-- The object of a call is one more operand than the call has arguments. -/
theorem Call.depth_code (call : Call) (resolved : call.Resolved names)
    (few : call.mostArguments < 65535) (depth : Nat) :
    depthAfter? depth (call.code context) = some (depth + 1) := by
  cases call with
  | plain subroutine opening arguments closing =>
    have below := Nat.max_lt.mp few
    have passed := arguments.depth_code resolved.2 below.2 (depth + 1)
    have count := (arguments.toNat_count below.1).2
    rw [Nat.add_assoc, Nat.add_comm 1] at passed
    rw [Call.code, depthAfter?_cons, depth?_push, Option.bind_some, depthAfter?_append, passed,
      Option.bind_some, depthAfter?_singleton]
    exact depth?_call _ count
  | qualified qualifier dot subroutine opening arguments closing =>
    have below := Nat.max_lt.mp few
    have counts := arguments.toNat_count below.1
    cases object : qualifier.slot? with
    | some slot =>
      have passed := arguments.depth_code resolved.2.2 below.2 (depth + 1)
      rw [Nat.add_assoc, Nat.add_comm 1] at passed
      simp only [Call.code, object]
      rw [depthAfter?_cons, depth?_slotPush, Option.bind_some, depthAfter?_append, passed,
        Option.bind_some, depthAfter?_singleton]
      exact depth?_call _ counts.2
    | none =>
      have passed := arguments.depth_code resolved.2.2 below.2 depth
      simp only [Call.code, object]
      rw [depthAfter?_append, passed, Option.bind_some, depthAfter?_singleton]
      exact depth?_call _ counts.1

theorem Arguments.depth_code (arguments : Arguments) (resolved : arguments.Resolved names)
    (few : arguments.mostArguments < 65535) (depth : Nat) :
    depthAfter? depth (arguments.code context) = some (depth + arguments.count) := by
  cases arguments with
  | none => rfl
  | one value => exact value.depth_code resolved few depth
  | more before comma value =>
    have below := Nat.max_lt.mp few
    have first := before.depth_code resolved.1 below.1 depth
    have second := value.depth_code resolved.2 below.2 (depth + before.count)
    simp [Arguments.code, Arguments.count, first, second, Nat.add_assoc]

end

end

end Jack
