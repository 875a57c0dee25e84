import Jack.Proofs.Machine.Basic

namespace Jack

def Stands (program : List Instruction) (position : Nat) (fragment : List Instruction) : Prop :=
  fragment <+: program.drop position

namespace Stands

variable {program : List Instruction} {position : Nat} {fragment later : List Instruction}
  {instruction : Instruction}

theorem first (stands : Stands program position (fragment ++ later)) :
    Stands program position fragment :=
  (List.prefix_append _ _).trans stands

theorem rest (stands : Stands program position (fragment ++ later)) :
    Stands program (position + fragment.length) later := by
  obtain ⟨after, same⟩ := stands
  have beyond : program.drop (position + fragment.length) = later ++ after := by
    rw [← List.drop_drop, ← same, List.append_assoc, List.drop_left]
  rw [Stands, beyond]
  exact List.prefix_append later after

theorem head (stands : Stands program position (instruction :: later)) :
    program[position]? = some instruction := by
  obtain ⟨after, same⟩ := stands
  have seen := congrArg List.head? same
  rw [List.head?_drop] at seen
  exact seen.symm

theorem tail (stands : Stands program position (instruction :: later)) :
    Stands program (position + 1) later := by
  have split : Stands program position ([instruction] ++ later) := stands
  exact split.rest

end Stands

namespace Machine

variable {callee : Callee} {program : List Instruction} {goal : Machine → Prop}

theorem Reaches.of_next {machine : Machine} (after : Machine)
    (steps : ∀ scratch, machine.next? callee program scratch = some after)
    (later : Reaches callee program goal after) : Reaches callee program goal machine :=
  .step (fun _ => after) steps fun _ => later

end Machine

open Machine

/-- Wherever the code stands, it takes the first stack and store to the second ones. -/
def Takes (callee : Callee) (code : List Instruction) (stack : List Word) (store : Store)
    (stack' : List Word) (store' : Store) : Prop :=
  ∀ program goal position that temp, Stands program position code →
    (∀ that temp,
      Reaches callee program goal ⟨position + code.length, stack', store', that, temp⟩) →
    Reaches callee program goal ⟨position, stack, store, that, temp⟩

namespace Takes

variable {callee : Callee} {code later : List Instruction} {stack stack' stack'' : List Word}
  {store store' store'' : Store}

theorem nothing : Takes callee [] stack store stack store :=
  fun _ _ _ that temp _ reaches => reaches that temp

theorem append (first : Takes callee code stack store stack' store')
    (second : Takes callee later stack' store' stack'' store'') :
    Takes callee (code ++ later) stack store stack'' store'' := by
  intro program goal position that temp stands reaches
  apply first program goal position that temp stands.first
  intro that temp
  apply second program goal _ that temp stands.rest
  intro that temp
  rw [Nat.add_assoc, ← List.length_append]
  exact reaches that temp

theorem of_next {instruction : Instruction}
    (steps : ∀ program position that temp scratch, program[position]? = some instruction →
      next? callee program scratch ⟨position, stack, store, that, temp⟩ =
        some ⟨position + 1, stack', store', that, temp⟩) :
    Takes callee [instruction] stack store stack' store' := by
  intro program goal position that temp stands reaches
  have here := stands.head
  exact .of_next _ (fun scratch => steps program position that temp scratch here) (reaches that temp)

theorem constant (index : UInt16) :
    Takes callee [.push .constant index] stack store (index :: stack) store := by
  apply of_next
  intro program position that temp scratch here
  simp [next?, here, push?, advance]

theorem this : Takes callee [.push .pointer 0] stack store (store.this :: stack) store := by
  apply of_next
  intro program position that temp scratch here
  simp [next?, here, push?, advance]

theorem push (slot : Slot) : Takes callee [slot.push] stack store (store.read slot :: stack) store := by
  apply of_next
  intro program position that temp scratch here
  obtain ⟨kind, index⟩ := slot
  cases kind <;> simp [next?, here, Slot.push, push?, advance, Segment.ofVariable, Store.read]

theorem pop (slot : Slot) (word : Word) :
    Takes callee [slot.pop] (word :: stack) store stack (store.write slot word) := by
  apply of_next
  intro program position that temp scratch here
  obtain ⟨kind, index⟩ := slot
  cases kind <;> simp [next?, here, Slot.pop, pop?, advance, Segment.ofVariable]

theorem discard (word : Word) : Takes callee [.pop .temp 0] (word :: stack) store stack store := by
  intro program goal position that temp stands reaches
  have here := stands.head
  apply Reaches.of_next ⟨position + 1, stack, store, that, Function.update temp 0 word⟩
  · intro scratch
    simp [next?, here, pop?, advance]
  exact reaches _ _

theorem apply {operation : Operation} (runs : operation.run? stack = some stack') :
    Takes callee [.apply operation] stack store stack' store := by
  apply of_next
  intro program position that temp scratch here
  simp [next?, here, runs, advance]

theorem add (left right : Word) :
    Takes callee [.apply .add] (right :: left :: stack) store ((left + right) :: stack) store :=
  apply rfl

theorem call (name : String) (count : UInt16) (words : List Word) (all : count.toNat = words.length) :
    Takes callee [.call name count] (words.reverse ++ stack) store
      ((store.call callee name words).1 :: stack) (store.call callee name words).2 := by
  intro program goal position that temp stands reaches
  have here := stands.head
  have enough : count.toNat ≤ (words.reverse ++ stack).length := by
    simp [all]
  have taken : ((words.reverse ++ stack).take count.toNat).reverse = words := by
    rw [all, ← List.length_reverse, List.take_left, List.reverse_reverse]
  have left : (words.reverse ++ stack).drop count.toNat = stack := by
    rw [all, ← List.length_reverse, List.drop_left]
  apply Reaches.step (fun scratch => ⟨position + 1, (store.call callee name words).1 :: stack,
    (store.call callee name words).2, that, scratch⟩)
  · intro scratch
    simp only [next?, here, if_pos enough, taken, left]
  · intro scratch
    exact reaches that scratch

theorem callObject (name : String) (count : UInt16) (object : Word) (words : List Word)
    (all : count.toNat = words.length + 1) :
    Takes callee [.call name count] (words.reverse ++ object :: stack) store
      ((store.call callee name (object :: words)).1 :: stack)
      (store.call callee name (object :: words)).2 := by
  have called : Takes callee [.call name count] ((object :: words).reverse ++ stack) store _ _ :=
    call name count (object :: words) all
  rwa [List.reverse_cons, List.append_assoc] at called

theorem readElement (offset base : Word) :
    Takes callee [.apply .add, .pop .pointer 1, .push .thatCell 0] (offset :: base :: stack) store
      (store.heap (base + offset) :: stack) store := by
  intro program goal position that temp stands reaches
  have add := stands.head
  have pop := stands.tail.head
  have push := stands.tail.tail.head
  apply Reaches.of_next ⟨position + 1, (base + offset) :: stack, store, that, temp⟩
  · intro scratch
    simp [next?, add, Operation.run?, advance]
  apply Reaches.of_next ⟨position + 1 + 1, stack, store, base + offset, temp⟩
  · intro scratch
    simp [next?, pop, pop?, advance]
  apply Reaches.of_next
    ⟨position + 1 + 1 + 1, store.heap (base + offset) :: stack, store, base + offset, temp⟩
  · intro scratch
    simp [next?, push, push?, advance]
  exact reaches _ _

/-- The word waits in the temp segment while `that` takes the address below it. -/
theorem storeElement (word address : Word) :
    Takes callee storeCode (word :: address :: stack) store stack (store.writeHeap address word) := by
  intro program goal position that temp stands reaches
  have keep := stands.head
  have point := stands.tail.head
  have back := stands.tail.tail.head
  have put := stands.tail.tail.tail.head
  apply Reaches.of_next
    ⟨position + 1, address :: stack, store, that, Function.update temp 0 word⟩
  · intro scratch
    simp [next?, keep, pop?, advance]
  apply Reaches.of_next
    ⟨position + 1 + 1, stack, store, address, Function.update temp 0 word⟩
  · intro scratch
    simp [next?, point, pop?, advance]
  apply Reaches.of_next
    ⟨position + 1 + 1 + 1, word :: stack, store, address, Function.update temp 0 word⟩
  · intro scratch
    simp [next?, back, push?, advance]
  apply Reaches.of_next
    ⟨position + 1 + 1 + 1 + 1, stack, store.writeHeap address word, address,
      Function.update temp 0 word⟩
  · intro scratch
    simp [next?, put, pop?, advance]
  exact reaches _ _

end Takes

end Jack
