import Jack.Proofs.Machine.Evaluation
import Jack.Proofs.Machine.Jump

namespace Jack

/-- The machine is where the ending leaves it: at `stop` if the run goes on, and otherwise at a return
with the returned word on the stack. -/
def Ending.Meets (program : List Instruction) (stop : Nat) (stack : List Word) :
    Ending → Machine → Prop
  | next store, machine =>
    machine.position = stop ∧ machine.stack = stack ∧ machine.store = store
  | returned word store, machine =>
    program[machine.position]? = some .ret ∧ machine.stack = word :: stack ∧ machine.store = store

open Machine

/-- Wherever the code stands in the program, it takes the store to the ending. -/
def Performs (callee : Callee) (program code : List Instruction) (stack : List Word) (store : Store)
    (ending : Ending) : Prop :=
  ∀ position that temp, Stands program position code →
    Reaches callee program (ending.Meets program (position + code.length) stack)
      ⟨position, stack, store, that, temp⟩

variable {callee : Callee} {program code later condition body alternative : List Instruction}
  {goal : Machine → Prop} {position stop target : Nat} {name top out : String} {stack : List Word}
  {store middle last : Store} {word : Word} {that : Word} {temp : UInt16 → Word} {ending : Ending}

theorem Machine.Reaches.goesOn {machine : Machine}
    (inside : Reaches callee program (ending.Meets program position stack) machine)
    (later : ∀ store that temp, ending = .next store →
      Reaches callee program (ending.Meets program stop stack) ⟨position, stack, store, that, temp⟩) :
    Reaches callee program (ending.Meets program stop stack) machine := by
  apply inside.trans
  intro last meets
  cases ending with
  | next store =>
    obtain ⟨_, _, _, that, temp⟩ := last
    obtain ⟨rfl, rfl, rfl⟩ := meets
    exact later _ that temp rfl
  | returned word store => exact .here meets

theorem Machine.Reaches.throughLabel {machine : Machine}
    (inside : Reaches callee program (ending.Meets program position stack) machine)
    (here : program[position]? = some (.label name)) (next : stop = position + 1) :
    Reaches callee program (ending.Meets program stop stack) machine := by
  apply inside.goesOn
  intro store that temp same
  rw [same]
  exact .label here (.here ⟨next.symm, rfl, rfl⟩)

namespace Takes

theorem performs (takes : Takes callee code stack store stack middle) :
    Performs callee program code stack store (.next middle) := by
  intro position that temp stands
  apply takes program _ position that temp stands
  intro that temp
  exact .here ⟨rfl, rfl, rfl⟩

theorem passes (tested : Takes callee condition stack store (word :: stack) middle) (holds : word ≠ 0)
    (stands : Stands program position (condition ++ .jumpIfFalse name :: later))
    (inside : ∀ that temp, Reaches callee program goal
      ⟨position + condition.length + 1, stack, middle, that, temp⟩) :
    Reaches callee program goal ⟨position, stack, store, that, temp⟩ := by
  apply tested program goal position that temp stands.first
  intro that temp
  exact .passNonzero holds stands.rest.head (inside that temp)

theorem jumps (tested : Takes callee condition stack store (0 :: stack) middle)
    (apart : (labels program).Nodup)
    (stands : Stands program position (condition ++ .jumpIfFalse name :: later))
    (there : program[target]? = some (.label name))
    (outside : ∀ that temp, Reaches callee program goal ⟨target + 1, stack, middle, that, temp⟩) :
    Reaches callee program goal ⟨position, stack, store, that, temp⟩ := by
  apply tested program goal position that temp stands.first
  intro that temp
  exact .jumpOnZero apart stands.rest.head there (.label there (outside that temp))

end Takes

namespace Performs

theorem nothing : Performs callee program [] stack store (.next store) :=
  fun _ _ _ _ => .here ⟨rfl, rfl, rfl⟩

theorem goesOn (first : Performs callee program code stack store (.next middle))
    (second : Performs callee program later stack middle ending) :
    Performs callee program (code ++ later) stack store ending := by
  intro position that temp stands
  have here := first position that temp stands.first
  apply here.trans
  rintro ⟨_, _, _, that, temp⟩ ⟨rfl, rfl, rfl⟩
  have there := second _ that temp stands.rest
  rwa [Nat.add_assoc, ← List.length_append] at there

theorem stops (first : Performs callee program code stack store (.returned word last)) :
    Performs callee program (code ++ later) stack store (.returned word last) := by
  intro position that temp stands
  exact first position that temp stands.first

theorem leaves (takes : Takes callee code stack store (word :: stack) middle) :
    Performs callee program (code ++ [.ret]) stack store (.returned word middle) := by
  intro position that temp stands
  apply takes program _ position that temp stands.first
  intro that temp
  exact .here ⟨stands.rest.head, rfl, rfl⟩

end Performs

namespace Takes

theorem whenTrue (tested : Takes callee condition stack store (word :: stack) middle)
    (holds : word ≠ 0) (inside : Performs callee program body stack middle ending) :
    Performs callee program (condition ++ .jumpIfFalse name :: (body ++ [.label name])) stack store
      ending := by
  intro position that temp stands
  apply tested.passes holds stands
  intro that temp
  have within := stands.rest.tail
  have done := inside _ that temp within.first
  apply done.throughLabel within.rest.head
  simp only [List.length_append, List.length_cons, List.length_nil]
  omega

theorem whenFalse (tested : Takes callee condition stack store (0 :: stack) middle)
    (apart : (labels program).Nodup) :
    Performs callee program (condition ++ .jumpIfFalse name :: (body ++ [.label name])) stack store
      (.next middle) := by
  intro position that temp stands
  apply tested.jumps apart stands stands.rest.tail.rest.head
  intro that temp
  refine .here ⟨?_, rfl, rfl⟩
  simp only [List.length_append, List.length_cons, List.length_nil]
  omega

theorem elseTrue (tested : Takes callee condition stack store (word :: stack) middle)
    (holds : word ≠ 0) (apart : (labels program).Nodup)
    (inside : Performs callee program body stack middle ending) :
    Performs callee program
      (condition ++ .jumpIfFalse name ::
        (body ++ .jump out :: .label name :: (alternative ++ [.label out])))
      stack store ending := by
  intro position that temp stands
  apply tested.passes holds stands
  intro that temp
  have within := stands.rest.tail
  have done := inside _ that temp within.first
  have there := within.rest.tail.tail.rest.head
  apply done.goesOn
  intro store that temp same
  rw [same]
  apply Reaches.jump apart within.rest.head there
  apply Reaches.label there
  refine .here ⟨?_, rfl, rfl⟩
  simp only [List.length_append, List.length_cons, List.length_nil]
  omega

theorem elseFalse (tested : Takes callee condition stack store (0 :: stack) middle)
    (apart : (labels program).Nodup)
    (inside : Performs callee program alternative stack middle ending) :
    Performs callee program
      (condition ++ .jumpIfFalse name ::
        (body ++ .jump out :: .label name :: (alternative ++ [.label out])))
      stack store ending := by
  intro position that temp stands
  have otherwise := stands.rest.tail.rest.tail
  apply tested.jumps apart stands otherwise.head
  intro that temp
  have done := inside _ that temp otherwise.tail.first
  apply done.throughLabel otherwise.tail.rest.head
  simp only [List.length_append, List.length_cons, List.length_nil]
  omega

theorem loopEnds (tested : Takes callee condition stack store (0 :: stack) middle)
    (apart : (labels program).Nodup) :
    Performs callee program
      (.label top :: (condition ++ .jumpIfFalse out :: (body ++ [.jump top, .label out])))
      stack store (.next middle) := by
  intro position that temp stands
  apply Reaches.label stands.head
  apply tested.jumps apart stands.tail stands.tail.rest.tail.rest.tail.head
  intro that temp
  refine .here ⟨?_, rfl, rfl⟩
  simp only [List.length_append, List.length_cons, List.length_nil]
  omega

theorem loopAgain (tested : Takes callee condition stack store (word :: stack) middle)
    (holds : word ≠ 0) (apart : (labels program).Nodup)
    (inside : Performs callee program body stack middle (.next last))
    (again : Performs callee program
      (.label top :: (condition ++ .jumpIfFalse out :: (body ++ [.jump top, .label out])))
      stack last ending) :
    Performs callee program
      (.label top :: (condition ++ .jumpIfFalse out :: (body ++ [.jump top, .label out])))
      stack store ending := by
  intro position that temp stands
  apply Reaches.label stands.head
  apply tested.passes holds stands.tail
  intro that temp
  have within := stands.tail.rest.tail
  apply (inside _ that temp within.first).trans
  rintro ⟨_, _, _, that, temp⟩ ⟨rfl, rfl, rfl⟩
  exact .jump apart within.rest.head stands.head (again position that temp stands)

theorem loopStops {result : Word} (tested : Takes callee condition stack store (word :: stack) middle)
    (holds : word ≠ 0) (inside : Performs callee program body stack middle (.returned result last)) :
    Performs callee program
      (.label top :: (condition ++ .jumpIfFalse out :: (body ++ [.jump top, .label out])))
      stack store (.returned result last) := by
  intro position that temp stands
  apply Reaches.label stands.head
  apply tested.passes holds stands.tail
  intro that temp
  exact inside _ that temp stands.tail.rest.tail.first

end Takes

end Jack
