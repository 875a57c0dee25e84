import Jack.Proofs.Machine.Step
import Jack.Proofs.Program.Labels

namespace Jack

theorem eq_of_nodup_labels {program : List Instruction} (apart : (labels program).Nodup)
    {name : String} {position other : Nat} (here : program[position]? = some (.label name))
    (there : program[other]? = some (.label name)) : position = other := by
  obtain ⟨inside, here⟩ := List.getElem?_eq_some_iff.mp here
  obtain ⟨insideToo, there⟩ := List.getElem?_eq_some_iff.mp there
  have pairwise := List.pairwise_iff_getElem.mp (List.pairwise_filterMap.mp apart)
  have differs : ∀ first last (low : first < program.length) (high : last < program.length),
      first < last → program[first] = .label name → program[last] ≠ .label name := by
    intro first last low high before one two
    have unequal := pairwise first last low high before
    rw [one, two] at unequal
    exact unequal name rfl name rfl rfl
  rcases Nat.lt_trichotomy position other with before | same | after
  · exact absurd there (differs position other inside insideToo before here)
  · exact same
  · exact absurd here (differs other position insideToo inside after there)

namespace Machine

theorem target?_eq {program : List Instruction} (apart : (labels program).Nodup) {name : String}
    {position : Nat} (here : program[position]? = some (.label name)) :
    target? program name = some position := by
  have found : (target? program name).isSome := by
    rw [target?, List.findIdx?_isSome, List.any_eq_true]
    exact ⟨.label name, List.mem_of_getElem? here, by simp⟩
  obtain ⟨other, same⟩ := Option.isSome_iff_exists.mp found
  obtain ⟨inside, is, _⟩ := List.findIdx?_eq_some_iff_getElem.mp same
  have there : program[other]? = some (.label name) := by
    rw [List.getElem?_eq_getElem inside, eq_of_beq is]
  rw [same, eq_of_nodup_labels apart here there]

variable {callee : Callee} {program : List Instruction} {goal : Machine → Prop}
  {position target : Nat} {name : String} {stack : List Word} {store : Store} {that : Word}
  {temp : UInt16 → Word}

namespace Reaches

theorem trans {middle : Machine → Prop} {machine : Machine}
    (first : Reaches callee program middle machine)
    (later : ∀ last, middle last → Reaches callee program goal last) :
    Reaches callee program goal machine := by
  induction first with
  | here met => exact later _ met
  | step after steps _ ih => exact .step after steps ih

theorem label (here : program[position]? = some (.label name))
    (later : Reaches callee program goal ⟨position + 1, stack, store, that, temp⟩) :
    Reaches callee program goal ⟨position, stack, store, that, temp⟩ := by
  apply of_next _ _ later
  intro scratch
  simp [next?, here, advance]

theorem jump (apart : (labels program).Nodup) (here : program[position]? = some (.jump name))
    (there : program[target]? = some (.label name))
    (later : Reaches callee program goal ⟨target, stack, store, that, temp⟩) :
    Reaches callee program goal ⟨position, stack, store, that, temp⟩ := by
  apply of_next _ _ later
  intro scratch
  simp [next?, here, jumpTo?, target?_eq apart there]

theorem jumpOnZero (apart : (labels program).Nodup)
    (here : program[position]? = some (.jumpIfFalse name))
    (there : program[target]? = some (.label name))
    (later : Reaches callee program goal ⟨target, stack, store, that, temp⟩) :
    Reaches callee program goal ⟨position, 0 :: stack, store, that, temp⟩ := by
  apply of_next _ _ later
  intro scratch
  simp [next?, here, jumpTo?, target?_eq apart there]

theorem passNonzero {word : Word} (holds : word ≠ 0)
    (here : program[position]? = some (.jumpIfFalse name))
    (later : Reaches callee program goal ⟨position + 1, stack, store, that, temp⟩) :
    Reaches callee program goal ⟨position, word :: stack, store, that, temp⟩ := by
  apply of_next _ _ later
  intro scratch
  simp [next?, here, holds, advance]

end Reaches

end Machine

end Jack
