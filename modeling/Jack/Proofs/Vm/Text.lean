import Jack.Vm.Text

namespace Jack

def ended (line : String) : String :=
  line ++ "\n"

theorem intercalate_ended (line : String) (lines : List String) :
    String.intercalate "\n" (line :: lines) ++ "\n" = String.join ((line :: lines).map ended) := by
  induction lines generalizing line with
  | nil => simp [ended]
  | cons next lines ih =>
    have rest := ih next
    rw [String.intercalate_cons_cons, List.map_cons, String.join_cons, ← rest, ended]
    simp only [String.append_assoc]

theorem textOfLines_eq {lines : List String} (visible : ∀ line ∈ lines, line ≠ "") :
    textOfLines lines = String.join (lines.map ended) := by
  cases lines with
  | nil => rfl
  | cons line lines =>
    have visibleLine : line ≠ "" := visible line List.mem_cons_self
    have text : String.intercalate "\n" (line :: lines) ≠ "" := by
      cases lines with
      | nil => rwa [String.intercalate_singleton]
      | cons next lines =>
        rw [String.intercalate_cons_cons]
        simp [visibleLine]
    rw [textOfLines, ← intercalate_ended]
    simp [text]

theorem Operation.text_ne_empty (operation : Operation) : operation.text ≠ "" := by
  cases operation <;> decide

theorem Instruction.lines_visible (instruction : Instruction) :
    ∀ line ∈ instruction.lines, line ≠ "" := by
  cases instruction <;> simp [lines, Operation.text_ne_empty]

theorem vmText_eq (code : List Instruction) :
    vmText code = String.join (code.flatMap fun instruction => instruction.lines.map ended) := by
  have visible : ∀ line ∈ vmLines code, line ≠ "" := by
    intro line member
    obtain ⟨instruction, _, inside⟩ := List.mem_flatMap.mp member
    exact instruction.lines_visible line inside
  rw [vmText, textOfLines_eq visible, vmLines, List.map_flatMap]

theorem vmText_append (code later : List Instruction) :
    vmText (code ++ later) = vmText code ++ vmText later := by
  rw [vmText_eq, vmText_eq, vmText_eq, List.flatMap_append, String.join_append]

end Jack
