import Jack.Proofs.Accepted
import Jack.Proofs.Program.Functions
import Jack.Proofs.Program.Targets

namespace Jack

structure SelfContained (code : List Instruction) : Prop where
  header : ∃ name localCount body, code = .function name localCount :: body ∧ Headless body
  once : ∀ name, .label name ∈ code → code.count (.label name) = 1
  inside : ∀ target, .jump target ∈ code ∨ .jumpIfFalse target ∈ code → .label target ∈ code

theorem ClassDec.selfContained (declaration : ClassDec) (subroutine : Subroutine) :
    SelfContained (declaration.subroutineCode subroutine) := by
  have mem_label : ∀ name, .label name ∈ declaration.subroutineCode subroutine ↔
      name ∈ labels (declaration.subroutineCode subroutine) := by
    intro name
    rw [← List.count_pos_iff, count_label, List.count_pos_iff]
  refine ⟨⟨_, _, _, rfl, declaration.headless_bodyCode subroutine⟩, ?_, ?_⟩
  · intro name defined
    rw [count_label]
    exact List.count_eq_one_of_mem (declaration.nodup_labels subroutine) ((mem_label name).mp defined)
  · intro target jumps
    exact (mem_label target).mpr
      (declaration.targets_subset_subroutineCode subroutine (mem_targets.mpr jumps))

/-- The code of a class falls into functions, and no instruction comes before the first of them. In each
function a label is defined once, and every jump goes to a label of the same function. -/
theorem jumps_stay_in_functions {tokens : List Token} {declaration : ClassDec} {s : ParseState}
    (accepted : parse tokens = .ok declaration s) :
    (splitFunctions s.instructions).1 = [] ∧
      (splitFunctions s.instructions).2.flatten = s.instructions ∧
      ∀ code ∈ (splitFunctions s.instructions).2, SelfContained code := by
  have split := declaration.splitFunctions_code
  rw [← instructions_of_parse accepted] at split
  have whole := splitFunctions_flatten s.instructions
  rw [split] at whole ⊢
  refine ⟨rfl, whole, ?_⟩
  intro code member
  obtain ⟨subroutine, _, rfl⟩ := List.mem_map.mp member
  exact declaration.selfContained subroutine

def sieveTexts : List String :=
  ["class", "Sieve", "\x7b",
    "function", "void", "run", "(", "int", "n", ")", "\x7b",
      "while", "(", "n", ">", "0", ")", "\x7b",
        "if", "(", "n", "=", "2", ")", "\x7b", "return", ";", "\x7d",
        "else", "\x7b", "while", "(", "n", ">", "5", ")", "\x7b",
          "if", "(", "n", "=", "7", ")", "\x7b", "do", "run", "(", "3", ")", ";", "\x7d",
          "let", "n", "=", "n", "-", "1", ";", "\x7d", "\x7d",
        "let", "n", "=", "n", "-", "1", ";", "\x7d",
      "if", "(", "n", "=", "0", ")", "\x7b", "do", "Sieve", ".", "stop", "(", ")", ";", "\x7d",
      "return", ";", "\x7d",
    "function", "void", "stop", "(", ")", "\x7b",
      "if", "(", "true", ")", "\x7b", "\x7d", "else", "\x7b", "return", ";", "\x7d",
      "return", ";", "\x7d", "\x7d"]

theorem jumps_of_sieve :
    ∃ declaration s, parse (lexemes sieveTexts) = .ok declaration s ∧
      (splitFunctions s.instructions).1 = [] ∧
      (splitFunctions s.instructions).2.flatten = s.instructions ∧
      ∀ code ∈ (splitFunctions s.instructions).2, SelfContained code := by
  have passes : acceptsWith (fun _ => true) (lexemes sieveTexts) := by decide +kernel
  obtain ⟨declaration, s, accepted, _⟩ := exists_of_acceptsWith passes
  exact ⟨declaration, s, accepted, jumps_stay_in_functions accepted⟩

end Jack
