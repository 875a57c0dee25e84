import Jack.Proofs.Program.Straight
import Mathlib.Data.List.Nodup

namespace Jack

def Instruction.label? : Instruction → Option String
  | label name => some name
  | _ => none

def labels (code : List Instruction) : List String :=
  code.filterMap Instruction.label?

@[simp] theorem labels_nil : labels [] = [] := rfl

@[simp] theorem labels_append (code later : List Instruction) :
    labels (code ++ later) = labels code ++ labels later :=
  List.filterMap_append

@[simp] theorem labels_cons (instruction : Instruction) (later : List Instruction) :
    labels (instruction :: later) = instruction.label?.toList ++ labels later := by
  cases instruction <;> rfl

theorem labels_of_straight {code : List Instruction} (straight : Straight code) :
    labels code = [] := by
  apply straight.filterMap_eq_nil
  intro instruction passes
  cases instruction <;> first | rfl | cases passes

def labelNumber (label : String) : Nat :=
  Nat.ofDigitChars 10 (label.toList.filter Char.isDigit) 0

theorem labelNumber_append {word : String} (plain : word.toList.filter Char.isDigit = [])
    (number : Nat) : labelNumber (word ++ toString number) = number := by
  have digits : (Nat.toDigits 10 number).filter Char.isDigit = Nat.toDigits 10 number := by
    apply List.filter_eq_self.mpr
    intro digit member
    exact Nat.isDigit_of_mem_toDigits (by decide) (by decide) member
  rw [labelNumber, String.toList_append, List.filter_append, plain, Nat.toString_eq_repr,
    Nat.toList_repr, digits, List.nil_append, Nat.ofDigitChars_ten_toDigits]

@[simp] theorem labelNumber_elseLabel (number : Nat) : labelNumber (elseLabel number) = number :=
  labelNumber_append rfl number

@[simp] theorem labelNumber_endLabel (number : Nat) : labelNumber (endLabel number) = number :=
  labelNumber_append rfl number

@[simp] theorem labelNumber_testLabel (number : Nat) : labelNumber (testLabel number) = number :=
  labelNumber_append rfl number

@[simp] theorem labelNumber_exitLabel (number : Nat) : labelNumber (exitLabel number) = number :=
  labelNumber_append rfl number

theorem elseLabel_ne_endLabel (number : Nat) : elseLabel number ≠ endLabel number := by
  rw [elseLabel, endLabel, ne_eq, String.append_left_inj]
  decide

theorem testLabel_ne_exitLabel (number : Nat) : testLabel number ≠ exitLabel number := by
  rw [testLabel, exitLabel, ne_eq, String.append_left_inj]
  decide

/-- The names are apart, and their numbers are in a range. -/
structure Numbered (first last : Nat) (names : List String) : Prop where
  nodup : names.Nodup
  range : ∀ name ∈ names, first ≤ labelNumber name ∧ labelNumber name < last

namespace Numbered

variable {first middle last : Nat} {names later : List String}

theorem nil : Numbered first last [] :=
  ⟨List.nodup_nil, by simp⟩

theorem append (before : Numbered first middle names) (after : Numbered middle last later)
    (up : first ≤ middle) (on : middle ≤ last) : Numbered first last (names ++ later) := by
  constructor
  · apply List.Nodup.append before.nodup after.nodup
    intro name member other
    have low := before.range name member
    have high := after.range name other
    omega
  · intro name member
    rcases List.mem_append.mp member with member | member
    · have low := before.range name member
      omega
    · have high := after.range name member
      omega

theorem perm (numbered : Numbered first last names) (order : names.Perm later) :
    Numbered first last later := by
  constructor
  · exact order.nodup_iff.mp numbered.nodup
  · intro name member
    exact numbered.range name (order.mem_iff.mpr member)

theorem ofTest : Numbered first (first + 1) [elseLabel first] := by
  constructor <;> simp

theorem ofChoice : Numbered first (first + 1) [elseLabel first, endLabel first] := by
  constructor <;> simp [elseLabel_ne_endLabel]

theorem ofLoop : Numbered first (first + 1) [testLabel first, exitLabel first] := by
  constructor <;> simp [testLabel_ne_exitLabel]

end Numbered

theorem choice_perm (name other : String) (names later : List String) :
    ([name, other] ++ (names ++ later)).Perm (names ++ name :: (later ++ [other])) := by
  have last : (other :: (names ++ later)).Perm (names ++ (later ++ [other])) := by
    rw [← List.append_assoc]
    exact (List.perm_append_singleton other (names ++ later)).symm
  exact (last.cons name).trans List.perm_middle.symm

section

variable (context : Context)

theorem Expression.labels_code (value : Expression) : labels (value.code context) = [] :=
  labels_of_straight (value.straight_code context)

mutual

theorem Statement.numbered (first : Nat) (statement : Statement) :
    Numbered first (first + statement.branches) (labels (statement.code context first)) := by
  cases statement with
  | assign keyword target equals value semicolon =>
    have unlabelled := labels_of_straight target.straight_popCode
    simp [Statement.code, value.labels_code, unlabelled, Numbered.nil]
  | assignElement keyword array opening index closing equals value semicolon =>
    have unlabelled := labels_of_straight array.straight_pushCode
    simp [Statement.code, index.labels_code, value.labels_code, unlabelled, storeCode,
      Instruction.label?, Numbered.nil]
  | when keyword opening condition closing body =>
    have inside := body.numbered (first + 1)
    have all := Numbered.ofTest.append inside (by omega) (by omega)
    have order := (List.perm_append_singleton (elseLabel first)
      (labels (body.code context (first + 1)))).symm
    simpa [Statement.code, Statement.branches, condition.labels_code, Instruction.label?,
      Nat.add_assoc] using all.perm order
  | whenElse keyword opening condition closing body elseKeyword alternative =>
    have inside := body.numbered (first + 1)
    have otherwise := alternative.numbered (first + 1 + body.branches)
    have both := inside.append otherwise (by omega) (by omega)
    have all := Numbered.ofChoice.append both (by omega) (by omega)
    have order := choice_perm (elseLabel first) (endLabel first)
      (labels (body.code context (first + 1)))
      (labels (alternative.code context (first + 1 + body.branches)))
    simpa [Statement.code, Statement.branches, condition.labels_code, Instruction.label?,
      Nat.add_assoc] using all.perm order
  | loop keyword opening condition closing body =>
    have inside := body.numbered (first + 1)
    have all := Numbered.ofLoop.append inside (by omega) (by omega)
    have order := (List.perm_append_singleton (exitLabel first)
      (labels (body.code context (first + 1)))).symm.cons (testLabel first)
    simpa [Statement.code, Statement.branches, condition.labels_code, Instruction.label?,
      Nat.add_assoc] using all.perm order
  | call keyword call semicolon =>
    have unlabelled := labels_of_straight (call.straight_code context)
    simp [Statement.code, unlabelled, Instruction.label?, Numbered.nil]
  | leave keyword semicolon => exact .nil
  | leaveWith keyword value semicolon =>
    simp [Statement.code, value.labels_code, Instruction.label?, Numbered.nil]

theorem Block.numbered (first : Nat) (block : Block) :
    Numbered first (first + block.branches) (labels (block.code context first)) := by
  cases block with
  | braces opening statements closing => exact numbered_codeOfAll first statements

theorem numbered_codeOfAll (first : Nat) (statements : List Statement) :
    Numbered first (first + branchesOfAll statements)
      (labels (codeOfAll context first statements)) := by
  cases statements with
  | nil => exact .nil
  | cons statement statements =>
    have here := statement.numbered first
    have later := numbered_codeOfAll (first + statement.branches) statements
    rw [codeOfAll, labels_append, branchesOfAll, ← Nat.add_assoc]
    exact here.append later (by omega) (by omega)

end

end

theorem ClassDec.nodup_labels (declaration : ClassDec) (subroutine : Subroutine) :
    (labels (declaration.subroutineCode subroutine)).Nodup := by
  have unlabelled : labels (subroutine.kind.prologue declaration.fieldCount) = [] := by
    cases subroutine.kind <;> rfl
  have all := numbered_codeOfAll (declaration.context subroutine) 0 subroutine.body.statements
  rw [subroutineCode, bodyCode, labels_cons, labels_append, unlabelled]
  exact all.nodup

end Jack
