import Jack.Proofs.Program.Labels

namespace Jack

def Instruction.target? : Instruction → Option String
  | .jump target | .jumpIfFalse target => some target
  | _ => none

def targets (code : List Instruction) : List String :=
  code.filterMap Instruction.target?

@[simp] theorem targets_nil : targets [] = [] := rfl

@[simp] theorem targets_append (code later : List Instruction) :
    targets (code ++ later) = targets code ++ targets later :=
  List.filterMap_append

@[simp] theorem targets_cons (instruction : Instruction) (later : List Instruction) :
    targets (instruction :: later) = instruction.target?.toList ++ targets later := by
  cases instruction <;> rfl

theorem targets_of_straight {code : List Instruction} (straight : Straight code) :
    targets code = [] := by
  apply straight.filterMap_eq_nil
  intro instruction passes
  cases instruction <;> first | rfl | cases passes

theorem mem_targets {code : List Instruction} {target : String} :
    target ∈ targets code ↔ .jump target ∈ code ∨ .jumpIfFalse target ∈ code := by
  induction code with
  | nil => simp
  | cons instruction later ih =>
    cases instruction <;> simp [Instruction.target?, ih, or_assoc, or_left_comm]

theorem count_label (code : List Instruction) (name : String) :
    code.count (.label name) = (labels code).count name := by
  induction code with
  | nil => rfl
  | cons instruction later ih =>
    cases instruction <;> simp [List.count_cons, Instruction.label?, ih]

section

variable (context : Context)

mutual

theorem Statement.targets_subset (first : Nat) (statement : Statement) :
    targets (statement.code context first) ⊆ labels (statement.code context first) := by
  cases statement with
  | assign keyword target equals value semicolon =>
    have right := targets_of_straight (value.straight_code context)
    have pop := targets_of_straight target.straight_popCode
    simp [Statement.code, right, pop]
  | assignElement keyword array opening index closing equals value semicolon =>
    have base := targets_of_straight array.straight_pushCode
    have inside := targets_of_straight (index.straight_code context)
    have right := targets_of_straight (value.straight_code context)
    simp [Statement.code, base, inside, right, storeCode, Instruction.target?]
  | when keyword opening condition closing body =>
    have tested := targets_of_straight (condition.straight_code context)
    have inside := body.targets_subset (first + 1)
    have all := List.Subset.trans inside (List.subset_append_left _ [elseLabel first])
    simpa [Statement.code, tested, condition.labels_code, Instruction.target?,
      Instruction.label?] using all
  | whenElse keyword opening condition closing body elseKeyword alternative =>
    have tested := targets_of_straight (condition.straight_code context)
    have inside := body.targets_subset (first + 1)
    have otherwise := alternative.targets_subset (first + 1 + body.branches)
    have defined : labels (Statement.code context first
        (.whenElse keyword opening condition closing body elseKeyword alternative)) =
        labels (body.code context (first + 1)) ++ elseLabel first ::
          (labels (alternative.code context (first + 1 + body.branches)) ++ [endLabel first]) := by
      simp [Statement.code, condition.labels_code, Instruction.label?]
    intro target member
    have seen : target = elseLabel first ∨ target ∈ targets (body.code context (first + 1)) ∨
        target = endLabel first ∨
        target ∈ targets (alternative.code context (first + 1 + body.branches)) := by
      simpa [Statement.code, tested, Instruction.target?] using member
    rw [defined]
    rcases seen with rfl | member | rfl | member
    · simp
    · simp [inside member]
    · simp
    · simp [otherwise member]
  | loop keyword opening condition closing body =>
    have tested := targets_of_straight (condition.straight_code context)
    have inside := body.targets_subset (first + 1)
    have defined : labels (Statement.code context first
        (.loop keyword opening condition closing body)) =
        testLabel first :: (labels (body.code context (first + 1)) ++ [exitLabel first]) := by
      simp [Statement.code, condition.labels_code, Instruction.label?]
    intro target member
    have seen : target = exitLabel first ∨ target ∈ targets (body.code context (first + 1)) ∨
        target = testLabel first := by
      simpa [Statement.code, tested, Instruction.target?] using member
    rw [defined]
    rcases seen with rfl | member | rfl
    · simp
    · simp [inside member]
    · simp
  | call keyword call semicolon =>
    have called := targets_of_straight (call.straight_code context)
    simp [Statement.code, called, Instruction.target?]
  | leave keyword semicolon => simp [Statement.code, Instruction.target?]
  | leaveWith keyword value semicolon =>
    have right := targets_of_straight (value.straight_code context)
    simp [Statement.code, right, Instruction.target?]

theorem Block.targets_subset (first : Nat) (block : Block) :
    targets (block.code context first) ⊆ labels (block.code context first) := by
  cases block with
  | braces opening statements closing => exact targets_subset_codeOfAll first statements

theorem targets_subset_codeOfAll (first : Nat) (statements : List Statement) :
    targets (codeOfAll context first statements) ⊆ labels (codeOfAll context first statements) := by
  cases statements with
  | nil => simp [codeOfAll]
  | cons statement statements =>
    have here := statement.targets_subset first
    have later := targets_subset_codeOfAll (first + statement.branches) statements
    rw [codeOfAll, targets_append, labels_append, List.append_subset]
    exact ⟨List.subset_append_of_subset_left _ here, List.subset_append_of_subset_right _ later⟩

end

end

namespace ClassDec

variable (declaration : ClassDec) (subroutine : Subroutine)

theorem targets_subset_subroutineCode :
    targets (declaration.subroutineCode subroutine) ⊆
      labels (declaration.subroutineCode subroutine) := by
  have noTarget : targets (subroutine.kind.prologue declaration.fieldCount) = [] := by
    cases subroutine.kind <;> rfl
  have noLabel : labels (subroutine.kind.prologue declaration.fieldCount) = [] := by
    cases subroutine.kind <;> rfl
  have body := targets_subset_codeOfAll (declaration.context subroutine) 0
    subroutine.body.statements
  rw [subroutineCode, bodyCode, targets_cons, targets_append, labels_cons, labels_append, noTarget,
    noLabel]
  exact body

end ClassDec

end Jack
