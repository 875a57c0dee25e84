import Jack.Proofs.Program.Straight

namespace Jack

def Instruction.isFunction : Instruction → Bool
  | .function _ _ => true
  | _ => false

/-- The instructions before the first header, and the functions after them. -/
def splitFunctions : List Instruction → List Instruction × List (List Instruction)
  | [] => ([], [])
  | instruction :: later =>
    let (before, functions) := splitFunctions later
    if instruction.isFunction then ([], (instruction :: before) :: functions)
    else (instruction :: before, functions)

theorem splitFunctions_flatten (code : List Instruction) :
    (splitFunctions code).1 ++ (splitFunctions code).2.flatten = code := by
  induction code with
  | nil => rfl
  | cons instruction later ih =>
    by_cases header : instruction.isFunction
    · simp [splitFunctions, header, ih]
    · simp [splitFunctions, header, ih]

def Headless (code : List Instruction) : Prop :=
  ∀ instruction ∈ code, instruction.isFunction = false

@[simp] theorem headless_nil : Headless [] := by
  simp [Headless]

@[simp] theorem headless_cons {instruction : Instruction} {code : List Instruction} :
    Headless (instruction :: code) ↔ instruction.isFunction = false ∧ Headless code :=
  List.forall_mem_cons

@[simp] theorem headless_append {code later : List Instruction} :
    Headless (code ++ later) ↔ Headless code ∧ Headless later :=
  List.forall_mem_append

theorem Straight.headless {code : List Instruction} (straight : Straight code) : Headless code := by
  intro instruction member
  have passes := straight instruction member
  cases instruction <;> first | rfl | cases passes

theorem splitFunctions_append {body : List Instruction} (headless : Headless body)
    (later : List Instruction) :
    splitFunctions (body ++ later) =
      (body ++ (splitFunctions later).1, (splitFunctions later).2) := by
  induction body with
  | nil => rfl
  | cons instruction body ih =>
    obtain ⟨plain, rest⟩ := headless_cons.mp headless
    simp [splitFunctions, plain, ih rest]

theorem splitFunctions_flatMap {α : Type} (header : α → Instruction) (body : α → List Instruction)
    (items : List α) (begins : ∀ item ∈ items, (header item).isFunction)
    (headless : ∀ item ∈ items, Headless (body item)) :
    splitFunctions (items.flatMap fun item => header item :: body item) =
      ([], items.map fun item => header item :: body item) := by
  induction items with
  | nil => rfl
  | cons item items ih =>
    have later := ih (fun other member => begins other (List.mem_cons_of_mem _ member))
      (fun other member => headless other (List.mem_cons_of_mem _ member))
    have first := begins item List.mem_cons_self
    have inside := headless item List.mem_cons_self
    rw [List.flatMap_cons, List.cons_append, splitFunctions, splitFunctions_append inside, later]
    simp [first]

section

variable (context : Context)

mutual

theorem Statement.headless_code (first : Nat) (statement : Statement) :
    Headless (statement.code context first) := by
  cases statement with
  | assign keyword target equals value semicolon =>
    have right := (value.straight_code context).headless
    exact headless_append.mpr ⟨right, target.straight_popCode.headless⟩
  | assignElement keyword array opening index closing equals value semicolon =>
    have base := array.straight_pushCode.headless
    have inside := (index.straight_code context).headless
    have right := (value.straight_code context).headless
    simp [Statement.code, base, inside, right, storeCode, Instruction.isFunction]
  | when keyword opening condition closing body =>
    have tested := (condition.straight_code context).headless
    have inside := body.headless_code (first + 1)
    simp [Statement.code, tested, inside, Instruction.isFunction]
  | whenElse keyword opening condition closing body elseKeyword alternative =>
    have tested := (condition.straight_code context).headless
    have inside := body.headless_code (first + 1)
    have otherwise := alternative.headless_code (first + 1 + body.branches)
    simp [Statement.code, tested, inside, otherwise, Instruction.isFunction]
  | loop keyword opening condition closing body =>
    have tested := (condition.straight_code context).headless
    have inside := body.headless_code (first + 1)
    simp [Statement.code, tested, inside, Instruction.isFunction]
  | call keyword call semicolon =>
    have called := (call.straight_code context).headless
    simp [Statement.code, called, Instruction.isFunction]
  | leave keyword semicolon => simp [Statement.code, Instruction.isFunction]
  | leaveWith keyword value semicolon =>
    have right := (value.straight_code context).headless
    simp [Statement.code, right, Instruction.isFunction]

theorem Block.headless_code (first : Nat) (block : Block) :
    Headless (block.code context first) := by
  cases block with
  | braces opening statements closing => exact headless_codeOfAll first statements

theorem headless_codeOfAll (first : Nat) (statements : List Statement) :
    Headless (codeOfAll context first statements) := by
  cases statements with
  | nil => exact headless_nil
  | cons statement statements =>
    have here := statement.headless_code first
    have later := headless_codeOfAll (first + statement.branches) statements
    exact headless_append.mpr ⟨here, later⟩

end

end

namespace ClassDec

theorem headless_bodyCode (declaration : ClassDec) (subroutine : Subroutine) :
    Headless (declaration.bodyCode subroutine) := by
  have prologue : Headless (subroutine.kind.prologue declaration.fieldCount) := by
    cases subroutine.kind <;> simp [SubroutineKind.prologue, Instruction.isFunction]
  exact headless_append.mpr ⟨prologue, headless_codeOfAll _ 0 subroutine.body.statements⟩

theorem splitFunctions_code (declaration : ClassDec) :
    splitFunctions declaration.code =
      ([], declaration.subroutines.map declaration.subroutineCode) :=
  splitFunctions_flatMap _ declaration.bodyCode declaration.subroutines (fun _ _ => rfl)
    (fun subroutine _ => declaration.headless_bodyCode subroutine)

end ClassDec

end Jack
