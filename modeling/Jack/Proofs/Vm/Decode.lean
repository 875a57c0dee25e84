import Jack.Proofs.Vm.Command

namespace Jack

namespace Instruction

def name? : Instruction → Option String
  | label name => some name
  | jump target => some target
  | jumpIfFalse target => some target
  | call name _ => some name
  | function name _ => some name
  | push _ _ | pop _ _ | apply _ | ret => none

def OneLineName (instruction : Instruction) : Prop :=
  ∀ name ∈ instruction.name?, OneLine name

instance (instruction : Instruction) : Decidable instruction.OneLineName :=
  inferInstanceAs (Decidable (∀ name ∈ instruction.name?, OneLine name))

section

variable {name : String} {segment : Segment} {index : UInt16} {operation : Operation}

@[simp] theorem oneLineName_push : (push segment index).OneLineName := by
  simp [OneLineName, name?]

@[simp] theorem oneLineName_pop : (pop segment index).OneLineName := by
  simp [OneLineName, name?]

@[simp] theorem oneLineName_apply : (apply operation).OneLineName := by
  simp [OneLineName, name?]

@[simp] theorem oneLineName_ret : ret.OneLineName := by
  simp [OneLineName, name?]

@[simp] theorem oneLineName_label : (label name).OneLineName ↔ OneLine name := by
  simp [OneLineName, name?]

@[simp] theorem oneLineName_jump : (jump name).OneLineName ↔ OneLine name := by
  simp [OneLineName, name?]

@[simp] theorem oneLineName_jumpIfFalse : (jumpIfFalse name).OneLineName ↔ OneLine name := by
  simp [OneLineName, name?]

@[simp] theorem oneLineName_call {argumentCount : UInt16} :
    (call name argumentCount).OneLineName ↔ OneLine name := by
  simp [OneLineName, name?]

@[simp] theorem oneLineName_function {localCount : UInt16} :
    (function name localCount).OneLineName ↔ OneLine name := by
  simp [OneLineName, name?]

end

end Instruction

def OneLineNames (code : List Instruction) : Prop :=
  ∀ instruction ∈ code, instruction.OneLineName

instance (code : List Instruction) : Decidable (OneLineNames code) :=
  inferInstanceAs (Decidable (∀ instruction ∈ code, instruction.OneLineName))

@[simp] theorem oneLineNames_nil : OneLineNames [] := by
  simp [OneLineNames]

@[simp] theorem oneLineNames_cons {instruction : Instruction} {code : List Instruction} :
    OneLineNames (instruction :: code) ↔ instruction.OneLineName ∧ OneLineNames code :=
  List.forall_mem_cons

@[simp] theorem oneLineNames_append {code later : List Instruction} :
    OneLineNames (code ++ later) ↔ OneLineNames code ∧ OneLineNames later :=
  List.forall_mem_append

theorem Lacks.spacedPair {first last : String} (before : OneLine first) (after : OneLine last) :
    OneLine (spacedPair first last) :=
  (before.append (by decide)).append after

theorem Segment.oneLine_text (segment : Segment) : OneLine segment.text := by
  cases segment <;> decide

theorem Operation.oneLine_text (operation : Operation) : OneLine operation.text := by
  cases operation <;> decide

theorem Instruction.oneLine_commands {instruction : Instruction} (named : instruction.OneLineName) :
    ∀ command ∈ instruction.commands, OneLine command.text := by
  intro command member
  cases instruction with
  | push segment index =>
    obtain rfl := List.mem_singleton.mp member
    exact .spacedPair (by decide) (segment.oneLine_text.spacedPair (.number rfl index.toNat))
  | pop segment index =>
    obtain rfl := List.mem_singleton.mp member
    exact .spacedPair (by decide) (segment.oneLine_text.spacedPair (.number rfl index.toNat))
  | apply operation =>
    obtain rfl := List.mem_singleton.mp member
    exact operation.oneLine_text
  | label name =>
    obtain rfl := List.mem_singleton.mp member
    exact .spacedPair (by decide) (oneLineName_label.mp named)
  | jump target =>
    obtain rfl := List.mem_singleton.mp member
    exact .spacedPair (by decide) (oneLineName_jump.mp named)
  | jumpIfFalse target =>
    rcases List.mem_cons.mp member with rfl | member
    · exact Operation.oneLine_text .not
    · obtain rfl := List.mem_singleton.mp member
      exact .spacedPair (by decide) (oneLineName_jumpIfFalse.mp named)
  | call name argumentCount =>
    obtain rfl := List.mem_singleton.mp member
    exact .spacedPair (by decide) ((oneLineName_call.mp named).spacedPair (.number rfl argumentCount.toNat))
  | function name localCount =>
    obtain rfl := List.mem_singleton.mp member
    exact .spacedPair (by decide) ((oneLineName_function.mp named).spacedPair (.number rfl localCount.toNat))
  | ret =>
    obtain rfl := List.mem_singleton.mp member
    decide

theorem oneLine_vmLines {code : List Instruction} (named : OneLineNames code) :
    ∀ line ∈ vmLines code, OneLine line := by
  intro line member
  obtain ⟨instruction, own, inside⟩ := List.mem_flatMap.mp member
  rw [instruction.lines_eq] at inside
  obtain ⟨command, among, rfl⟩ := List.mem_map.mp inside
  exact Instruction.oneLine_commands (named instruction own) command among

def Command.instruction? : Command → Option Instruction
  | push segment index => some (.push segment index)
  | pop segment index => some (.pop segment index)
  | apply operation => some (.apply operation)
  | label name => some (.label name)
  | goto target => some (.jump target)
  | ifGoto _ => none
  | call name argumentCount => some (.call name argumentCount)
  | function name localCount => some (.function name localCount)
  | ret => some .ret

/-- A `not` belongs to the jump on zero that it stands before, and is an operator where no jump comes after
it. -/
def codeOf? : List Command → Option (List Instruction)
  | [] => some []
  | .apply .not :: .ifGoto target :: later => (codeOf? later).map (.jumpIfFalse target :: ·)
  | command :: later =>
    command.instruction?.bind fun instruction => (codeOf? later).map (instruction :: ·)

/-- A jump on a word that is not zero comes after its `not`, and never first. -/
theorem head?_commandsOf_ne (code : List Instruction) (target : String) :
    (commandsOf code).head? ≠ some (.ifGoto target) := by
  cases code with
  | nil => simp [commandsOf]
  | cons instruction code => cases instruction <;> simp [commandsOf, Instruction.commands]

theorem codeOf?_cons {command : Command} {instruction : Instruction} {later : List Command}
    (plain : command.instruction? = some instruction)
    (apart : ∀ target, later.head? ≠ some (.ifGoto target)) :
    codeOf? (command :: later) = (codeOf? later).map (instruction :: ·) := by
  rw [codeOf?]
  · rw [plain]
    rfl
  · intro target rest _ same
    rw [same] at apart
    exact apart target rfl

theorem codeOf?_commandsOf (code : List Instruction) : codeOf? (commandsOf code) = some code := by
  induction code with
  | nil => rfl
  | cons instruction code ih =>
    have alone : ∀ command, command.instruction? = some instruction →
        instruction.commands = [command] → codeOf? (commandsOf (instruction :: code)) =
          some (instruction :: code) := by
      intro command plain written
      have split : commandsOf (instruction :: code) = command :: commandsOf code := by
        rw [commandsOf, List.flatMap_cons, written]
        rfl
      rw [split, codeOf?_cons plain (head?_commandsOf_ne code), ih]
      rfl
    cases instruction with
    | push segment index => exact alone _ rfl rfl
    | pop segment index => exact alone _ rfl rfl
    | apply operation => exact alone _ rfl rfl
    | label name => exact alone _ rfl rfl
    | jump target => exact alone _ rfl rfl
    | jumpIfFalse target =>
      have split : commandsOf (.jumpIfFalse target :: code) =
          .apply .not :: .ifGoto target :: commandsOf code := rfl
      rw [split, codeOf?, ih]
      rfl
    | call name argumentCount => exact alone _ rfl rfl
    | function name localCount => exact alone _ rfl rfl
    | ret => exact alone _ rfl rfl

def commandsOfLines? (lines : List String) : Option (List Command) :=
  lines.mapM Command.ofLine?

def codeOfText? (text : String) : Option (List Instruction) :=
  (commandsOfLines? (linesOf text)).bind codeOf?

theorem commandsOfLines?_text (commands : List Command) :
    commandsOfLines? (commands.map Command.text) = some commands := by
  induction commands with
  | nil => rfl
  | cons command commands ih =>
    rw [commandsOfLines?] at ih
    simp [commandsOfLines?, List.mapM_cons, command.ofLine?_text, ih]

theorem linesOf_vmText {code : List Instruction} (named : OneLineNames code) :
    linesOf (vmText code) = vmLines code := by
  have lines : vmText code = String.join ((vmLines code).map ended) := by
    rw [vmText_eq, vmLines, List.map_flatMap]
  rw [lines, linesOf_join (oneLine_vmLines named)]

theorem codeOfText?_vmText {code : List Instruction} (named : OneLineNames code) :
    codeOfText? (vmText code) = some code := by
  rw [codeOfText?, linesOf_vmText named, vmLines_eq, commandsOfLines?_text]
  exact codeOf?_commandsOf code

end Jack
