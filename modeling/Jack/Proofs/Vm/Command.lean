import Jack.Proofs.Text.Split

namespace Jack

/-- What one line stands for. `ifGoto` is half of a jump on zero. -/
inductive Command where
  | push (segment : Segment) (index : UInt16)
  | pop (segment : Segment) (index : UInt16)
  | apply (operation : Operation)
  | label (name : String)
  | goto (target : String)
  | ifGoto (target : String)
  | call (name : String) (argumentCount : UInt16)
  | function (name : String) (localCount : UInt16)
  | ret
deriving DecidableEq, Repr

def Instruction.commands : Instruction → List Command
  | push segment index => [.push segment index]
  | pop segment index => [.pop segment index]
  | apply operation => [.apply operation]
  | label name => [.label name]
  | jump target => [.goto target]
  | jumpIfFalse target => [.apply .not, .ifGoto target]
  | call name argumentCount => [.call name argumentCount]
  | function name localCount => [.function name localCount]
  | ret => [.ret]

def spacedPair (first last : String) : String :=
  first ++ " " ++ last

def splitFirst (line : String) : String × String :=
  let (word, rest) := line.toList.span (· ≠ ' ')
  (.ofList word, .ofList rest.tail)

def splitLast (line : String) : String × String :=
  let (word, rest) := line.toList.reverse.span (· ≠ ' ')
  (.ofList rest.tail.reverse, .ofList word.reverse)

theorem splitFirst_spacedPair {first : String} (last : String) (whole : ' ' ∉ first.toList) :
    splitFirst (spacedPair first last) = (first, last) := by
  have line : (spacedPair first last).toList = first.toList ++ ' ' :: last.toList := by
    simp [spacedPair]
  rw [splitFirst, line, span_mark whole]
  simp

theorem splitLast_spacedPair (first : String) {last : String} (whole : ' ' ∉ last.toList) :
    splitLast (spacedPair first last) = (first, last) := by
  have line : (spacedPair first last).toList.reverse =
      last.toList.reverse ++ ' ' :: first.toList.reverse := by
    simp [spacedPair]
  have reversed : ' ' ∉ last.toList.reverse := by
    rwa [List.mem_reverse]
  rw [splitLast, line, span_mark reversed]
  simp

def Segment.all : List Segment :=
  [constant, argument, localVar, static, thisCell, thatCell, pointer, temp]

def Segment.ofText? (text : String) : Option Segment :=
  all.find? (·.text == text)

def Operation.all : List Operation :=
  [add, sub, neg, eq, gt, lt, and, or, not]

def Operation.ofText? (text : String) : Option Operation :=
  all.find? (·.text == text)

theorem Segment.ofText?_text (segment : Segment) : ofText? segment.text = some segment := by
  cases segment <;> decide

theorem Operation.ofText?_text (operation : Operation) : ofText? operation.text = some operation := by
  cases operation <;> decide

def counted? {α β : Type} (build : α → UInt16 → β) (read? : String → Option α) (text : String) :
    Option β :=
  let (first, last) := splitLast text
  (read? first).bind fun value => (number? last).map (build value)

theorem counted?_spacedPair {α β : Type} {build : α → UInt16 → β} {read? : String → Option α}
    {first : String} {value : α} (reads : read? first = some value) (number : UInt16) :
    counted? build read? (spacedPair first (toString number.toNat)) = some (build value number) := by
  rw [counted?, splitLast_spacedPair first (Lacks.number rfl number.toNat)]
  simp only [reads, number?_toString, Option.bind_some, Option.map_some]

namespace Command

def text : Command → String
  | push segment index => spacedPair "push" (spacedPair segment.text (toString index.toNat))
  | pop segment index => spacedPair "pop" (spacedPair segment.text (toString index.toNat))
  | apply operation => operation.text
  | label name => spacedPair "label" name
  | goto target => spacedPair "goto" target
  | ifGoto target => spacedPair "if-goto" target
  | call name argumentCount => spacedPair "call" (spacedPair name (toString argumentCount.toNat))
  | function name localCount => spacedPair "function" (spacedPair name (toString localCount.toNat))
  | ret => "return"

/-- The command of a line, by its first word. -/
def ofLine? (line : String) : Option Command :=
  let (word, rest) := splitFirst line
  match word with
  | "push" => counted? push Segment.ofText? rest
  | "pop" => counted? pop Segment.ofText? rest
  | "label" => some (label rest)
  | "goto" => some (goto rest)
  | "if-goto" => some (ifGoto rest)
  | "call" => counted? call some rest
  | "function" => counted? function some rest
  | "return" => some ret
  | _ => (Operation.ofText? line).map apply

theorem ofLine?_text (command : Command) : ofLine? command.text = some command := by
  cases command with
  | push segment index =>
    rw [text, ofLine?, splitFirst_spacedPair _ (by decide)]
    exact counted?_spacedPair segment.ofText?_text index
  | pop segment index =>
    rw [text, ofLine?, splitFirst_spacedPair _ (by decide)]
    exact counted?_spacedPair segment.ofText?_text index
  | apply operation => cases operation <;> decide
  | label name =>
    rw [text, ofLine?, splitFirst_spacedPair _ (by decide)]
    rfl
  | goto target =>
    rw [text, ofLine?, splitFirst_spacedPair _ (by decide)]
    rfl
  | ifGoto target =>
    rw [text, ofLine?, splitFirst_spacedPair _ (by decide)]
    rfl
  | call name argumentCount =>
    rw [text, ofLine?, splitFirst_spacedPair _ (by decide)]
    exact counted?_spacedPair rfl argumentCount
  | function name localCount =>
    rw [text, ofLine?, splitFirst_spacedPair _ (by decide)]
    exact counted?_spacedPair rfl localCount
  | ret => decide

end Command

theorem Instruction.lines_eq (instruction : Instruction) :
    instruction.lines = instruction.commands.map Command.text := by
  cases instruction <;> simp [lines, commands, Command.text, spacedPair, String.append_assoc]

def commandsOf (code : List Instruction) : List Command :=
  code.flatMap Instruction.commands

theorem vmLines_eq (code : List Instruction) :
    vmLines code = (commandsOf code).map Command.text := by
  rw [vmLines, commandsOf, List.map_flatMap]
  congr 1
  funext instruction
  exact instruction.lines_eq

end Jack
