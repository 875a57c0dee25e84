import Jack.Vm.Instruction

namespace Jack

/-- The lines of an instruction. The machine jumps only on a word that is not zero, so a jump on zero
inverts the word first. -/
def Instruction.lines : Instruction → List String
  | push segment index => ["push " ++ segment.text ++ " " ++ toString index.toNat]
  | pop segment index => ["pop " ++ segment.text ++ " " ++ toString index.toNat]
  | apply operation => [operation.text]
  | label name => ["label " ++ name]
  | jump target => ["goto " ++ target]
  | jumpIfFalse target => [Operation.not.text, "if-goto " ++ target]
  | call name argumentCount => ["call " ++ name ++ " " ++ toString argumentCount.toNat]
  | function name localCount => ["function " ++ name ++ " " ++ toString localCount.toNat]
  | ret => ["return"]

def vmLines (instructions : List Instruction) : List String :=
  instructions.flatMap Instruction.lines

/-- The lines with newlines between them and one after the last; no lines make no text. -/
def textOfLines (lines : List String) : String :=
  let text := String.intercalate "\n" lines
  if text.isEmpty then "" else text ++ "\n"

def vmText (instructions : List Instruction) : String :=
  textOfLines (vmLines instructions)

end Jack
