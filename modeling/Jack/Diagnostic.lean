import Jack.Fault
import Jack.Text.Blank
import Jack.Text.Line

namespace Jack

structure Diagnostic extends Fault where
  file : String
deriving DecidableEq, Repr

namespace Diagnostic

def message (diagnostic : Diagnostic) : String :=
  diagnostic.cause.message ++ " at " ++ diagnostic.file ++ ":" ++ toString diagnostic.offset

def heading (diagnostic : Diagnostic) : String :=
  match diagnostic.cause.tip? with
  | none => "Error: " ++ diagnostic.cause.name ++ "\n"
  | some tip => "Error: " ++ diagnostic.cause.name ++ " (" ++ tip ++ ")\n"

def isIndent (c : Char) : Bool :=
  c == ' ' || c == '\t'

/-- Shows the line of the source without its indentation, and below it a caret whose column is the
byte column less the width of that indentation. -/
def report (diagnostic : Diagnostic) (source : String) : String :=
  let line := Text.lineAt source diagnostic.offset
  let number := toString line.number
  let gutter := number.length + 2
  let indent := line.text.toList.takeWhile isIndent
  let shown := Text.trimBlanks (line.text.toList.dropWhile isIndent)
  let caret := Text.padLeft '-' (line.column - indent.length + 1) "^"
  let bar := Text.padLeft ' ' gutter "|"
  diagnostic.heading ++ "-> " ++ diagnostic.file ++ "\n" ++ bar ++ "\n" ++
    number ++ " | " ++ String.ofList shown ++ "\n" ++ bar ++ " " ++ caret ++ "\n"

end Diagnostic

end Jack
