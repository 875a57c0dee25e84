import Jack.Text.Width

namespace Jack.Text

/-- A line with its number from one, its text with the newline if it has one, and a byte column. -/
structure Line where
  number : Nat
  text : String
  column : Nat
deriving DecidableEq, Repr

theorem length_after_newline {newline : Char} {cs rest : List Char}
    (h : cs.dropWhile (· != '\n') = newline :: rest) : rest.length < cs.length := by
  have dropped := (List.dropWhile_sublist (l := cs) (· != '\n')).length_le
  rw [h, List.length_cons] at dropped
  omega

/-- Looks for the line `column` bytes ahead, where `number` is the number of the first line of `cs`.
Past the end it is the last line, at the column just after its last visible byte. -/
def lineFrom (number column : Nat) (cs : List Char) : Line :=
  let body := cs.takeWhile (· != '\n')
  match _ : cs.dropWhile (· != '\n') with
  | [] => ⟨number, String.ofList body, min column (byteWidth body)⟩
  | newline :: rest =>
    let width := byteWidth body + 1
    if column < width then ⟨number, String.ofList (body ++ [newline]), column⟩
    else if rest.isEmpty then ⟨number, String.ofList (body ++ [newline]), byteWidth body⟩
    else lineFrom (number + 1) (column - width) rest
termination_by cs.length
decreasing_by exact length_after_newline ‹_›

def lineAt (content : String) (offset : Nat) : Line :=
  lineFrom 1 offset content.toList

end Jack.Text
