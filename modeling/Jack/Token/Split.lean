import Jack.Fault
import Jack.Text.Blank
import Jack.Text.Width
import Jack.Token.Basic

namespace Jack

/-- What a source text begins with: nothing, something to skip, the text of a lexeme, or an opening
that is never closed. Skipped text is given by its width. -/
inductive Piece where
  | gap (width : Nat)
  | lexeme (text : List Char)
  | openComment
  | openString
deriving DecidableEq, Repr

namespace Piece

def closeComment? (width : Nat) : List Char → Option (Nat × List Char)
  | '*' :: '/' :: rest => some (width + 2, rest)
  | c :: rest => closeComment? (width + c.utf8Size) rest
  | [] => none

theorem closeComment?_length {width : Nat} {cs : List Char} {found : Nat × List Char}
    (h : closeComment? width cs = some found) : found.2.length ≤ cs.length := by
  fun_induction closeComment? width cs with
  | case1 width rest => cases h; simp only [List.length_cons]; omega
  | case2 width c rest _ ih => have := ih h; simp only [List.length_cons]; omega
  | case3 => cases h

def isWordChar (c : Char) : Bool :=
  !Text.isBlank c && !isSymbolChar c && c != '"'

def isStringChar (c : Char) : Bool :=
  c != '"' && c != '\n'

def next (c : Char) (cs : List Char) : Piece × List Char :=
  if Text.isBlank c then
    (gap (Text.byteWidth (c :: cs.takeWhile Text.isBlank)), cs.dropWhile Text.isBlank)
  else match c, cs with
    | '/', '/' :: rest =>
      (gap (2 + Text.byteWidth (rest.takeWhile (· != '\n'))), rest.dropWhile (· != '\n'))
    | '/', '*' :: rest =>
      match closeComment? 2 rest with
      | some (width, rest) => (gap width, rest)
      | none => (openComment, rest)
    | '"', cs =>
      match cs.dropWhile isStringChar with
      | '"' :: rest => (lexeme ('"' :: (cs.takeWhile isStringChar ++ ['"'])), rest)
      | rest => (openString, rest)
    | c, cs =>
      if isSymbolChar c then (lexeme [c], cs)
      else (lexeme (c :: cs.takeWhile isWordChar), cs.dropWhile isWordChar)

theorem next_length_le (c : Char) (cs : List Char) : (next c cs).2.length ≤ cs.length := by
  have dropped : ∀ (p : Char → Bool) (l : List Char), (l.dropWhile p).length ≤ l.length :=
    fun p l => (List.dropWhile_sublist p).length_le
  unfold next
  split
  · exact dropped _ _
  · split
    · have := dropped (· != '\n') ‹_›
      simp only [List.length_cons]; omega
    · split
      · have := closeComment?_length ‹_›
        simp only [List.length_cons] at this ⊢; omega
      · simp
    · have := dropped isStringChar cs
      split
      · simp_all; omega
      · exact this
    · split
      · exact Nat.le_refl _
      · exact dropped _ _

theorem next_length {c : Char} {cs rest : List Char} {piece : Piece}
    (h : next c cs = (piece, rest)) : rest.length < (c :: cs).length := by
  have := next_length_le c cs
  rw [h] at this
  exact Nat.lt_succ_of_le this

end Piece

def Cause.ofText (text : List Char) : Cause :=
  if text.all Char.isDigit then .integerOutOfRange (String.ofList text)
  else .unrecognisedToken (String.ofList text)

/-- The tokens of a text that starts at `offset`, after those already found, newest first. -/
def tokensFrom (offset : Nat) (found : List Token) (cs : List Char) : Except Fault (List Token) :=
  match cs with
  | [] => .ok found.reverse
  | c :: cs =>
    match _ : Piece.next c cs with
    | (.gap width, rest) => tokensFrom (offset + width) found rest
    | (.lexeme text, rest) =>
      let stop := offset + Text.byteWidth text
      match Token.ofText? (String.ofList text) offset stop with
      | some token => tokensFrom stop (token :: found) rest
      | none => .error ⟨Cause.ofText text, offset⟩
    | (.openComment, _) => .error ⟨.unterminatedComment, offset⟩
    | (.openString, _) => .error ⟨.unterminatedString, offset⟩
termination_by cs.length
decreasing_by all_goals exact Piece.next_length ‹_›

def tokenize (source : String) : Except Fault (List Token) :=
  tokensFrom 0 [] source.toList

end Jack
