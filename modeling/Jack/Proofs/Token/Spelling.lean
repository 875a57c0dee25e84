import Mathlib.Data.List.Basic
import Jack.Token.Split

namespace Jack

theorem Text.byteWidth_pos (c : Char) (cs : List Char) : 0 < byteWidth (c :: cs) := by
  have := c.utf8Size_pos
  rw [byteWidth_cons]
  omega

/-- Keywords, identifiers and integers have no end of their own. -/
def LexemeKind.isWord : LexemeKind → Bool
  | keyword _ | identifier | integer _ => true
  | symbol _ | string _ => false

theorem toNat_lt_of_isIdentifierChar {c : Char} (inside : isIdentifierChar c) : c.toNat < 128 := by
  have bounded : ∀ last : Char, c.val ≤ last.val → last.toNat < 128 → c.toNat < 128 :=
    fun last le small => Nat.lt_of_le_of_lt le small
  have classes : (((c.isUpper || c.isLower) || c.isDigit) || c == '_') = true := inside
  simp only [Bool.or_eq_true] at classes
  rcases classes with ((upper | lower) | digit) | line
  · exact bounded 'Z' (of_decide_eq_true upper).2 (by decide)
  · exact bounded 'z' (of_decide_eq_true (Bool.and_eq_true_iff.mp lower).2) (by decide)
  · exact bounded '9' (of_decide_eq_true (Bool.and_eq_true_iff.mp digit).2) (by decide)
  · rw [eq_of_beq line]
    decide

theorem isWordChar_of_isIdentifierChar {c : Char} (inside : isIdentifierChar c) :
    Piece.isWordChar c := by
  have all : ∀ n < 128, isIdentifierChar (Char.ofNat n) → Piece.isWordChar (Char.ofNat n) := by
    decide +kernel
  have := all c.toNat (toNat_lt_of_isIdentifierChar inside)
  rw [Char.ofNat_toNat] at this
  exact this inside

theorem Keyword.isIdentifierChar_of_mem (word : Keyword) :
    ∀ c ∈ word.text.toList, isIdentifierChar c := by
  have all : word.text.toList.all isIdentifierChar := by
    cases word <;> decide
  exact List.all_eq_true.mp all

theorem closedContents?_eq_some {cs contents : List Char} (closed : closedContents? cs = some contents) :
    cs = contents ++ ['"'] ∧ ∀ c ∈ contents, Piece.isStringChar c := by
  unfold closedContents? at closed
  split at closed
  · rename_i ends
    obtain ⟨last, inside⟩ := ends
    cases closed
    refine ⟨(List.dropLast_append_getLast? '"' last).symm, ?_⟩
    intro c member
    have each := List.all_eq_true.mp inside c member
    simp only [Bool.and_eq_true] at each
    simp [Piece.isStringChar, each.1]
  · cases closed

theorem classifyChars_cases {cs : List Char} {kind : LexemeKind}
    (classified : classifyChars cs = some kind) :
    (∃ mark, kind = .symbol mark ∧ cs = [mark] ∧ isSymbolChar mark) ∨
    (kind.isWord ∧ cs ≠ [] ∧ ∀ c ∈ cs, isIdentifierChar c) ∨
    (∃ contents, kind = .string contents ∧ cs = '"' :: (contents.toList ++ ['"']) ∧
      ∀ c ∈ contents.toList, Piece.isStringChar c) := by
  cases cs with
  | nil => cases classified
  | cons c cs =>
    rw [classifyChars] at classified
    split at classified
    · rename_i single
      simp only [Bool.and_eq_true, List.isEmpty_iff] at single
      obtain ⟨rfl, isMark⟩ := single
      cases classified
      exact .inl ⟨c, rfl, rfl, isMark⟩
    split at classified
    · rename_i digits
      have inside : ∀ d ∈ c :: cs, isIdentifierChar d := by
        intro d member
        have isDigit := List.all_eq_true.mp digits d member
        simp [isIdentifierChar, Char.isAlphanum, isDigit]
      dsimp only at classified
      split at classified
      · cases classified
        exact .inr (.inl ⟨rfl, by simp, inside⟩)
      · cases classified
    split at classified
    · rename_i quote
      obtain ⟨contents, closed, rfl⟩ := Option.map_eq_some_iff.mp classified
      obtain ⟨rfl, inside⟩ := closedContents?_eq_some closed
      cases eq_of_beq quote
      refine .inr (.inr ⟨String.ofList contents, rfl, ?_, ?_⟩)
      · rw [String.toList_ofList]
      · rwa [String.toList_ofList]
    split at classified
    · rename_i name
      simp only [Bool.and_eq_true] at name
      cases classified
      exact .inr (.inl ⟨rfl, by simp, List.all_eq_true.mp name.1⟩)
    · cases classified

namespace Token

theorem spelling (token : Token) :
    (∃ mark, token.kind = .symbol mark ∧ token.text.toList = [mark] ∧ isSymbolChar mark) ∨
    (token.kind.isWord ∧ token.text.toList ≠ [] ∧
      ∀ c ∈ token.text.toList, Piece.isWordChar c) ∨
    (∃ contents, token.kind = .string contents ∧
      token.text.toList = '"' :: (contents.toList ++ ['"']) ∧
      ∀ c ∈ contents.toList, Piece.isStringChar c) := by
  have classified := token.classified
  unfold classify at classified
  split at classified
  · rename_i word found
    have same := Keyword.text_of_ofText? found
    rw [← Option.some.inj classified, ← same]
    refine .inr (.inl ⟨rfl, ?_, ?_⟩)
    · cases word <;> decide
    · intro c member
      exact isWordChar_of_isIdentifierChar (word.isIdentifierChar_of_mem c member)
  · rcases classifyChars_cases classified with mark | ⟨isWord, nonempty, inside⟩ | string
    · exact .inl mark
    · refine .inr (.inl ⟨isWord, nonempty, ?_⟩)
      exact fun c member => isWordChar_of_isIdentifierChar (inside c member)
    · exact .inr (.inr string)

theorem chars_ne_nil (token : Token) : token.text.toList ≠ [] := by
  rcases token.spelling with ⟨mark, _, text, _⟩ | ⟨_, nonempty, _⟩ | ⟨contents, _, text, _⟩
  · simp [text]
  · exact nonempty
  · simp [text]

end Token

end Jack
