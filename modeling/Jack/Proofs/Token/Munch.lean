import Mathlib.Data.List.TakeWhile
import Jack.Proofs.Token.Spelling

namespace Jack

/-- Text between tokens, with what follows it: blanks, comments up to the end of the line, and comments
up to the first close. -/
inductive Separates : List Char → List Char → Prop where
  | nothing {after : List Char} : Separates [] after
  | blank {c : Char} {gap after : List Char} (isBlank : Text.isBlank c)
    (rest : Separates gap after) : Separates (c :: gap) after
  | lineComment {body gap after : List Char} (oneLine : '\n' ∉ body)
    (ends : ∀ c ∈ (gap ++ after).head?, c = '\n') (rest : Separates gap after) :
    Separates ('/' :: '/' :: (body ++ gap)) after
  | blockComment {body gap after : List Char} (first : ¬ ['*', '/'] <:+: body ++ ['*'])
    (rest : Separates gap after) : Separates ('/' :: '*' :: (body ++ '*' :: '/' :: gap)) after

/-- The text after a token does not make the token longer, nor a comment of it. -/
def Token.EndsBefore (token : Token) (after : List Char) : Prop :=
  match token.kind with
  | .keyword _ | .identifier | .integer _ =>
    ∀ c ∈ after.head?, Text.isBlank c ∨ isSymbolChar c ∨ c = '"'
  | .symbol mark => mark = '/' → ∀ c ∈ after.head?, c ≠ '/' ∧ c ≠ '*'
  | .string _ => True

inductive Munches : Nat → List Char → List Token → Prop where
  | none {offset : Nat} {gap : List Char} (separates : Separates gap []) : Munches offset gap []
  | next {offset : Nat} {gap after : List Char} {token : Token} {tokens : List Token}
    (separates : Separates gap (token.text.toList ++ after))
    (start : token.start = offset + Text.byteWidth gap)
    (stop : token.stop = token.start + Text.byteWidth token.text.toList)
    (ends : token.EndsBefore after) (rest : Munches token.stop after tokens) :
    Munches offset (gap ++ (token.text.toList ++ after)) (token :: tokens)

theorem takeWhile_of_ends {p : Char → Bool} {body rest : List Char} (inside : ∀ c ∈ body, p c)
    (ends : ∀ c ∈ rest.head?, ¬ p c) : (body ++ rest).takeWhile p = body := by
  rw [List.takeWhile_append_of_pos inside]
  cases rest with
  | nil => simp
  | cons c rest => simp [show p c = false by simpa using ends c]

theorem dropWhile_of_ends {p : Char → Bool} {body rest : List Char} (inside : ∀ c ∈ body, p c)
    (ends : ∀ c ∈ rest.head?, ¬ p c) : (body ++ rest).dropWhile p = rest := by
  rw [List.dropWhile_append_of_pos inside]
  cases rest with
  | nil => rfl
  | cons c rest => simp [show p c = false by simpa using ends c]

theorem ends_dropWhile (p : Char → Bool) (cs : List Char) :
    ∀ c ∈ (cs.dropWhile p).head?, ¬ p c := by
  intro c member
  have := List.head?_dropWhile_not p cs
  rw [Option.mem_def.mp member] at this
  simpa using this

namespace Piece

variable {c : Char} {cs body rest : List Char} {width found : Nat}

theorem closeComment?_cons (first : ¬ (c = '*' ∧ cs.head? = some '/')) :
    closeComment? width (c :: cs) = closeComment? (width + c.utf8Size) cs := by
  rw [closeComment?]
  intro rest star slash
  exact first ⟨star, by rw [slash]; rfl⟩

theorem infix_close_cons :
    ['*', '/'] <:+: c :: (body ++ ['*']) ↔
      (c = '*' ∧ (body ++ ['*']).head? = some '/') ∨ ['*', '/'] <:+: body ++ ['*'] := by
  rw [List.infix_cons_iff]
  apply or_congr_left
  cases body ++ ['*'] with
  | nil => simp
  | cons d rest => simp [eq_comm]

theorem head?_body (body rest : List Char) :
    (body ++ '*' :: rest).head? = (body ++ ['*']).head? := by
  cases body <;> rfl

theorem closeComment?_append (first : ¬ ['*', '/'] <:+: body ++ ['*']) :
    closeComment? width (body ++ '*' :: '/' :: rest) =
      some (width + Text.byteWidth body + 2, rest) := by
  induction body generalizing width with
  | nil => rfl
  | cons c body ih =>
    rw [List.cons_append, infix_close_cons, not_or] at first
    rw [List.cons_append, closeComment?_cons, ih first.2, Text.byteWidth_cons, Nat.add_assoc width]
    rw [head?_body]
    exact first.1

theorem closeComment?_eq_some (closed : closeComment? width cs = some (found, rest)) :
    ∃ body, cs = body ++ '*' :: '/' :: rest ∧ found = width + Text.byteWidth body + 2 ∧
      ¬ ['*', '/'] <:+: body ++ ['*'] := by
  fun_induction closeComment? width cs with
  | case1 width cs =>
    cases closed
    exact ⟨[], rfl, rfl, by decide⟩
  | case2 width c cs differs ih =>
    obtain ⟨body, rfl, rfl, first⟩ := ih closed
    refine ⟨c :: body, rfl, by rw [Text.byteWidth_cons, Nat.add_assoc width], ?_⟩
    rw [List.cons_append, infix_close_cons, not_or]
    refine ⟨?_, first⟩
    rintro ⟨rfl, slash⟩
    rw [← head?_body body ('/' :: rest)] at slash
    obtain ⟨later, same⟩ := List.head?_eq_some_iff.mp slash
    exact differs later rfl same
  | case3 => cases closed

theorem next_blank (isBlank : Text.isBlank c) : next c cs =
    (gap (Text.byteWidth (c :: cs.takeWhile Text.isBlank)), cs.dropWhile Text.isBlank) := by
  unfold next
  exact if_pos isBlank

theorem next_lineComment : next '/' ('/' :: cs) =
    (gap (2 + Text.byteWidth (cs.takeWhile (· != '\n'))), cs.dropWhile (· != '\n')) := by
  unfold next
  exact if_neg (by decide)

theorem next_blockComment : next '/' ('*' :: cs) =
    match closeComment? 2 cs with
    | some (width, rest) => (gap width, rest)
    | none => (openComment, cs) := by
  unfold next
  exact if_neg (by decide)

theorem next_quote : next '"' cs =
    match cs.dropWhile isStringChar with
    | '"' :: rest => (lexeme ('"' :: (cs.takeWhile isStringChar ++ ['"'])), rest)
    | rest => (openString, rest) := by
  unfold next
  exact if_neg (by decide)

theorem next_other (visible : ¬ Text.isBlank c) (unquoted : c ≠ '"')
    (ends : c = '/' → ∀ d ∈ cs.head?, d ≠ '/' ∧ d ≠ '*') : next c cs =
      if isSymbolChar c then (lexeme [c], cs)
      else (lexeme (c :: cs.takeWhile isWordChar), cs.dropWhile isWordChar) := by
  unfold next
  rw [if_neg visible]
  split
  · simp at ends
  · simp at ends
  · exact absurd rfl unquoted
  · rfl

theorem start_cases (c : Char) (cs : List Char) : Text.isBlank c ∨
    (∃ rest, c = '/' ∧ cs = '/' :: rest) ∨ (∃ rest, c = '/' ∧ cs = '*' :: rest) ∨ c = '"' ∨
    (¬ Text.isBlank c ∧ c ≠ '"' ∧ (c = '/' → ∀ d ∈ cs.head?, d ≠ '/' ∧ d ≠ '*')) := by
  by_cases isBlank : Text.isBlank c
  · exact .inl isBlank
  by_cases quote : c = '"'
  · exact .inr (.inr (.inr (.inl quote)))
  cases cs with
  | nil => simp [isBlank, quote]
  | cons d rest =>
    by_cases slash : c = '/'
    · by_cases line : d = '/'
      · exact .inr (.inl ⟨rest, slash, by rw [line]⟩)
      · by_cases block : d = '*'
        · exact .inr (.inr (.inl ⟨rest, slash, by rw [block]⟩))
        · simp [isBlank, quote, line, block]
    · simp [isBlank, quote, slash]

theorem isWordChar_iff : isWordChar c ↔ ¬ Text.isBlank c ∧ ¬ isSymbolChar c ∧ c ≠ '"' := by
  simp [isWordChar, and_assoc]

theorem of_isSymbolChar (isMark : isSymbolChar c) : ¬ Text.isBlank c ∧ c ≠ '"' := by
  have all : symbolChars.all fun c => !Text.isBlank c && c != '"' := by
    decide
  simpa using List.all_eq_true.mp all c (by simpa [isSymbolChar] using isMark)

theorem not_isDigit_of_isSymbolChar (isMark : isSymbolChar c) : ¬ c.isDigit := by
  have all : symbolChars.all fun c => !c.isDigit := by
    decide
  simpa using List.all_eq_true.mp all c (by simpa [isSymbolChar] using isMark)

end Piece

theorem Token.endsBefore_of_isWord {token : Token} {after : List Char}
    (isWord : token.kind.isWord) :
    token.EndsBefore after ↔ ∀ c ∈ after.head?, ¬ Piece.isWordChar c := by
  simp only [Piece.isWordChar_iff, not_and_or, not_not, EndsBefore]
  cases kind : token.kind with
  | symbol mark =>
    rw [kind] at isWord
    cases isWord
  | string contents =>
    rw [kind] at isWord
    cases isWord
  | _ => rfl

theorem Token.endsBefore_of_quote {token : Token} {cs after : List Char}
    (spelled : token.text.toList = '"' :: cs) : token.EndsBefore after := by
  rcases token.spelling with ⟨mark, kind, text, isMark⟩ | ⟨isWord, _, inside⟩ |
    ⟨contents, kind, text, inside⟩
  · rw [spelled] at text
    cases text
    cases isMark
  · rw [spelled] at inside
    cases inside '"' List.mem_cons_self
  · rw [EndsBefore, kind]
    trivial

theorem Token.endsBefore_of_mark {token : Token} {c : Char} {after : List Char}
    (spelled : token.text.toList = [c]) (isMark : isSymbolChar c)
    (ends : c = '/' → ∀ d ∈ after.head?, d ≠ '/' ∧ d ≠ '*') : token.EndsBefore after := by
  rcases token.spelling with ⟨mark, kind, text, _⟩ | ⟨isWord, _, inside⟩ |
    ⟨contents, kind, text, inside⟩
  · rw [spelled] at text
    cases text
    rw [EndsBefore, kind]
    exact ends
  · rw [spelled] at inside
    have notMark := (Piece.isWordChar_iff.mp (inside c List.mem_cons_self)).2.1
    exact absurd isMark notMark
  · simp [spelled] at text

theorem Token.endsBefore_of_word {token : Token} {c : Char} {cs after : List Char}
    (spelled : token.text.toList = c :: cs) (unmarked : ¬ isSymbolChar c) (unquoted : c ≠ '"')
    (ends : ∀ d ∈ after.head?, ¬ Piece.isWordChar d) : token.EndsBefore after := by
  rcases token.spelling with ⟨mark, kind, text, isMark⟩ | ⟨isWord, _, inside⟩ |
    ⟨contents, kind, text, inside⟩
  · rw [spelled] at text
    cases text
    exact absurd isMark unmarked
  · exact (endsBefore_of_isWord isWord).mpr ends
  · rw [spelled] at text
    exact absurd (List.cons.inj text).1 unquoted

namespace Piece

variable {c : Char} {cs rest : List Char} {width : Nat}

theorem next_word (inside : ∀ d ∈ c :: cs, isWordChar d) (ends : ∀ d ∈ rest.head?, ¬ isWordChar d) :
    next c (cs ++ rest) = (lexeme (c :: cs), rest) := by
  obtain ⟨first, later⟩ := List.forall_mem_cons.mp inside
  obtain ⟨visible, unmarked, unquoted⟩ := isWordChar_iff.mp first
  have noSlash : c ≠ '/' := by
    rintro rfl
    exact unmarked rfl
  rw [next_other visible unquoted (fun slash => absurd slash noSlash), if_neg unmarked,
    takeWhile_of_ends later ends, dropWhile_of_ends later ends]

theorem next_string (inside : ∀ d ∈ cs, isStringChar d) :
    next '"' (cs ++ '"' :: rest) = (lexeme ('"' :: (cs ++ ['"'])), rest) := by
  have ends : ∀ d ∈ ('"' :: rest).head?, ¬ isStringChar d := by
    rintro d ⟨⟩
    decide
  rw [next_quote, dropWhile_of_ends inside ends, takeWhile_of_ends inside ends]
  rfl

theorem next_token {token : Token} (spelled : token.text.toList = c :: cs)
    (ends : token.EndsBefore rest) : next c (cs ++ rest) = (lexeme (c :: cs), rest) := by
  rcases token.spelling with ⟨mark, kind, text, isMark⟩ | ⟨isWord, _, inside⟩ |
    ⟨contents, kind, text, inside⟩
  · rw [Token.EndsBefore, kind] at ends
    rw [spelled] at text
    cases text
    obtain ⟨visible, unquoted⟩ := of_isSymbolChar isMark
    rw [List.nil_append, next_other visible unquoted ends, if_pos isMark]
  · rw [Token.endsBefore_of_isWord isWord] at ends
    rw [spelled] at inside
    exact next_word inside ends
  · rw [spelled] at text
    obtain ⟨rfl, rfl⟩ := List.cons.inj text
    rw [List.append_assoc, List.singleton_append]
    exact next_string inside

end Piece

end Jack
