import Jack.Proofs.Token.Munch

namespace Jack

/-- The longest beginning of a text without blanks, symbols and quotes, and what follows it. -/
structure LongestRun (run after : List Char) : Prop where
  nonempty : run ≠ []
  inside : ∀ c ∈ run, ¬ Text.isBlank c ∧ ¬ isSymbolChar c ∧ c ≠ '"'
  ends : ∀ c ∈ after.head?, Text.isBlank c ∨ isSymbolChar c ∨ c = '"'

inductive Piece.Begins : List Char → Piece → List Char → Prop where
  | gap {text after : List Char} (separates : Separates text after) :
    Begins (text ++ after) (gap (Text.byteWidth text)) after
  | openComment {body : List Char} (unclosed : ¬ ['*', '/'] <:+: body) :
    Begins ('/' :: '*' :: body) openComment body
  | openString {line after : List Char} (inside : ∀ c ∈ line, isStringChar c)
    (ends : ∀ c ∈ after.head?, c = '\n') : Begins ('"' :: (line ++ after)) openString after
  | string {body after : List Char} (inside : ∀ c ∈ body, isStringChar c) :
    Begins ('"' :: (body ++ '"' :: after)) (lexeme ('"' :: (body ++ ['"']))) after
  | mark {c : Char} {after : List Char} (isMark : isSymbolChar c)
    (ends : c = '/' → ∀ d ∈ after.head?, d ≠ '/' ∧ d ≠ '*') : Begins (c :: after) (lexeme [c]) after
  | run {run after : List Char} (longest : LongestRun run after) :
    Begins (run ++ after) (lexeme run) after

theorem separates_blanks {gap after : List Char} (blanks : ∀ c ∈ gap, Text.isBlank c) :
    Separates gap after := by
  induction gap with
  | nil => exact .nothing
  | cons c gap ih =>
    obtain ⟨first, later⟩ := List.forall_mem_cons.mp blanks
    exact .blank first (ih later)

namespace Piece

variable {c : Char} {cs text rest : List Char} {width : Nat}

theorem closeComment?_eq_none : closeComment? width cs = none ↔ ¬ ['*', '/'] <:+: cs := by
  fun_induction closeComment? width cs with
  | case1 width rest => simp [List.infix_cons_iff]
  | case2 width c rest differs ih =>
    rw [ih, List.infix_cons_iff, not_or]
    refine ⟨fun later => ⟨?_, later⟩, And.right⟩
    rintro ⟨after, same⟩
    cases same
    exact differs after rfl rfl
  | case3 => simp

theorem begins_blank (isBlank : Text.isBlank c) :
    Begins (c :: cs) (next c cs).1 (next c cs).2 := by
  have blanks : ∀ d ∈ c :: cs.takeWhile Text.isBlank, Text.isBlank d :=
    List.forall_mem_cons.mpr ⟨isBlank, fun d member => List.mem_takeWhile_imp member⟩
  have separates : Separates _ (cs.dropWhile Text.isBlank) := separates_blanks blanks
  have begins := Begins.gap separates
  rw [List.cons_append, List.takeWhile_append_dropWhile] at begins
  rw [next_blank isBlank]
  exact begins

theorem begins_lineComment :
    Begins ('/' :: '/' :: cs) (next '/' ('/' :: cs)).1 (next '/' ('/' :: cs)).2 := by
  have oneLine : '\n' ∉ cs.takeWhile (· != '\n') := by
    intro member
    simpa using List.mem_takeWhile_imp member
  have ends : ∀ d ∈ ([] ++ cs.dropWhile (· != '\n')).head?, d = '\n' := by
    intro d member
    simpa using ends_dropWhile _ _ d member
  have begins := Begins.gap (.lineComment oneLine ends .nothing)
  rw [List.append_nil, List.cons_append, List.cons_append, List.takeWhile_append_dropWhile,
    Text.byteWidth_cons, Text.byteWidth_cons, ← Nat.add_assoc] at begins
  rw [next_lineComment]
  exact begins

theorem begins_blockComment :
    Begins ('/' :: '*' :: cs) (next '/' ('*' :: cs)).1 (next '/' ('*' :: cs)).2 := by
  rw [next_blockComment]
  split
  · rename_i rest closed
    obtain ⟨body, rfl, rfl, first⟩ := closeComment?_eq_some closed
    have separates : Separates _ rest := .blockComment first .nothing
    have begins := Begins.gap separates
    have width : Text.byteWidth ('/' :: '*' :: (body ++ '*' :: '/' :: [])) =
        2 + Text.byteWidth body + 2 := by
      have slash : Char.utf8Size '/' = 1 := rfl
      have star : Char.utf8Size '*' = 1 := rfl
      simp only [Text.byteWidth_cons, Text.byteWidth_append, Text.byteWidth_nil, slash, star]
      omega
    rw [width, List.cons_append, List.cons_append, List.append_assoc] at begins
    exact begins
  · rename_i unclosed
    exact .openComment (closeComment?_eq_none.mp unclosed)

theorem begins_quote : Begins ('"' :: cs) (next '"' cs).1 (next '"' cs).2 := by
  have split : cs.takeWhile isStringChar ++ cs.dropWhile isStringChar = cs :=
    List.takeWhile_append_dropWhile
  have inside : ∀ c ∈ cs.takeWhile isStringChar, isStringChar c :=
    fun c member => List.mem_takeWhile_imp member
  have ends := ends_dropWhile isStringChar cs
  rw [next_quote]
  generalize cs.takeWhile isStringChar = body at split inside
  generalize cs.dropWhile isStringChar = later at split ends
  subst split
  split
  · exact .string inside
  · rename_i unclosed
    refine .openString inside fun c member => ?_
    obtain ⟨rest, rfl⟩ := List.head?_eq_some_iff.mp member
    have stops := ends c rfl
    have unquoted : c ≠ '"' := fun quote => unclosed rest (by rw [quote])
    simpa [isStringChar, unquoted] using stops

theorem longestRun_takeWhile (visible : ¬ Text.isBlank c) (unmarked : ¬ isSymbolChar c)
    (unquoted : c ≠ '"') :
    LongestRun (c :: cs.takeWhile isWordChar) (cs.dropWhile isWordChar) := by
  refine ⟨by simp, List.forall_mem_cons.mpr ⟨⟨visible, unmarked, unquoted⟩, ?_⟩, ?_⟩
  · intro d member
    exact isWordChar_iff.mp (List.mem_takeWhile_imp member)
  · have stops := ends_dropWhile isWordChar cs
    simpa only [isWordChar_iff, not_and_or, not_not] using stops

theorem begins_next (c : Char) (cs : List Char) :
    Begins (c :: cs) (next c cs).1 (next c cs).2 := by
  rcases start_cases c cs with isBlank | ⟨later, rfl, rfl⟩ | ⟨later, rfl, rfl⟩ | rfl |
    ⟨visible, unquoted, ends⟩
  · exact begins_blank isBlank
  · exact begins_lineComment
  · exact begins_blockComment
  · exact begins_quote
  · rw [next_other visible unquoted ends]
    split
    · rename_i isMark
      exact .mark isMark ends
    · rename_i unmarked
      have longest : LongestRun (c :: cs.takeWhile isWordChar) (cs.dropWhile isWordChar) :=
        longestRun_takeWhile visible unmarked unquoted
      have begins := Begins.run longest
      rwa [List.cons_append, List.takeWhile_append_dropWhile] at begins

theorem begins_of_next {piece : Piece} (found : next c cs = (piece, rest)) :
    Begins (c :: cs) piece rest := by
  have begins := begins_next c cs
  rwa [found] at begins

theorem Begins.separates (begins : Begins cs (.gap width) rest) :
    ∃ text, cs = text ++ rest ∧ width = Text.byteWidth text ∧ Separates text rest := by
  cases begins with
  | gap separates => exact ⟨_, rfl, rfl, separates⟩

theorem Begins.endsBefore (begins : Begins cs (.lexeme text) rest) : cs = text ++ rest ∧
    ∀ token : Token, token.text.toList = text → token.EndsBefore rest := by
  cases begins with
  | string inside => exact ⟨by simp, fun token spelled => Token.endsBefore_of_quote spelled⟩
  | mark isMark ends => exact ⟨rfl, fun token spelled => Token.endsBefore_of_mark spelled isMark ends⟩
  | run longest =>
    refine ⟨rfl, fun token spelled => ?_⟩
    obtain ⟨c, cs, rfl⟩ := List.exists_cons_of_ne_nil longest.nonempty
    obtain ⟨_, unmarked, unquoted⟩ := longest.inside c List.mem_cons_self
    refine Token.endsBefore_of_word spelled unmarked unquoted ?_
    simpa only [isWordChar_iff, not_and_or, not_not] using longest.ends

end Piece

end Jack
