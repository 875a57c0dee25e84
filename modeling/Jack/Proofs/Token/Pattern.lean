import Mathlib.Data.Option.Basic
import Jack.Proofs.Token.Beginning
import Jack.Token.Pattern

namespace Jack

namespace Pattern

variable {p q : Char → Bool} {parts : Pattern} {c : Char} {cs body rest : List Char}

theorem matched?_one (passes : p c) :
    matched? (.one p :: parts) (c :: cs) = (matched? parts cs).map (c :: ·) := by
  rw [matched?, if_pos passes]

theorem matched?_one_of_not (fails : ∀ c ∈ cs.head?, ¬ p c) :
    matched? (.one p :: parts) cs = none := by
  cases cs with
  | nil => rw [matched?]
  | cons c cs => rw [matched?, if_neg (fails c rfl)]

theorem matched?_char (c : Char) (cs : List Char) :
    matched? (char c :: parts) (c :: cs) = (matched? parts cs).map (c :: ·) :=
  matched?_one (beq_self_eq_true c)

theorem matched?_char_of_ne (differs : ∀ d ∈ cs.head?, d ≠ c) :
    matched? (char c :: parts) cs = none :=
  matched?_one_of_not (by simpa using differs)

theorem matched?_longest (p : Char → Bool) (cs : List Char) :
    matched? [.longest p] cs = some (cs.takeWhile p) := by
  rw [matched?]
  induction cs with
  | nil => rfl
  | cons c cs ih =>
    rw [longestRun, ih]
    by_cases passes : p c
    · rw [if_pos passes, List.takeWhile_cons_of_pos passes]
      rfl
    · rw [if_neg passes, List.takeWhile_cons_of_neg passes, matched?]

theorem matched?_longest_one (apart : ∀ c, p c → ¬ q c) (inside : ∀ c ∈ body, p c)
    (ends : ∀ c ∈ rest.head?, ¬ p c) :
    matched? [.longest p, .one q] (body ++ rest) = (matched? [.one q] rest).map (body ++ ·) := by
  rw [matched?]
  induction body with
  | nil =>
    cases rest with
    | nil => rfl
    | cons c rest =>
      rw [List.nil_append, longestRun, if_neg (ends c rfl)]
      simp
  | cons c body ih =>
    obtain ⟨passes, later⟩ := List.forall_mem_cons.mp inside
    -- No character of the run can stand for its end, so a shorter run does not match.
    have shorter : matched? [.one q] (c :: (body ++ rest)) = none :=
      matched?_one_of_not (by simpa using apart c passes)
    rw [List.cons_append, longestRun, if_pos passes, ih later, shorter]
    simp [Function.comp_def]

theorem matched?_close (rest : List Char) :
    matched? [char '*', char '/'] ('*' :: '/' :: rest) = some ['*', '/'] := by
  rw [matched?_char, matched?_char, matched?]
  rfl

theorem matched?_close_cons (first : ¬ (c = '*' ∧ cs.head? = some '/')) :
    matched? [char '*', char '/'] (c :: cs) = none := by
  by_cases star : c = '*'
  · subst star
    rw [matched?_char, matched?_char_of_ne]
    · rfl
    · rintro d member rfl
      exact first ⟨rfl, member⟩
  · exact matched?_char_of_ne (by simpa using star)

theorem matched?_upToClose_cons (first : ¬ (c = '*' ∧ cs.head? = some '/')) :
    matched? upToClose (c :: cs) = (matched? upToClose cs).map (c :: ·) := by
  rw [upToClose, matched?, shortestRun, matched?_close_cons first, if_pos rfl, matched?]
  rfl

theorem matched?_upToClose (first : ¬ ['*', '/'] <:+: body ++ ['*']) :
    matched? upToClose (body ++ '*' :: '/' :: rest) = some (body ++ ['*', '/']) := by
  induction body with
  | nil =>
    rw [List.nil_append, upToClose, matched?, shortestRun, matched?_close]
    rfl
  | cons c body ih =>
    rw [List.cons_append, Piece.infix_close_cons, not_or] at first
    rw [List.cons_append, matched?_upToClose_cons, ih first.2]
    · rfl
    · rw [Piece.head?_body]
      exact first.1

theorem matched?_upToClose_of_unclosed (unclosed : ¬ ['*', '/'] <:+: cs) :
    matched? upToClose cs = none := by
  induction cs with
  | nil => rfl
  | cons c cs ih =>
    rw [List.infix_cons_iff, not_or] at unclosed
    rw [matched?_upToClose_cons, ih unclosed.2]
    · rfl
    · rintro ⟨rfl, slash⟩
      obtain ⟨later, rfl⟩ := List.head?_eq_some_iff.mp slash
      exact unclosed.1 ⟨later, rfl⟩

theorem append_of_longestRun {after : List Char → Option (List Char)} {text : List Char}
    (later : ∀ cs text, after cs = some text → ∃ rest, cs = text ++ rest)
    (found : longestRun p after cs = some text) : ∃ rest, cs = text ++ rest := by
  fun_induction longestRun p after cs generalizing text with
  | case1 => exact later _ _ found
  | case2 c cs passes ih =>
    rcases (Option.orElse_eq_some _ _ _).mp found with found | ⟨_, found⟩
    · obtain ⟨run, longer, rfl⟩ := Option.map_eq_some_iff.mp found
      obtain ⟨rest, rfl⟩ := ih longer
      exact ⟨rest, rfl⟩
    · exact later _ _ found
  | case3 => exact later _ _ found

theorem append_of_shortestRun {after : List Char → Option (List Char)} {text : List Char}
    (later : ∀ cs text, after cs = some text → ∃ rest, cs = text ++ rest)
    (found : shortestRun p after cs = some text) : ∃ rest, cs = text ++ rest := by
  induction cs generalizing text with
  | nil => exact later _ _ found
  | cons c cs ih =>
    rcases (Option.orElse_eq_some _ _ _).mp found with found | ⟨_, found⟩
    · exact later _ _ found
    · split at found
      · obtain ⟨run, longer, rfl⟩ := Option.map_eq_some_iff.mp found
        obtain ⟨rest, rfl⟩ := ih longer
        exact ⟨rest, rfl⟩
      · cases found

theorem append_of_matched? (pattern : Pattern) (cs text : List Char)
    (found : pattern.matched? cs = some text) : ∃ rest, cs = text ++ rest := by
  induction pattern generalizing cs text with
  | nil =>
    cases found
    exact ⟨cs, rfl⟩
  | cons part parts ih =>
    cases part with
    | one p =>
      cases cs with
      | nil => cases found
      | cons c cs =>
        rw [matched?] at found
        split at found
        · obtain ⟨later, matched, rfl⟩ := Option.map_eq_some_iff.mp found
          obtain ⟨rest, rfl⟩ := ih _ _ matched
          exact ⟨rest, rfl⟩
        · cases found
    | longest p => exact append_of_longestRun ih found
    | shortest p => exact append_of_shortestRun ih found

end Pattern

variable {c : Char} {cs text : List Char} {pattern : Pattern} {handler : Handler}
  {table : List (Pattern × Handler)}

theorem firstMatch?_of_match (found : pattern.matched? cs = some text) :
    firstMatch? ((pattern, handler) :: table) cs = some (handler, text) := by
  simp [firstMatch?, found]

theorem firstMatch?_of_none (fails : pattern.matched? cs = none) :
    firstMatch? ((pattern, handler) :: table) cs = firstMatch? table cs := by
  simp [firstMatch?, fails]

/-- What an entry takes is the first piece of the text, unless it refuses the text for a piece that does
not end. -/
inductive Handler.Takes (cs : List Char) : Handler → List Char → Piece × List Char → Prop where
  | skip {text rest : List Char} (whole : cs = text ++ rest) :
    Takes cs .skip text (.gap (Text.byteWidth text), rest)
  | token {text rest : List Char} (whole : cs = text ++ rest) (noDigits : ¬ text.all Char.isDigit) :
    Takes cs .token text (.lexeme text, rest)
  | word {text rest : List Char} (whole : cs = text ++ rest) :
    Takes cs .word text (.lexeme text, rest)
  | openComment {text rest : List Char} :
    Takes cs (.refuse .unterminatedComment) text (.openComment, rest)
  | openString {text rest : List Char} :
    Takes cs (.refuse .unterminatedString) text (.openString, rest)

theorem firstMatch?_blank (isBlank : Text.isBlank c) :
    firstMatch? patterns (c :: cs) = some (.skip, c :: cs.takeWhile Text.isBlank) := by
  refine firstMatch?_of_match ?_
  rw [Pattern.matched?_one isBlank, Pattern.matched?_longest]
  rfl

theorem firstMatch?_visible (visible : ¬ Text.isBlank c) :
    firstMatch? patterns (c :: cs) = firstMatch? patterns.tail (c :: cs) := by
  refine firstMatch?_of_none (Pattern.matched?_one_of_not ?_)
  rintro d ⟨⟩
  exact visible

theorem firstMatch?_lineComment :
    firstMatch? patterns ('/' :: '/' :: cs) = some (.skip, '/' :: '/' :: cs.takeWhile (· != '\n')) := by
  rw [firstMatch?_visible (by decide)]
  refine firstMatch?_of_match ?_
  rw [Pattern.matched?_char, Pattern.matched?_char, Pattern.matched?_longest]
  rfl

theorem firstMatch?_uncommented (visible : ¬ Text.isBlank c)
    (ends : c = '/' → ∀ d ∈ cs.head?, d ≠ '/' ∧ d ≠ '*') :
    firstMatch? patterns (c :: cs) = firstMatch? (patterns.drop 4) (c :: cs) := by
  have fails (d : Char) (parts : Pattern) (mark : d = '/' ∨ d = '*') :
      Pattern.matched? (Pattern.char '/' :: Pattern.char d :: parts) (c :: cs) = none := by
    by_cases slash : c = '/'
    · subst slash
      rw [Pattern.matched?_char, Pattern.matched?_char_of_ne]
      · rfl
      · rintro e member rfl
        have := ends rfl e member
        simp_all
    · exact Pattern.matched?_char_of_ne (by simpa using slash)
  rw [firstMatch?_visible visible]
  refine (firstMatch?_of_none (fails _ _ (.inl rfl))).trans ?_
  refine (firstMatch?_of_none (fails _ _ (.inr rfl))).trans ?_
  exact firstMatch?_of_none (fails _ _ (.inr rfl))

theorem firstMatch?_mark (isMark : isSymbolChar c)
    (ends : c = '/' → ∀ d ∈ cs.head?, d ≠ '/' ∧ d ≠ '*') :
    firstMatch? patterns (c :: cs) = some (.token, [c]) := by
  obtain ⟨visible, unquoted⟩ := Piece.of_isSymbolChar isMark
  have quote (parts : Pattern) : Pattern.matched? (Pattern.char '"' :: parts) (c :: cs) = none :=
    Pattern.matched?_char_of_ne (by simpa using unquoted)
  rw [firstMatch?_uncommented visible ends]
  refine (firstMatch?_of_none (quote _)).trans ?_
  refine (firstMatch?_of_none (quote _)).trans (firstMatch?_of_match ?_)
  rw [Pattern.matched?_one isMark, Pattern.matched?]
  rfl

theorem firstMatch?_word (isWord : Piece.isWordChar c) :
    firstMatch? patterns (c :: cs) = some (.word, c :: cs.takeWhile Piece.isWordChar) := by
  obtain ⟨visible, unmarked, unquoted⟩ := Piece.isWordChar_iff.mp isWord
  have noSlash : c ≠ '/' := by
    rintro rfl
    exact unmarked rfl
  have quote (parts : Pattern) : Pattern.matched? (Pattern.char '"' :: parts) (c :: cs) = none :=
    Pattern.matched?_char_of_ne (by simpa using unquoted)
  have mark : Pattern.matched? [.one isSymbolChar] (c :: cs) = none :=
    Pattern.matched?_one_of_not (by simpa using unmarked)
  rw [firstMatch?_uncommented visible fun slash => absurd slash noSlash]
  refine (firstMatch?_of_none (quote _)).trans ?_
  refine (firstMatch?_of_none (quote _)).trans ?_
  refine (firstMatch?_of_none mark).trans (firstMatch?_of_match ?_)
  rw [Pattern.matched?_one isWord, Pattern.matched?_longest]
  rfl

namespace Handler.Takes

/-- There is an entry that takes the first piece of the text. -/
def First (c : Char) (cs : List Char) : Prop :=
  ∃ handler text, firstMatch? patterns (c :: cs) = some (handler, text) ∧
    Handler.Takes (c :: cs) handler text (Piece.next c cs)

theorem first_blank (isBlank : Text.isBlank c) : First c cs := by
  refine ⟨_, _, firstMatch?_blank isBlank, ?_⟩
  rw [Piece.next_blank isBlank]
  exact .skip (by rw [List.cons_append, List.takeWhile_append_dropWhile])

theorem first_lineComment : First '/' ('/' :: cs) := by
  refine ⟨_, _, firstMatch?_lineComment, ?_⟩
  rw [Piece.next_lineComment]
  have whole : '/' :: '/' :: cs =
      '/' :: '/' :: cs.takeWhile (· != '\n') ++ cs.dropWhile (· != '\n') := by
    rw [List.cons_append, List.cons_append, List.takeWhile_append_dropWhile]
  have takes := skip whole
  rw [Text.byteWidth_cons, Text.byteWidth_cons, ← Nat.add_assoc] at takes
  exact takes

theorem first_blockComment : First '/' ('*' :: cs) := by
  have line (parts : Pattern) : Pattern.matched? (Pattern.char '/' :: Pattern.char '/' :: parts)
      ('/' :: '*' :: cs) = none := by
    rw [Pattern.matched?_char, Pattern.matched?_char_of_ne (by simp)]
    rfl
  have table : firstMatch? patterns ('/' :: '*' :: cs) =
      firstMatch? (patterns.drop 2) ('/' :: '*' :: cs) :=
    (firstMatch?_visible (by decide)).trans (firstMatch?_of_none (line _))
  rw [First, table, Piece.next_blockComment]
  split
  · rename_i rest closed
    obtain ⟨body, rfl, rfl, first⟩ := Piece.closeComment?_eq_some closed
    refine ⟨.skip, '/' :: '*' :: (body ++ ['*', '/']), firstMatch?_of_match ?_, ?_⟩
    · rw [Pattern.matched?_char, Pattern.matched?_char, Pattern.matched?_upToClose first]
      rfl
    · have width : 2 + Text.byteWidth body + 2 =
          Text.byteWidth ('/' :: '*' :: (body ++ ['*', '/'])) := by
        have slash : Char.utf8Size '/' = 1 := rfl
        have star : Char.utf8Size '*' = 1 := rfl
        simp only [Text.byteWidth_cons, Text.byteWidth_append, Text.byteWidth_nil, slash, star]
        omega
      rw [width]
      exact .skip (by simp)
  · rename_i unclosed
    refine ⟨.refuse .unterminatedComment, ['/', '*'], ?_, .openComment⟩
    have unclosedComment : Pattern.matched? (Pattern.char '/' :: Pattern.char '*' :: Pattern.upToClose)
        ('/' :: '*' :: cs) = none := by
      rw [Pattern.matched?_char, Pattern.matched?_char,
        Pattern.matched?_upToClose_of_unclosed (Piece.closeComment?_eq_none.mp unclosed)]
      rfl
    refine (firstMatch?_of_none unclosedComment).trans (firstMatch?_of_match ?_)
    rw [Pattern.matched?_char, Pattern.matched?_char, Pattern.matched?]
    rfl

theorem first_quote : First '"' cs := by
  have table : firstMatch? patterns ('"' :: cs) = firstMatch? (patterns.drop 4) ('"' :: cs) :=
    firstMatch?_uncommented (by decide) (by simp)
  have apart : ∀ d, Piece.isStringChar d → ¬ (d == '"') := by
    intro d inside
    simp only [Piece.isStringChar, Bool.and_eq_true, bne_iff_ne] at inside
    simpa using inside.1
  have split : cs.takeWhile Piece.isStringChar ++ cs.dropWhile Piece.isStringChar = cs :=
    List.takeWhile_append_dropWhile
  have inside : ∀ d ∈ cs.takeWhile Piece.isStringChar, Piece.isStringChar d :=
    fun d member => List.mem_takeWhile_imp member
  have ends := ends_dropWhile Piece.isStringChar cs
  rw [First, table, Piece.next_quote]
  generalize cs.takeWhile Piece.isStringChar = body at split inside
  generalize cs.dropWhile Piece.isStringChar = later at split ends
  subst split
  have run : Pattern.matched? [.longest Piece.isStringChar, Pattern.char '"'] (body ++ later) =
      (Pattern.matched? [Pattern.char '"'] later).map (body ++ ·) :=
    Pattern.matched?_longest_one apart inside ends
  split
  · refine ⟨.token, '"' :: (body ++ ['"']), firstMatch?_of_match ?_, .token (by simp) (by simp)⟩
    rw [Pattern.matched?_char, run, Pattern.matched?_char, Pattern.matched?]
    rfl
  · rename_i unclosed
    refine ⟨.refuse .unterminatedString, ['"'], ?_, .openString⟩
    have unquoted : Pattern.matched? [Pattern.char '"'] later = none := by
      refine Pattern.matched?_char_of_ne ?_
      rintro d member rfl
      obtain ⟨rest, rfl⟩ := List.head?_eq_some_iff.mp member
      exact unclosed rest rfl
    have open? : Pattern.matched?
        [Pattern.char '"', .longest Piece.isStringChar, Pattern.char '"'] ('"' :: (body ++ later)) =
          none := by
      rw [Pattern.matched?_char, run, unquoted]
      rfl
    refine (firstMatch?_of_none open?).trans (firstMatch?_of_match ?_)
    rw [Pattern.matched?_char, Pattern.matched?]
    rfl

theorem first (c : Char) (cs : List Char) : First c cs := by
  rcases Piece.start_cases c cs with isBlank | ⟨later, rfl, rfl⟩ | ⟨later, rfl, rfl⟩ | rfl |
    ⟨visible, unquoted, ends⟩
  · exact first_blank isBlank
  · exact first_lineComment
  · exact first_blockComment
  · exact first_quote
  · rw [First, Piece.next_other visible unquoted ends]
    by_cases isMark : isSymbolChar c
    · rw [if_pos isMark]
      have noDigit := Piece.not_isDigit_of_isSymbolChar isMark
      exact ⟨_, _, firstMatch?_mark isMark ends, .token rfl (by simpa using noDigit)⟩
    · have isWord := Piece.isWordChar_iff.mpr ⟨visible, isMark, unquoted⟩
      rw [if_neg isMark]
      refine ⟨_, _, firstMatch?_word isWord, .word ?_⟩
      rw [List.cons_append, List.takeWhile_append_dropWhile]

/-- A space that does not break is skipped, and one without a width belongs to a word. -/
example : firstMatch? patterns ['\u00a0', 'x'] = some (.skip, ['\u00a0']) ∧
    firstMatch? patterns ['\u200b', 'x'] = some (.word, ['\u200b', 'x']) := by
  decide

end Handler.Takes

end Jack
