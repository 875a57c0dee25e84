import Jack.Proofs.Token.Offence
import Jack.Proofs.Token.Pattern
import Jack.Token.Scanner

namespace Jack

namespace Scanner

inductive Reached (source : String) : Scanner → Prop where
  | start : Reached source (Scanner.start source)
  | round {s next : Scanner} (reached : Reached source s) (unfinished : ¬ s.atEnd)
    (goesOn : s.round = .goesOn next) : Reached source next

/-- The position is at the end of one part of the source and the beginning of the other one. -/
structure Stands (s : Scanner) (before rest : List Char) : Prop where
  whole : s.source.toList = before ++ rest
  position : Text.byteWidth before = s.position

/-- What is done with a text agrees with the split: its first piece is taken, or the split fails. -/
inductive Agrees (s : Scanner) (before cs : List Char) : Except Fault Scanner → Prop where
  | goesOn {next : Scanner} {text rest : List Char} (source : next.source = s.source)
    (stands : next.Stands (before ++ text) rest)
    (split : tokensFrom s.position s.found cs = tokensFrom next.position next.found rest) :
    Agrees s before cs (.ok next)
  | refused {fault : Fault} (split : tokensFrom s.position s.found cs = .error fault) :
    Agrees s before cs (.error fault)

variable {s : Scanner} {source : String} {before text rest cs : List Char} {c : Char}

theorem stands_start (source : String) : (start source).Stands [] source.toList :=
  ⟨rfl, rfl⟩

theorem Stands.advance (stands : s.Stands before (text ++ rest)) :
    (s.advance text).Stands (before ++ text) rest := by
  constructor
  · rw [List.append_assoc]
    exact stands.whole
  · rw [Text.byteWidth_append, stands.position]
    rfl

theorem Stands.remainder? (stands : s.Stands before rest) : s.remainder? = some rest := by
  rw [Scanner.remainder?, stands.whole, ← stands.position, Text.cutAfter?_append]
  rfl

theorem Stands.size (stands : s.Stands before rest) :
    s.source.utf8ByteSize = s.position + Text.byteWidth rest := by
  rw [← Text.byteWidth_toList, stands.whole, Text.byteWidth_append, stands.position]

theorem Stands.atEnd_iff (stands : s.Stands before rest) : s.atEnd ↔ rest = [] := by
  rw [atEnd, stands.size, decide_eq_true_eq]
  cases rest with
  | nil => simp
  | cons c cs =>
    have positive := Text.byteWidth_pos c cs
    simp only [reduceCtorEq, iff_false]
    omega

theorem Stands.exists_cons (stands : s.Stands before rest) (unfinished : ¬ s.atEnd) :
    ∃ c cs, rest = c :: cs :=
  List.exists_cons_of_ne_nil (mt stands.atEnd_iff.mpr unfinished)

theorem agrees_token (stands : s.Stands before (c :: cs))
    (piece : Piece.next c cs = (.lexeme text, rest)) (whole : c :: cs = text ++ rest)
    (noInteger : classify (String.ofList text) = none → ¬ text.all Char.isDigit) :
    s.Agrees before (c :: cs) (s.token text) := by
  rw [whole] at stands
  have split : tokensFrom s.position s.found (c :: cs) = _ := tokensFrom_lexeme piece
  rw [token]
  cases found : Token.ofText? (String.ofList text) s.position (s.position + Text.byteWidth text) with
  | some token =>
    rw [found] at split
    have following := stands.advance
    exact .goesOn rfl ⟨following.whole, following.position⟩ split
  | none =>
    rw [found] at split
    have noDigits := noInteger (Token.unclassified_of_ofText? found)
    rw [Cause.ofText, if_neg noDigits] at split
    exact .refused split

theorem agrees_word (stands : s.Stands before (c :: cs))
    (piece : Piece.next c cs = (.lexeme text, rest)) (whole : c :: cs = text ++ rest) :
    s.Agrees before (c :: cs) (s.word text) := by
  rw [word]
  split
  · rename_i integer
    rw [Bool.and_eq_true, Option.isNone_iff_eq_none] at integer
    have split := tokensFrom_refused piece integer.1 s.position s.found
    rw [Cause.ofText, if_pos integer.2] at split
    exact .refused split
  · rename_i noInteger
    refine agrees_token stands piece whole fun unclassified digits => noInteger ?_
    rw [unclassified, digits]
    rfl

theorem agrees_handle {handler : Handler} (stands : s.Stands before (c :: cs))
    (takes : handler.Takes (c :: cs) text (Piece.next c cs)) :
    s.Agrees before (c :: cs) (s.handle text handler) := by
  generalize piece : Piece.next c cs = found at takes
  cases takes with
  | skip whole =>
    rw [whole] at stands
    exact .goesOn rfl stands.advance (tokensFrom_gap piece)
  | token whole noDigits => exact agrees_token stands piece whole fun _ => noDigits
  | word whole => exact agrees_word stands piece whole
  | openComment => exact .refused (tokensFrom_openComment piece)
  | openString => exact .refused (tokensFrom_openString piece)

theorem agrees_round (stands : s.Stands before rest) (unfinished : ¬ s.atEnd) :
    ∃ outcome, s.round = .ofHandled outcome ∧ s.Agrees before rest outcome := by
  obtain ⟨c, cs, rfl⟩ := stands.exists_cons unfinished
  obtain ⟨handler, text, found, takes⟩ := Handler.Takes.first c cs
  refine ⟨_, ?_, agrees_handle stands takes⟩
  rw [round, stands.remainder?]
  dsimp only
  rw [found]

theorem run?_of_stands (stands : s.Stands before rest) :
    s.run? = some (tokensFrom s.position s.found rest) := by
  fun_induction run? s generalizing before rest with
  | case1 s ended => rw [stands.atEnd_iff.mp ended, tokensFrom_nil]
  | case2 s unfinished next goesOn ih =>
    obtain ⟨outcome, same, agrees⟩ := agrees_round stands unfinished
    rw [goesOn] at same
    cases agrees with
    | goesOn source following split =>
      cases same
      rw [split]
      exact ih following
    | refused => cases same
  | case3 s unfinished fault refused =>
    obtain ⟨outcome, same, agrees⟩ := agrees_round stands unfinished
    rw [refused] at same
    cases agrees with
    | goesOn => cases same
    | refused split =>
      cases same
      rw [split]
  -- Neither of the fallbacks is the outcome of a handler.
  | case4 s unfinished fault unmatched =>
    obtain ⟨outcome, same, _⟩ := agrees_round stands unfinished
    rw [unmatched] at same
    cases outcome <;> cases same
  | case5 s unfinished outside =>
    obtain ⟨outcome, same, _⟩ := agrees_round stands unfinished
    rw [outside] at same
    cases outcome <;> cases same

theorem stands_of_reached (reached : Reached source s) :
    s.source = source ∧ ∃ before rest, s.Stands before rest := by
  induction reached with
  | start => exact ⟨rfl, _, _, stands_start source⟩
  | round _ unfinished goesOn ih =>
    obtain ⟨same, before, rest, stands⟩ := ih
    obtain ⟨outcome, found, agrees⟩ := agrees_round stands unfinished
    rw [goesOn] at found
    cases agrees with
    | goesOn source following split =>
      cases found
      exact ⟨source.trans same, _, _, following⟩
    | refused => cases found

structure Proceeds (source : String) (s : Scanner) : Prop where
  /-- The position is on a boundary between characters, and the text after it is what remains. -/
  boundary : ∃ before rest : String, source = before ++ rest ∧ before.utf8ByteSize = s.position ∧
    s.remainder? = some rest.toList ∧ (s.atEnd ↔ rest = "")
  /-- Some pattern of the table takes a beginning of what remains, and not an empty one. -/
  covered : ¬ s.atEnd → ∃ rest, s.remainder? = some rest ∧ ∃ entry ∈ patterns, ∃ text,
    entry.1.matched? rest = some text ∧ text ≠ [] ∧ text <+: rest
  /-- The round refuses the source or goes on behind that beginning, and nothing else happens. -/
  advances : ¬ s.atEnd → (∃ fault, s.round = .refused fault) ∨
    ∃ next, s.round = .goesOn next ∧ s.position < next.position ∧
      next.position ≤ source.utf8ByteSize

theorem Stands.boundary (stands : s.Stands before rest) :
    ∃ before rest : String, s.source = before ++ rest ∧ before.utf8ByteSize = s.position ∧
      s.remainder? = some rest.toList ∧ (s.atEnd ↔ rest = "") := by
  refine ⟨String.ofList before, String.ofList rest, ?_, ?_, ?_, ?_⟩
  · rw [← String.ofList_append, ← stands.whole, String.ofList_toList]
  · rw [Text.utf8ByteSize_ofList, stands.position]
  · rw [stands.remainder?, String.toList_ofList]
  · rw [stands.atEnd_iff, ← String.ofList_nil, String.ofList_inj]

theorem Stands.covered (stands : s.Stands before rest) (unfinished : ¬ s.atEnd) :
    ∃ rest, s.remainder? = some rest ∧ ∃ entry ∈ patterns, ∃ text,
      entry.1.matched? rest = some text ∧ text ≠ [] ∧ text <+: rest := by
  obtain ⟨c, cs, rfl⟩ := stands.exists_cons unfinished
  obtain ⟨handler, text, found, _⟩ := Handler.Takes.first c cs
  have nonempty := firstMatch?_ne_nil found
  obtain ⟨entry, member, same⟩ := List.exists_of_findSome?_eq_some found
  obtain ⟨_, matched, pair⟩ := Option.map_eq_some_iff.mp same
  cases pair
  obtain ⟨rest, whole⟩ := Pattern.append_of_matched? _ _ _ matched
  exact ⟨c :: cs, stands.remainder?, entry, member, text, matched, nonempty, rest, whole.symm⟩

theorem Stands.advances (stands : s.Stands before rest) (unfinished : ¬ s.atEnd) :
    (∃ fault, s.round = .refused fault) ∨ ∃ next, s.round = .goesOn next ∧
      s.position < next.position ∧ next.position ≤ s.source.utf8ByteSize := by
  obtain ⟨outcome, round, agrees⟩ := agrees_round stands unfinished
  cases agrees with
  | goesOn source following split =>
    obtain ⟨_, later⟩ := advances_of_round round
    have size := following.size
    rw [source] at size
    exact .inr ⟨_, round, later, by omega⟩
  | refused => exact .inl ⟨_, round⟩

end Scanner

/-- The scanner always gets on. Wherever it stands, a pattern takes a part of what remains, so that the
loop ends, and with what the source is split into. -/
theorem scanner_proceeds (source : String) :
    (∀ s, Scanner.Reached source s → s.Proceeds source) ∧
      (Scanner.start source).run? = some (tokenize source) := by
  constructor
  · intro s reached
    obtain ⟨rfl, before, rest, stands⟩ := Scanner.stands_of_reached reached
    exact ⟨stands.boundary, stands.covered, stands.advances⟩
  · exact Scanner.run?_of_stands (Scanner.stands_start source)

end Jack
