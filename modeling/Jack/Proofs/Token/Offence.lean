import Mathlib.Data.List.Induction
import Mathlib.Data.Nat.Digits.Defs
import Jack.Proofs.Token.Split

namespace Jack

def numeral (digits : List Char) : Nat :=
  Nat.ofDigits 10 (digits.reverse.map fun digit => digit.toNat - '0'.toNat)

/-- Letters, digits and underscores, not beginning with a digit. -/
def IsName (run : List Char) : Prop :=
  (∀ c ∈ run, c.isAlphanum ∨ c = '_') ∧ ∀ c ∈ run.head?, ¬ c.isDigit

/-- What is wrong with the beginning of a text: a comment or a string constant that is not closed, an
integer that is too large, a run of characters that is no word, or a string constant with a carriage
return in it. -/
inductive Offends : List Char → Cause → Prop where
  | comment {body : List Char} (unclosed : ¬ ['*', '/'] <:+: body) :
    Offends ('/' :: '*' :: body) .unterminatedComment
  | string {line after : List Char} (inside : ∀ c ∈ line, c ≠ '"' ∧ c ≠ '\n')
    (ends : ∀ c ∈ after.head?, c = '\n') : Offends ('"' :: (line ++ after)) .unterminatedString
  | integer {run after : List Char} (longest : LongestRun run after)
    (digits : ∀ c ∈ run, c.isDigit) (large : 32767 < numeral run) :
    Offends (run ++ after) (.integerOutOfRange (String.ofList run))
  | word {run after : List Char} (longest : LongestRun run after)
    (noKeyword : ∀ word : Keyword, word.text ≠ String.ofList run) (noName : ¬ IsName run)
    (noDigits : ¬ ∀ c ∈ run, c.isDigit) :
    Offends (run ++ after) (.unrecognisedToken (String.ofList run))
  | brokenString {body after : List Char} (inside : ∀ c ∈ body, c ≠ '"' ∧ c ≠ '\n')
    (carriage : '\r' ∈ body) :
    Offends ('"' :: (body ++ '"' :: after))
      (.unrecognisedToken (String.ofList ('"' :: (body ++ ['"']))))

theorem decimalValue_eq_numeral (digits : List Char) : decimalValue digits = numeral digits := by
  induction digits using List.reverseRecOn with
  | nil => rfl
  | append_singleton digits digit ih =>
    unfold decimalValue at ih ⊢
    rw [List.foldl_append, ih, numeral, numeral, List.reverse_append]
    simp only [List.foldl_cons, List.foldl_nil, List.reverse_singleton, List.singleton_append,
      List.map_cons, Nat.ofDigits_cons]
    exact Nat.add_comm _ _

theorem Keyword.ofText?_eq_none_iff {text : String} :
    ofText? text = none ↔ ∀ word : Keyword, word.text ≠ text := by
  simp [ofText?, mem_all]

theorem classify_eq_none_iff {cs : List Char} :
    classify (String.ofList cs) = none ↔
      (∀ word : Keyword, word.text ≠ String.ofList cs) ∧ classifyChars cs = none := by
  rw [← Keyword.ofText?_eq_none_iff, classify]
  cases Keyword.ofText? (String.ofList cs) <;> simp

variable {c : Char} {cs run after : List Char}

theorem isName_iff :
    IsName (c :: cs) ↔ ((c :: cs).all isIdentifierChar && !c.isDigit) = true := by
  simp [IsName, isIdentifierChar]

theorem classifyChars_of_digits (nonempty : cs ≠ []) (digits : ∀ d ∈ cs, d.isDigit) :
    classifyChars cs =
      if numeral cs ≤ maxInteger then some (.integer (numeral cs).toUInt16) else none := by
  cases cs with
  | nil => exact absurd rfl nonempty
  | cons c cs =>
    have unmarked : ¬ isSymbolChar c := fun isMark =>
      Piece.not_isDigit_of_isSymbolChar isMark (digits c List.mem_cons_self)
    rw [classifyChars, if_neg (by simp [unmarked]), if_pos (List.all_eq_true.mpr digits),
      decimalValue_eq_numeral]

theorem classifyChars_digits (nonempty : cs ≠ []) (digits : ∀ d ∈ cs, d.isDigit) :
    classifyChars cs = none ↔ 32767 < numeral cs := by
  rw [classifyChars_of_digits nonempty digits]
  split
  · rename_i small
    simpa [maxInteger] using small
  · rename_i large
    simpa [maxInteger] using large

theorem classifyChars_word (unmarked : ¬ isSymbolChar c) (unquoted : c ≠ '"')
    (noDigits : ¬ ∀ d ∈ c :: cs, d.isDigit) : classifyChars (c :: cs) = none ↔ ¬ IsName (c :: cs) := by
  rw [classifyChars, if_neg (by simp [unmarked]), if_neg (mt List.all_eq_true.mp noDigits),
    if_neg (by simpa using unquoted), isName_iff]
  split <;> simp_all

theorem text_ne_of_digits (digits : ∀ c ∈ cs, c.isDigit) (word : Keyword) :
    word.text ≠ String.ofList cs := by
  intro same
  have notDigits : word.text.toList.all Char.isDigit = false := by
    cases word <;> decide
  rw [same, String.toList_ofList, List.all_eq_true.mpr digits] at notDigits
  cases notDigits

theorem text_ne_of_quote (body : List Char) (word : Keyword) :
    word.text ≠ String.ofList ('"' :: (body ++ ['"'])) := by
  intro same
  have inside := word.isIdentifierChar_of_mem '"'
  rw [same, String.toList_ofList] at inside
  cases inside List.mem_cons_self

theorem classifyChars_string (inside : ∀ d ∈ cs, Piece.isStringChar d) :
    classifyChars ('"' :: (cs ++ ['"'])) = none ↔ '\r' ∈ cs := by
  have plain : cs.all (fun d => d != '"' && d != '\n' && d != '\r') ↔ '\r' ∉ cs := by
    rw [List.all_eq_true]
    constructor
    · intro all member
      have := all _ member
      simp at this
    · intro noReturn d member
      have stays := inside d member
      simp only [Piece.isStringChar] at stays
      rw [stays, Bool.true_and, bne_iff_ne]
      rintro rfl
      exact noReturn member
  rw [classifyChars, if_neg (by simp), if_neg (by simp), if_pos (beq_self_eq_true _),
    Option.map_eq_none_iff, closedContents?, List.getLast?_concat, List.dropLast_concat]
  simp [plain]

theorem Token.ofText?_eq_none {text : String} (unclassified : classify text = none)
    (start stop : Nat) : ofText? text start stop = none := by
  unfold ofText?
  split
  · simp_all
  · rfl

theorem tokensFrom_refused {text rest : List Char} (piece : Piece.next c cs = (.lexeme text, rest))
    (unclassified : classify (String.ofList text) = none) (offset : Nat) (found : List Token) :
    tokensFrom offset found (c :: cs) = .error ⟨Cause.ofText text, offset⟩ := by
  rw [tokensFrom_lexeme piece, Token.ofText?_eq_none unclassified]

theorem LongestRun.isWordChar (longest : LongestRun run after) :
    ∀ c ∈ run, Piece.isWordChar c :=
  fun c member => Piece.isWordChar_iff.mpr (longest.inside c member)

theorem LongestRun.next (longest : LongestRun (c :: cs) after) :
    Piece.next c (cs ++ after) = (.lexeme (c :: cs), after) := by
  refine Piece.next_word longest.isWordChar ?_
  simp only [Piece.isWordChar_iff, not_and_or, not_not]
  exact longest.ends

theorem Piece.next_openString (inside : ∀ c ∈ cs, Piece.isStringChar c)
    (ends : ∀ c ∈ after.head?, c = '\n') : Piece.next '"' (cs ++ after) = (.openString, after) := by
  have stops : ∀ c ∈ after.head?, ¬ Piece.isStringChar c := by
    intro c member
    rw [ends c member]
    decide
  rw [Piece.next_quote, dropWhile_of_ends inside stops]
  cases after with
  | nil => rfl
  | cons d after =>
    cases ends d rfl
    rfl

theorem Offends.refused {cause : Cause} (offends : Offends cs cause) (offset : Nat)
    (found : List Token) : tokensFrom offset found cs = .error ⟨cause, offset⟩ := by
  cases offends with
  | @comment body unclosed =>
    have piece : Piece.next '/' ('*' :: body) = _ := Piece.next_blockComment
    rw [Piece.closeComment?_eq_none.mpr unclosed] at piece
    exact tokensFrom_openComment piece
  | string inside ends =>
    refine tokensFrom_openString (Piece.next_openString ?_ ends)
    simpa [Piece.isStringChar] using inside
  | @integer run after longest digits large =>
    obtain ⟨c, cs, rfl⟩ := List.exists_cons_of_ne_nil longest.nonempty
    have unclassified : classify (String.ofList (c :: cs)) = none :=
      classify_eq_none_iff.mpr
        ⟨text_ne_of_digits digits, (classifyChars_digits longest.nonempty digits).mpr large⟩
    have cause : Cause.ofText (c :: cs) = .integerOutOfRange (String.ofList (c :: cs)) :=
      if_pos (List.all_eq_true.mpr digits)
    rw [List.cons_append, tokensFrom_refused longest.next unclassified, cause]
  | @word run after longest noKeyword noName noDigits =>
    obtain ⟨c, cs, rfl⟩ := List.exists_cons_of_ne_nil longest.nonempty
    obtain ⟨_, unmarked, unquoted⟩ := longest.inside c List.mem_cons_self
    have unclassified : classify (String.ofList (c :: cs)) = none :=
      classify_eq_none_iff.mpr
        ⟨noKeyword, (classifyChars_word unmarked unquoted noDigits).mpr noName⟩
    have cause : Cause.ofText (c :: cs) = .unrecognisedToken (String.ofList (c :: cs)) :=
      if_neg (mt List.all_eq_true.mp noDigits)
    rw [List.cons_append, tokensFrom_refused longest.next unclassified, cause]
  | @brokenString body after inside carriage =>
    have inside : ∀ c ∈ body, Piece.isStringChar c := by
      simpa [Piece.isStringChar] using inside
    have unclassified : classify (String.ofList ('"' :: (body ++ ['"']))) = none := by
      exact classify_eq_none_iff.mpr
        ⟨text_ne_of_quote body, (classifyChars_string inside).mpr carriage⟩
    have cause : Cause.ofText ('"' :: (body ++ ['"'])) = .unrecognisedToken _ := if_neg (by simp)
    rw [tokensFrom_refused (Piece.next_string inside) unclassified, cause]

theorem Offends.ne_nil {cause : Cause} (offends : Offends cs cause) : cs ≠ [] := by
  cases offends with
  | integer longest => simp [longest.nonempty]
  | word longest => simp [longest.nonempty]
  | _ => simp

variable {text rest : List Char}

namespace Piece.Begins

theorem offends_openComment (begins : Begins cs .openComment rest) :
    Offends cs .unterminatedComment := by
  cases begins with
  | openComment unclosed => exact .comment unclosed

theorem offends_openString (begins : Begins cs .openString rest) :
    Offends cs .unterminatedString := by
  cases begins with
  | openString inside ends => exact .string (by simpa [isStringChar] using inside) ends

theorem offends_lexeme (begins : Begins cs (.lexeme text) rest)
    (unclassified : classify (String.ofList text) = none) : Offends cs (Cause.ofText text) := by
  obtain ⟨noKeyword, noClass⟩ := classify_eq_none_iff.mp unclassified
  cases begins with
  | mark isMark =>
    rw [classifyChars, if_pos (by simp [isMark])] at noClass
    cases noClass
  | string inside =>
    rw [Cause.ofText, if_neg (by simp)]
    refine .brokenString ?_ ((classifyChars_string inside).mp noClass)
    simpa [isStringChar] using inside
  | run longest =>
    obtain ⟨c, cs, rfl⟩ := List.exists_cons_of_ne_nil longest.nonempty
    obtain ⟨_, unmarked, unquoted⟩ := longest.inside c List.mem_cons_self
    by_cases digits : ∀ d ∈ c :: cs, d.isDigit
    · rw [Cause.ofText, if_pos (List.all_eq_true.mpr digits)]
      exact .integer longest digits ((classifyChars_digits longest.nonempty digits).mp noClass)
    · rw [Cause.ofText, if_neg (mt List.all_eq_true.mp digits)]
      exact .word longest noKeyword ((classifyChars_word unmarked unquoted digits).mp noClass) digits

end Piece.Begins

theorem Token.unclassified_of_ofText? {text : String} {start stop : Nat}
    (rejected : ofText? text start stop = none) : classify text = none := by
  unfold ofText? at rejected
  split at rejected
  · cases rejected
  · assumption

/-- Where the lexer stops, the text before is split and the text after offends. -/
theorem offends_of_tokensFrom {offset : Nat} {found : List Token} {fault : Fault}
    (failed : tokensFrom offset found cs = .error fault) :
    ∃ before rest tokens, cs = before ++ rest ∧ fault.offset = offset + Text.byteWidth before ∧
      Munches offset before tokens ∧ Offends rest fault.cause := by
  fun_induction tokensFrom offset found cs with
  | case1 => cases failed
  | case2 offset found c cs width rest piece ih =>
    obtain ⟨before, later, tokens, rfl, position, munches, offends⟩ := ih failed
    obtain ⟨gap, whole, rfl, separates⟩ := (Piece.begins_of_next piece).separates
    -- The text before the fault is cut off there, which changes nothing for what separates it.
    have apart : Separates gap before :=
      separates.exchange fun c member => .inl (mem_head?_append member later)
    refine ⟨gap ++ before, later, tokens, by rw [whole, List.append_assoc], ?_,
      munches.separated apart, offends⟩
    rw [position, Text.byteWidth_append, Nat.add_assoc]
  | case3 offset found c cs text rest piece stop token classified ih =>
    obtain ⟨before, later, tokens, rfl, position, munches, offends⟩ := ih failed
    obtain ⟨rfl, whole, start, stopped, ends⟩ := Token.of_lexeme piece classified
    have ended : token.EndsBefore before :=
      ends.exchange fun c member => .inl (mem_head?_append member later)
    have width : token.stop = token.start + Text.byteWidth token.text.toList := by
      rw [stopped, start]
    rw [← stopped] at munches
    refine ⟨token.text.toList ++ before, later, token :: tokens, ?_, ?_,
      munches.token start width ended, offends⟩
    · rw [whole, List.append_assoc]
    · rw [position, Text.byteWidth_append, ← Nat.add_assoc]
  | case4 offset found c cs text rest piece stop unclassified =>
    cases failed
    have begins := Piece.begins_of_next piece
    exact ⟨[], c :: cs, [], rfl, rfl, .none .nothing,
      begins.offends_lexeme (Token.unclassified_of_ofText? unclassified)⟩
  | case5 offset found c cs rest piece =>
    cases failed
    exact ⟨[], c :: cs, [], rfl, rfl, .none .nothing,
      (Piece.begins_of_next piece).offends_openComment⟩
  | case6 offset found c cs rest piece =>
    cases failed
    exact ⟨[], c :: cs, [], rfl, rfl, .none .nothing,
      (Piece.begins_of_next piece).offends_openString⟩

end Jack
