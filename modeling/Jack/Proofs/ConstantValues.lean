import Jack.Proofs.StringConstants
import Jack.Proofs.Token.Value

namespace Jack

structure Digits (text : String) : Prop where
  nonempty : text ≠ ""
  inside : ∀ c ∈ text.toList, c.isDigit

/-- What digits are classified as, in terms of the number that they stand for. The class is found in 32
bits and the value in 16 bits, and neither is too small for it. -/
structure IntegerLexeme (digits : String) : Prop where
  checked : classify digits = LexemeKind.ofDigits? digits.toList
  accepted : (classify digits).isSome ↔ numeral digits.toList ≤ 32767
  padded : ∀ zeros, classify (String.ofList (List.replicate zeros '0' ++ digits.toList)) =
    classify digits
  value : ∀ token : Token, token.text = digits →
    ∃ value, token.kind = .integer value ∧ token.intValue? = some value ∧
      value.toNat = numeral digits.toList

theorem numeral_zeros (zeros : Nat) (digits : List Char) :
    numeral (List.replicate zeros '0' ++ digits) = numeral digits := by
  induction zeros with
  | zero => rfl
  | succ zeros ih =>
    rw [← ih, ← decimalValue_eq_numeral, ← decimalValue_eq_numeral]
    rfl

namespace Digits

variable {digits : String}

theorem chars_ne_nil (isNumber : Digits digits) : digits.toList ≠ [] := by
  intro empty
  exact isNumber.nonempty (String.toList_eq_nil_iff.mp empty)

theorem classify_eq (isNumber : Digits digits) : classify digits = LexemeKind.ofDigits? digits.toList := by
  have checked := classify_digits isNumber.chars_ne_nil isNumber.inside
  rwa [String.ofList_toList] at checked

theorem pad (isNumber : Digits digits) (zeros : Nat) :
    Digits (String.ofList (List.replicate zeros '0' ++ digits.toList)) := by
  constructor
  · intro empty
    rw [← String.toList_eq_nil_iff, String.toList_ofList, List.append_eq_nil_iff] at empty
    exact isNumber.chars_ne_nil empty.2
  · intro c member
    rw [String.toList_ofList] at member
    rcases List.mem_append.mp member with zero | member
    · rw [(List.mem_replicate.mp zero).2]
      rfl
    · exact isNumber.inside c member

theorem integerLexeme (isNumber : Digits digits) : IntegerLexeme digits := by
  have value := LexemeKind.ofDigits?_eq isNumber.chars_ne_nil isNumber.inside
  refine ⟨isNumber.classify_eq, ?_, fun zeros => ?_, ?_⟩
  · rw [isNumber.classify_eq, value]
    split
    · rename_i small
      exact iff_of_true rfl small
    · rename_i large
      exact iff_of_false (by simp) large
  · have padded := isNumber.pad zeros
    have other := LexemeKind.ofDigits?_eq padded.chars_ne_nil padded.inside
    rw [padded.classify_eq, isNumber.classify_eq, other, value, String.toList_ofList, numeral_zeros]
  · rintro token rfl
    have classified := token.classified
    rw [isNumber.classify_eq, value] at classified
    split at classified
    · have integer := (Option.some.inj classified).symm
      exact ⟨_, integer, token.intValue?_of_integer integer, (Token.value_of_integer integer).2⟩
    · cases classified

end Digits

/-- The code of an accepted class has what its constants stand for. Where one of them is read, it is
emitted with the value that the token has. -/
structure ConstantsReachCode (tokens : List Token) (s : ParseState) : Prop where
  pieces : Holds s.instructions (tokens.filterMap Token.constantCode?)
  integer : ∀ token ∈ tokens, ∀ value, token.kind = .integer value →
    token.intValue? = some value ∧ value.toNat = numeral token.text.toList ∧
      token.constantCode? = some [.push .constant value] ∧
      ∀ before : ParseState, before.cursor.ahead.head? = some token →
        ∃ after, before.term.reply = .ok (.constant token (.integer value)) after ∧
          after.instructions = before.instructions ++ [.push .constant value]
  string : ∀ token ∈ tokens, ∀ contents, token.kind = .string contents →
    token.stringValue? = some contents ∧
      token.constantCode? = some (Constant.stringCode contents) ∧
      ∀ before : ParseState, before.cursor.ahead.head? = some token →
        ∃ after, before.term.reply = .ok (.constant token (.string contents)) after ∧
          after.instructions = before.instructions ++ Constant.stringCode contents

theorem filterMap_constantCode? (tokens : List Token) :
    tokens.filterMap Token.constantCode? = constantCodes tokens := by
  rw [constantCodes, constantsOf, List.map_filterMap, funext Token.constantCode?_eq]
  rfl

theorem constantsReachCode {tokens : List Token} {declaration : ClassDec} {s : ParseState}
    (accepted : parse tokens = .ok declaration s) : ConstantsReachCode tokens s := by
  refine ⟨?_, fun token _ value integer => ?_, fun token _ contents string => ?_⟩
  · rw [filterMap_constantCode?, instructions_of_parse accepted, tokens_of_parse accepted]
    exact ClassDec.holds_constants (parse_reads accepted).1.grammatical
  · have constant : Constant.ofKind? token.kind = some (.integer value) := by
      rw [integer]
      rfl
    refine ⟨token.intValue?_of_integer integer, (Token.value_of_integer integer).2, ?_,
      fun before next => term_of_constant next constant⟩
    rw [token.constantCode?_eq, constant]
    rfl
  · have constant : Constant.ofKind? token.kind = some (.string contents) := by
      rw [string]
      rfl
    refine ⟨token.stringValue?_of_string string, ?_, fun before next => term_of_constant next constant⟩
    rw [token.constantCode?_eq, constant]
    rfl

/-- Digits are an integer constant for as long as their number is in range, and then the token has this
number. The value of a string constant is the text between its quotes. The code of every accepted class
pushes these values. -/
theorem constants_keep_value :
    (∀ digits, Digits digits → IntegerLexeme digits) ∧
      (∀ (token : Token) (contents : String), token.kind = .string contents →
        token.text = "\"" ++ contents ++ "\"" ∧ token.stringValue? = some contents) ∧
      ∀ tokens declaration s, parse tokens = .ok declaration s → ConstantsReachCode tokens s :=
  ⟨fun _ isNumber => isNumber.integerLexeme,
    fun token _ string => ⟨token.text_of_string string, token.stringValue?_of_string string⟩,
    fun _ _ _ accepted => constantsReachCode accepted⟩

def valueTexts : List String :=
  ["class", "A", "\x7b", "function", "int", "f", "(", ")", "\x7b", "do", "g", "(", "\"é\"", ")", ";",
    "return", "0032767", ";", "\x7d", "\x7d"]

theorem code_has_values_of_constants : ∃ declaration s,
    parse (lexemes valueTexts) = .ok declaration s ∧
      Holds s.instructions [Constant.stringCode "é", [.push .constant 32767]] ∧
      (classify "0032767").isSome ∧ (classify "0032768").isNone := by
  obtain ⟨declaration, s, accepted, _⟩ := exists_of_acceptsWith
    (show acceptsWith (fun _ => true) (lexemes valueTexts) from by decide +kernel)
  obtain ⟨digits, _, reaches⟩ := constants_keep_value
  have codes : (lexemes valueTexts).filterMap Token.constantCode? =
      [Constant.stringCode "é", [.push .constant 32767]] := by
    decide +kernel
  have inside := (digits "0032767" ⟨by decide, List.all_eq_true.mp (by decide)⟩).accepted
  have beyond := (digits "0032768" ⟨by decide, List.all_eq_true.mp (by decide)⟩).accepted
  refine ⟨declaration, s, accepted, codes ▸ (reaches _ _ _ accepted).pieces, ?_, ?_⟩
  · exact inside.mpr (by decide)
  · rw [Option.isNone_iff_eq_none, ← Option.not_isSome_iff_eq_none, beyond]
    decide

end Jack
