import Jack.Proofs.Token.Offence

namespace Jack

/-- The fault stands at a boundary inside the source. What is before it can be split into tokens, and the
cause is what is wrong with the beginning of the rest. -/
def FirstOffence (source : String) (fault : Fault) : Prop :=
  ∃ before rest : String, source = before ++ rest ∧ rest ≠ "" ∧
    before.utf8ByteSize = fault.offset ∧ (∃ tokens, tokenize before = .ok tokens) ∧
    ∀ cause, fault.cause = cause ↔ Offends rest.toList cause

theorem Offends.unique {cs : List Char} {first second : Cause} (one : Offends cs first)
    (other : Offends cs second) : first = second := by
  have same := (one.refused 0 []).symm.trans (other.refused 0 [])
  cases same
  rfl

theorem tokenize_reports_first_offence {source : String} {fault : Fault}
    (failed : tokenize source = .error fault) : FirstOffence source fault := by
  obtain ⟨before, rest, tokens, whole, position, munches, offends⟩ := offends_of_tokensFrom failed
  refine ⟨String.ofList before, String.ofList rest, ?_, ?_, ?_, ⟨tokens, ?_⟩, ?_⟩
  · rw [← String.ofList_append, ← whole, String.ofList_toList]
  · intro atEnd
    rw [← String.ofList_nil, String.ofList_inj] at atEnd
    exact offends.ne_nil atEnd
  · rw [Text.utf8ByteSize_ofList, position, Nat.zero_add]
  · rw [tokenize_eq_ok_iff, String.toList_ofList]
    exact munches
  · intro cause
    rw [String.toList_ofList]
    constructor
    · rintro rfl
      exact offends
    · exact offends.unique

/-- A comment whose close is that of another one, a string constant that goes on in the next line, an
integer with leading zeros, a letter outside of ASCII, and a carriage return between quotes. -/
theorem first_offences_of_fragments :
    (tokenize "x/**/ /*/ y" = .error ⟨.unterminatedComment, 6⟩ ∧
      FirstOffence "x/**/ /*/ y" ⟨.unterminatedComment, 6⟩) ∧
    (tokenize "\"a\"\"b\n\"" = .error ⟨.unterminatedString, 3⟩ ∧
      FirstOffence "\"a\"\"b\n\"" ⟨.unterminatedString, 3⟩) ∧
    (tokenize "-0032768;" = .error ⟨.integerOutOfRange "0032768", 1⟩ ∧
      FirstOffence "-0032768;" ⟨.integerOutOfRange "0032768", 1⟩) ∧
    (tokenize "a\u3000né.b" = .error ⟨.unrecognisedToken "né", 4⟩ ∧
      FirstOffence "a\u3000né.b" ⟨.unrecognisedToken "né", 4⟩) ∧
    (tokenize "1 \"b\r\"c" = .error ⟨.unrecognisedToken "\"b\r\"", 2⟩ ∧
      FirstOffence "1 \"b\r\"c" ⟨.unrecognisedToken "\"b\r\"", 2⟩) := by
  have comment : lexicalFault? "x/**/ /*/ y" = some ⟨.unterminatedComment, 6⟩ := by
    decide +kernel
  have string : lexicalFault? "\"a\"\"b\n\"" = some ⟨.unterminatedString, 3⟩ := by
    decide +kernel
  have integer : lexicalFault? "-0032768;" = some ⟨.integerOutOfRange "0032768", 1⟩ := by
    decide +kernel
  have word : lexicalFault? "a\u3000né.b" = some ⟨.unrecognisedToken "né", 4⟩ := by
    decide +kernel
  have broken : lexicalFault? "1 \"b\r\"c" = some ⟨.unrecognisedToken "\"b\r\"", 2⟩ := by
    decide +kernel
  have comment := tokenize_of_lexicalFault? comment
  have string := tokenize_of_lexicalFault? string
  have integer := tokenize_of_lexicalFault? integer
  have word := tokenize_of_lexicalFault? word
  have broken := tokenize_of_lexicalFault? broken
  exact ⟨⟨comment, tokenize_reports_first_offence comment⟩,
    ⟨string, tokenize_reports_first_offence string⟩,
    ⟨integer, tokenize_reports_first_offence integer⟩,
    ⟨word, tokenize_reports_first_offence word⟩,
    broken, tokenize_reports_first_offence broken⟩

end Jack
