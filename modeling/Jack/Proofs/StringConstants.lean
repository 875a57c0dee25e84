import Jack.Proofs.Program.Strings
import Jack.Proofs.Reading.Expression
import Jack.Proofs.Token.Listed

namespace Jack

/-- The constants that are pushed right before the calls of a subroutine. -/
def constantsBefore (name : String) : List Instruction → List UInt16
  | [] => []
  | .push .constant value :: .call called _ :: code =>
    if called = name then value :: constantsBefore name code else constantsBefore name code
  | _ :: code => constantsBefore name code

def words (contents : String) : List Nat :=
  contents.toList.map (·.toNat % 65536)

def FitsWords (contents : String) : Prop :=
  ∀ c ∈ contents.toList, c.toNat < 65536

instance (contents : String) : Decidable (FitsWords contents) :=
  List.decidableBAll (fun c : Char => c.toNat < 65536) contents.toList

theorem words_eq_iff {contents : String} :
    words contents = contents.toList.map Char.toNat ↔ FitsWords contents := by
  rw [words, List.map_inj_left]
  constructor
  · intro same c member
    have low := same c member
    omega
  · intro fits c member
    exact Nat.mod_eq_of_lt (fits c member)

theorem eq_of_words {contents other : String} (fits : FitsWords contents) (others : FitsWords other)
    (same : words contents = words other) : contents = other := by
  rw [words_eq_iff.mpr fits, words_eq_iff.mpr others] at same
  apply String.toList_inj.mp
  exact List.map_injective_iff.mpr (fun _ _ => Char.toNat_inj.mp) same

namespace Constant

section

variable (cs : List Char)

theorem constantsBefore_new_charCode : constantsBefore "String.new" (cs.flatMap charCode) = [] := by
  induction cs with
  | nil => rfl
  | cons c cs ih =>
    rw [List.flatMap_cons]
    simpa [charCode, constantsBefore] using ih

theorem constantsBefore_append_charCode :
    constantsBefore "String.appendChar" (cs.flatMap charCode) = cs.map (·.toNat.toUInt16) := by
  induction cs with
  | nil => rfl
  | cons c cs ih =>
    rw [List.flatMap_cons]
    simpa [charCode, constantsBefore] using ih

end

variable (contents : String)

theorem lengths_stringCode :
    (constantsBefore "String.new" (stringCode contents)).map UInt16.toNat =
      [contents.length % 65536] := by
  have others := constantsBefore_new_charCode contents.toList
  simp [stringCode, constantsBefore, others]

theorem characters_stringCode :
    (constantsBefore "String.appendChar" (stringCode contents)).map UInt16.toNat = words contents := by
  have others := constantsBefore_append_charCode contents.toList
  simp [stringCode, constantsBefore, others, words]

theorem stringCode_of_words : stringCode contents =
    .push .constant (words contents).length.toUInt16 :: .call "String.new" 1 ::
      (words contents).flatMap fun word =>
        [.push .constant word.toUInt16, .call "String.appendChar" 2] := by
  have low : ∀ c : Char, (c.toNat % 65536).toUInt16 = c.toNat.toUInt16 := by
    intro c
    apply UInt16.toNat_inj.mp
    simp
  have pieces : ∀ c, charCode c =
      [.push .constant (c.toNat % 65536).toUInt16, .call "String.appendChar" 2] := by
    intro c
    rw [charCode, low]
  have length : (words contents).length = contents.length := by
    rw [words, List.length_map, String.length_toList]
  rw [stringCode, length, words, List.flatMap_map, funext pieces]

theorem stringCode_eq_iff {other : String} :
    stringCode contents = stringCode other ↔ words contents = words other := by
  constructor
  · intro same
    rw [← characters_stringCode, ← characters_stringCode, same]
  · intro same
    rw [stringCode_of_words, stringCode_of_words, same]

end Constant

theorem TermStart.ofKind?_of_constant {kind : LexemeKind} {value : Constant}
    (constant : Constant.ofKind? kind = some value) : ofKind? kind = some (.constant value) := by
  cases kind with
  | identifier => cases constant
  | symbol mark => cases constant
  | _ => simp [ofKind?, constant]

theorem term_of_constant {s : ParseState} {token : Token} {value : Constant}
    (next : s.cursor.ahead.head? = some token) (constant : Constant.ofKind? token.kind = some value) :
    ∃ t, s.term.reply = .ok (.constant token value) t ∧
      t.instructions = s.instructions ++ value.code := by
  obtain ⟨later, ahead⟩ := List.head?_eq_some_iff.mp next
  have start := TermStart.ofKind?_of_constant constant
  refine ⟨(Reading.after s token later).emit value.code, ?_, ParseState.instructions_emit _ _⟩
  have reads : Reading.term s = _ := congrFun Reading.term_eq s
  rw [Reading.bind_apply, Reading.accept, ahead] at reads
  simp only [start, Option.isSome_some, if_true] at reads
  exact reads

theorem term_of_string {s : ParseState} {token : Token} {contents : String}
    (next : s.cursor.ahead.head? = some token) (string : token.kind = .string contents) :
    ∃ t, s.term.reply = .ok (.constant token (.string contents)) t ∧
      t.instructions = s.instructions ++ Constant.stringCode contents :=
  term_of_constant next (by rw [string]; rfl)

/-- A string constant of an accepted class. Its code is emitted where it is read. What is pushed before
the calls in it are the low 16 bits of its length and of the numbers of its characters, and these are
all that tells it from the code of another string. -/
theorem strings_reach_code_as_words {tokens : List Token} {declaration : ClassDec} {s : ParseState}
    (accepted : parse tokens = .ok declaration s) :
    Builds s.instructions (stringsOf tokens) ∧
    ∀ token ∈ tokens, ∀ contents, token.kind = .string contents →
      token.text = "\"" ++ contents ++ "\"" ∧
      (∀ before : ParseState, before.cursor.ahead.head? = some token →
        ∃ after, before.term.reply = .ok (.constant token (.string contents)) after ∧
          after.instructions = before.instructions ++ Constant.stringCode contents) ∧
      (constantsBefore "String.new" (Constant.stringCode contents)).map UInt16.toNat =
        [contents.length % 65536] ∧
      (constantsBefore "String.appendChar" (Constant.stringCode contents)).map UInt16.toNat =
        words contents ∧
      (words contents = contents.toList.map Char.toNat ↔ FitsWords contents) ∧
      (∀ other, Constant.stringCode contents = Constant.stringCode other ↔
        words contents = words other) ∧
      (FitsWords contents → ∀ other, FitsWords other →
        Constant.stringCode contents = Constant.stringCode other → contents = other) := by
  constructor
  · rw [instructions_of_parse accepted, tokens_of_parse accepted]
    exact ClassDec.builds_code (parse_reads accepted).1.grammatical
  · intro token _ contents string
    refine ⟨token.text_of_string string, fun before next => term_of_string next string,
      Constant.lengths_stringCode contents, Constant.characters_stringCode contents, words_eq_iff,
      fun other => Constant.stringCode_eq_iff contents, ?_⟩
    intro fits other others same
    exact eq_of_words fits others ((Constant.stringCode_eq_iff contents).mp same)

/-- Two constants whose characters differ by 65536. -/
def emojiTexts : List String :=
  ["class", "A", "\x7b", "function", "void", "f", "(", ")", "\x7b", "do", "g", "(", "\"😀\"", ",",
    "\"\uf600\"", ")", ";", "return", ";", "\x7d", "\x7d"]

theorem code_of_emoji_is_of_another_string : ∃ declaration s,
    parse (lexemes emojiTexts) = .ok declaration s ∧ Builds s.instructions ["😀", "\uf600"] ∧
      ¬ FitsWords "😀" ∧ FitsWords "\uf600" ∧
      Constant.stringCode "😀" = Constant.stringCode "\uf600" := by
  obtain ⟨declaration, s, accepted, _⟩ := exists_of_acceptsWith
    (show acceptsWith (fun _ => true) (lexemes emojiTexts) from by decide +kernel)
  obtain ⟨builds, each⟩ := strings_reach_code_as_words accepted
  have strings : stringsOf (lexemes emojiTexts) = ["😀", "\uf600"] := by decide +kernel
  rw [strings] at builds
  have member : "😀" ∈ stringsOf (lexemes emojiTexts) := by simp [strings]
  obtain ⟨token, inside, kind⟩ := mem_stringsOf.mp member
  obtain ⟨_, _, _, _, _, codes, _⟩ := each token inside "😀" kind
  have same : words "😀" = words "\uf600" := by decide +kernel
  exact ⟨declaration, s, accepted, builds, by decide +kernel, by decide +kernel,
    (codes "\uf600").mpr same⟩

end Jack
