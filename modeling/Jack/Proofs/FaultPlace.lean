import Jack.Proofs.Lexing
import Jack.Proofs.Refusal
import Jack.Proofs.Replay
import Jack.Proofs.Token.Offence

namespace Jack

/-- What a cause complains of. Of what is not closed, it is the opening. -/
def Cause.lexeme : Cause → String
  | unterminatedString => "\""
  | unterminatedComment => "/*"
  | integerOutOfRange text | unrecognisedToken text => text
  | unexpectedToken _ found => found
  | undefinedSymbol name => name
  | endOfInput => ""

def BeginsVisibly (text : String) : Prop :=
  ∃ c ∈ text.toList.head?, ¬ Text.isBlank c

structure Fault.StandsIn (fault : Fault) (source : String) : Prop where
  visible : BeginsVisibly fault.cause.lexeme
  found : ∃ stop after,
    Text.Lies source.toList fault.offset stop fault.cause.lexeme.toList after

theorem LongestRun.beginsVisibly {run after : List Char} (longest : LongestRun run after) :
    BeginsVisibly (String.ofList run) := by
  obtain ⟨c, cs, rfl⟩ := List.exists_cons_of_ne_nil longest.nonempty
  rw [BeginsVisibly, String.toList_ofList]
  exact ⟨c, rfl, (longest.inside c List.mem_cons_self).1⟩

namespace Offends

variable {cs : List Char} {cause : Cause}

theorem beginsVisibly (offends : Offends cs cause) : BeginsVisibly cause.lexeme := by
  cases offends with
  | comment => exact ⟨'/', by decide⟩
  | string => exact ⟨'"', by decide⟩
  | integer longest => exact longest.beginsVisibly
  | word longest => exact longest.beginsVisibly
  | brokenString =>
    rw [BeginsVisibly, Cause.lexeme, String.toList_ofList]
    exact ⟨'"', rfl, by decide⟩

theorem isPrefix_lexeme (offends : Offends cs cause) : cause.lexeme.toList <+: cs := by
  cases offends with
  | comment => exact List.prefix_append ['/', '*'] _
  | string => exact List.prefix_append ['"'] _
  | integer =>
    rw [Cause.lexeme, String.toList_ofList]
    exact List.prefix_append _ _
  | word =>
    rw [Cause.lexeme, String.toList_ofList]
    exact List.prefix_append _ _
  | @brokenString body after =>
    rw [Cause.lexeme, String.toList_ofList]
    exact ⟨after, by simp⟩

end Offends

theorem Fault.standsIn_of_tokenize {source : String} {fault : Fault}
    (failed : tokenize source = .error fault) : fault.StandsIn source := by
  obtain ⟨before, rest, _, whole, position, _, offends⟩ := offends_of_tokensFrom failed
  obtain ⟨after, spelled⟩ := offends.isPrefix_lexeme
  refine ⟨offends.beginsVisibly, _, after, before, ?_, ?_, rfl⟩
  · rw [whole, spelled]
  · rw [position, Nat.zero_add]

theorem Token.beginsVisibly (token : Token) : BeginsVisibly token.text := by
  rcases token.spelling with ⟨mark, _, text, isMark⟩ | ⟨_, nonempty, word⟩ | ⟨contents, _, text, _⟩
  · rw [BeginsVisibly, text]
    exact ⟨mark, rfl, (Piece.of_isSymbolChar isMark).1⟩
  · obtain ⟨c, cs, same⟩ := List.exists_cons_of_ne_nil nonempty
    rw [same] at word
    rw [BeginsVisibly, same]
    exact ⟨c, rfl, (Piece.isWordChar_iff.mp (word c List.mem_cons_self)).1⟩
  · rw [BeginsVisibly, text]
    exact ⟨'"', rfl, by decide⟩

theorem exists_token_of_parse {tokens : List Token} {fault : Fault} {s : ParseState}
    (failed : parse tokens = .error fault s) (inside : fault.cause ≠ .endOfInput) :
    ∃ token ∈ tokens, fault.offset = token.start ∧ fault.cause.lexeme = token.text := by
  rw [parse_eq] at failed
  cases read : Reading.classDec (.start tokens) with
  | error found t =>
    rw [read] at failed
    cases failed
    cases correctPrefix_of_classDec read with
    | @unexpected _ _ token _ split => exact ⟨token, by simp [split], rfl, rfl⟩
    | ended => exact absurd rfl inside
    | @undefined _ _ token _ _ split => exact ⟨token, by simp [split], rfl, rfl⟩
  | ok declaration t =>
    rw [read] at failed
    cases ahead : t.cursor.ahead with
    | nil =>
      simp only [ahead] at failed
      cases failed
    | cons token later =>
      simp only [ahead] at failed
      cases failed
      have split := toList_of_classDec read
      rw [Cursor.toList, ahead] at split
      exact ⟨token, by simp [← split], rfl, rfl⟩

theorem Fault.standsIn_of_parse {source : String} {tokens : List Token} {fault : Fault}
    {s : ParseState} (split : tokenize source = .ok tokens) (failed : parse tokens = .error fault s)
    (inside : fault.cause ≠ .endOfInput) : fault.StandsIn source := by
  obtain ⟨token, member, position, lexeme⟩ := exists_token_of_parse failed inside
  obtain ⟨after, lies, _⟩ := (maximalMunch_iff.mpr split).covers token member
  refine ⟨lexeme ▸ token.beginsVisibly, token.stop, after, ?_⟩
  rw [position, lexeme]
  exact lies

theorem standsIn_of_compile {source : String} {file? : Option String} {diagnostic : Diagnostic}
    (failed : compile source file? = .error diagnostic) (inside : diagnostic.cause ≠ .endOfInput) :
    diagnostic.StandsIn source := by
  cases split : tokenize source with
  | error fault =>
    rw [compile, readUnit_of_fault _ split] at failed
    cases failed
    exact Fault.standsIn_of_tokenize split
  | ok tokens =>
    rw [compile_of_tokens split] at failed
    cases read : parse tokens with
    | ok declaration s =>
      rw [read] at failed
      cases failed
    | error fault s =>
      rw [read] at failed
      cases failed
      exact Fault.standsIn_of_parse split read inside

end Jack
