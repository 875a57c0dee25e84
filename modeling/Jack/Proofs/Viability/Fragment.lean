import Mathlib.Computability.Language
import Jack.Proofs.Grammar.Follow
import Jack.Proofs.Token.Spelling

namespace Jack

open Grammar

/-- A token, and whether it stands for a variable. -/
abbrev Marked := Token × Bool

namespace Marked

def tokens (word : List Marked) : List Token :=
  word.map (·.1)

def marks (word : List Marked) : List Token :=
  (word.filter (·.2)).map (·.1)

variable (token : Token) (mark : Bool) (word later : List Marked)

@[simp] theorem tokens_nil : tokens [] = [] := rfl

@[simp] theorem tokens_cons : tokens ((token, mark) :: word) = token :: tokens word := rfl

@[simp] theorem tokens_append : tokens (word ++ later) = tokens word ++ tokens later :=
  List.map_append

@[simp] theorem marks_nil : marks [] = [] := rfl

@[simp] theorem marks_unmarked : marks ((token, false) :: word) = marks word := rfl

@[simp] theorem marks_marked : marks ((token, true) :: word) = token :: marks word := rfl

@[simp] theorem marks_append : marks (word ++ later) = marks word ++ marks later := by
  simp [marks]

end Marked

open Marked

/-- The words of a part, of which there is at least one. -/
structure Fragment where
  words : Language Marked
  inhabited : ∃ word, word ∈ words

namespace Fragment

def all (parts : List Fragment) : Language Marked :=
  (parts.map words).prod

variable {part : Fragment} {parts later : List Fragment} {word : List Marked}

theorem mem_all_cons :
    word ∈ all (part :: parts) ↔
      ∃ first ∈ part.words, ∃ rest ∈ all parts, first ++ rest = word := by
  rw [all, List.map_cons, List.prod_cons]
  exact Language.mem_mul

theorem mem_all_append :
    word ∈ all (parts ++ later) ↔
      ∃ first ∈ all parts, ∃ rest ∈ all later, first ++ rest = word := by
  rw [all, List.map_append, List.prod_append]
  exact Language.mem_mul

theorem exists_mem_all (parts : List Fragment) : ∃ word, word ∈ all parts := by
  induction parts with
  | nil => exact ⟨[], Language.nil_mem_one⟩
  | cons part parts ih =>
    obtain ⟨first, inside⟩ := part.inhabited
    obtain ⟨rest, insideRest⟩ := ih
    exact ⟨first ++ rest, mem_all_cons.mpr ⟨first, inside, rest, insideRest, rfl⟩⟩

theorem forall_all_nil {property : List Marked → Prop} :
    (∀ word ∈ all [], property word) ↔ property [] := by
  constructor
  · exact fun holds => holds [] Language.nil_mem_one
  · intro holds word member
    rw [(Language.mem_one word).mp member]
    exact holds

theorem forall_all_cons {property : List Marked → Prop} :
    (∀ word ∈ all (part :: parts), property word) ↔
      ∀ first ∈ part.words, ∀ rest ∈ all parts, property (first ++ rest) := by
  constructor
  · intro holds first inside rest insideRest
    exact holds _ (mem_all_cons.mpr ⟨first, inside, rest, insideRest, rfl⟩)
  · intro holds word member
    obtain ⟨first, inside, rest, insideRest, rfl⟩ := mem_all_cons.mp member
    exact holds first inside rest insideRest

theorem forall_all_append {property : List Marked → Prop} :
    (∀ word ∈ all (parts ++ later), property word) ↔
      ∀ first ∈ all parts, ∀ rest ∈ all later, property (first ++ rest) := by
  constructor
  · intro holds first inside rest insideRest
    exact holds _ (mem_all_append.mpr ⟨first, inside, rest, insideRest, rfl⟩)
  · intro holds word member
    obtain ⟨first, inside, rest, insideRest, rfl⟩ := mem_all_append.mp member
    exact holds first inside rest insideRest

def either (first second : List Fragment) : Fragment where
  words := all first + all second
  inhabited := by
    obtain ⟨word, inside⟩ := exists_mem_all first
    exact ⟨word, .inl inside⟩

theorem mem_either {first second : List Fragment} :
    word ∈ (either first second).words ↔ word ∈ all first ∨ word ∈ all second :=
  Iff.rfl

theorem mem_all_single : word ∈ all [part] ↔ word ∈ part.words := by
  rw [mem_all_cons]
  constructor
  · rintro ⟨first, inside, _, rfl, rfl⟩
    rwa [List.append_nil]
  · exact fun inside => ⟨word, inside, [], rfl, List.append_nil word⟩

theorem forall_all_either {first second : List Fragment} {property : List Marked → Prop} :
    (∀ word ∈ all [either first second], property word) ↔
      (∀ word ∈ all first, property word) ∧ ∀ word ∈ all second, property word := by
  simp only [mem_all_single, mem_either, or_imp, forall_and]

theorem exists_token {text : String} {kind : LexemeKind} (classified : classify text = some kind) :
    ∃ token : Token, token.kind = kind :=
  ⟨⟨text, kind, 0, 0, classified⟩, rfl⟩

theorem exists_symbol (mark : Char) (isMark : isSymbolChar mark := by decide) :
    ∃ token : Token, token.isSymbol mark := by
  have all : symbolChars.all fun mark => classify mark.toString == some (.symbol mark) := by
    decide
  have member : mark ∈ symbolChars := by
    simpa [isSymbolChar] using isMark
  obtain ⟨token, same⟩ := exists_token (eq_of_beq (List.all_eq_true.mp all mark member))
  exact ⟨token, by simp [Token.isSymbol, same]⟩

theorem exists_keyword (word : Keyword) : ∃ token : Token, token.isKeyword word := by
  have classified : classify word.text = some (.keyword word) := by
    cases word <;> decide
  obtain ⟨token, same⟩ := exists_token classified
  exact ⟨token, by simp [Token.isKeyword, same]⟩

theorem exists_identifier : ∃ token : Token, token.isIdentifier := by
  have classified : classify "x" = some .identifier := by
    decide
  obtain ⟨token, same⟩ := exists_token classified
  exact ⟨token, by simp [Token.isIdentifier, same]⟩

def one (test : Token → Bool) (mark : Bool) (inhabited : ∃ token, test token) : Fragment where
  words := {word | ∃ token, test token ∧ word = [(token, mark)]}
  inhabited := by
    obtain ⟨token, passes⟩ := inhabited
    exact ⟨_, token, passes, rfl⟩

abbrev symbol (mark : Char) (isMark : isSymbolChar mark := by decide) : Fragment :=
  one (·.isSymbol mark) false (exists_symbol mark isMark)

abbrev keyword (word : Keyword) : Fragment :=
  one (·.isKeyword word) false (exists_keyword word)

abbrev name : Fragment :=
  one (·.isIdentifier) false exists_identifier

abbrev variableName : Fragment :=
  one (·.isIdentifier) true exists_identifier

theorem cons_mem_all_one {test : Token → Bool} {mark : Bool} {inhabited : ∃ token, test token}
    {token : Token} (passes : test token) (member : word ∈ all parts) :
    (token, mark) :: word ∈ all (one test mark inhabited :: parts) :=
  mem_all_cons.mpr ⟨_, ⟨token, passes, rfl⟩, word, member, rfl⟩

theorem forall_all_one {test : Token → Bool} {mark : Bool} {inhabited : ∃ token, test token}
    {property : List Marked → Prop} :
    (∀ word ∈ all (one test mark inhabited :: parts), property word) ↔
      ∀ token, test token → ∀ word ∈ all parts, property ((token, mark) :: word) := by
  rw [forall_all_cons]
  constructor
  · exact fun holds token passes => holds _ ⟨token, passes, rfl⟩
  · rintro holds _ ⟨token, passes, rfl⟩
    exact holds token passes

theorem exists_phrase (phrase : Phrase) : ∃ word, Derives phrase (tokens word) (marks word) := by
  obtain ⟨name, isName⟩ := exists_identifier
  cases phrase with
  | term => exact ⟨[(name, true)], .use isName⟩
  | operations => exact ⟨[], .noOperation⟩
  | expression => exact ⟨[(name, true)], .expression (.use isName) .noOperation⟩
  | call =>
    obtain ⟨opening, opens⟩ := exists_symbol '('
    obtain ⟨closing, closes⟩ := exists_symbol ')'
    exact ⟨[(name, false), (opening, false), (closing, false)],
      .plainCall isName opens .noExpressions closes⟩
  | expressionList => exact ⟨[], .noExpressions⟩
  | moreExpressions => exact ⟨[], .noMore⟩
  | statement =>
    obtain ⟨word, isReturn⟩ := exists_keyword .returnKw
    obtain ⟨semicolon, ends⟩ := exists_symbol ';'
    exact ⟨[(word, false), (semicolon, false)], .leave isReturn ends⟩
  | block =>
    obtain ⟨opening, opens⟩ := exists_symbol '{'
    obtain ⟨closing, closes⟩ := exists_symbol '}'
    exact ⟨[(opening, false), (closing, false)], .block opens .noStatements closes⟩
  | statements => exact ⟨[], .noStatements⟩

def phrase (phrase : Phrase) : Fragment where
  words := {word | Derives phrase (tokens word) (marks word)}
  inhabited := exists_phrase phrase

theorem forall_all_phrase {sort : Phrase} {property : List Marked → Prop} :
    (∀ word ∈ all (phrase sort :: parts), property word) ↔
      ∀ first, Derives sort (tokens first) (marks first) →
        ∀ word ∈ all parts, property (first ++ word) :=
  forall_all_cons

theorem mem_all_phrase {sort : Phrase} :
    word ∈ all [phrase sort] ↔ Derives sort (tokens word) (marks word) :=
  mem_all_single

end Fragment

end Jack
