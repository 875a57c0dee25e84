import Jack.Proofs.Token.Split

namespace Jack

/-- The lexemes in a row, with a separator after each for as long as there are separators. -/
def spaced : List String → List String → String
  | [], _ => ""
  | lexeme :: _, [] => lexeme
  | lexeme :: lexemes, separator :: separators => lexeme ++ separator ++ spaced lexemes separators

theorem exists_token {lexeme : String} (accepted : (classify lexeme).isSome) (start : Nat) :
    ∃ token : Token, token.text = lexeme ∧ token.start = start ∧
      token.stop = token.start + Text.byteWidth token.text.toList := by
  obtain ⟨kind, classified⟩ := Option.isSome_iff_exists.mp accepted
  exact ⟨⟨lexeme, kind, start, start + Text.byteWidth lexeme.toList, classified⟩, rfl, rfl, rfl⟩

theorem Munches.alone {offset : Nat} {token : Token} (start : token.start = offset)
    (stop : token.stop = token.start + Text.byteWidth token.text.toList) :
    Munches offset token.text.toList [token] := by
  have munches := (Munches.none .nothing).token start stop token.endsBefore_nil
  rwa [List.append_nil] at munches

theorem Munches.beforeBlanks {offset : Nat} {token : Token} {separator later : List Char}
    {tokens : List Token} (start : token.start = offset)
    (stop : token.stop = token.start + Text.byteWidth token.text.toList) (nonempty : separator ≠ [])
    (blanks : ∀ c ∈ separator, Text.isBlank c)
    (rest : Munches (token.stop + Text.byteWidth separator) later tokens) :
    Munches offset (token.text.toList ++ (separator ++ later)) (token :: tokens) := by
  have ends : token.EndsBefore (separator ++ later) := by
    refine token.endsBefore_blank fun c member => blanks c ?_
    rw [List.head?_append_of_ne_nil _ nonempty] at member
    exact List.mem_of_mem_head? member
  exact (rest.separated (separates_blanks blanks)).token start stop ends

theorem exists_munches {lexemes separators : List String}
    (accepted : ∀ lexeme ∈ lexemes, (classify lexeme).isSome)
    (enough : lexemes.length ≤ separators.length + 1)
    (blank : ∀ separator ∈ separators, separator ≠ "" ∧ ∀ c ∈ separator.toList, Text.isBlank c)
    (offset : Nat) :
    ∃ tokens, tokens.map (·.text) = lexemes ∧
      Munches offset (spaced lexemes separators).toList tokens := by
  induction lexemes generalizing separators offset with
  | nil => exact ⟨[], rfl, .none .nothing⟩
  | cons lexeme lexemes ih =>
    obtain ⟨isLexeme, others⟩ := List.forall_mem_cons.mp accepted
    obtain ⟨token, rfl, start, stop⟩ := exists_token isLexeme offset
    cases separators with
    | nil =>
      obtain rfl : lexemes = [] := List.eq_nil_of_length_eq_zero (by simpa using enough)
      exact ⟨[token], rfl, .alone start stop⟩
    | cons separator separators =>
      obtain ⟨⟨nonempty, blanks⟩, between⟩ := List.forall_mem_cons.mp blank
      obtain ⟨tokens, texts, rest⟩ := ih others (by simpa using enough) between
        (token.stop + Text.byteWidth separator.toList)
      refine ⟨token :: tokens, by rw [List.map_cons, texts], ?_⟩
      rw [spaced, String.toList_append, String.toList_append, List.append_assoc]
      exact rest.beforeBlanks start stop (mt String.toList_eq_nil_iff.mp nonempty) blanks

theorem exists_source (tokens : List Token) :
    ∃ source others, tokenize source = .ok others ∧
      others.map (·.text) = tokens.map (·.text) := by
  have accepted : ∀ lexeme ∈ tokens.map (·.text), (classify lexeme).isSome := by
    intro lexeme member
    obtain ⟨token, _, rfl⟩ := List.mem_map.mp member
    rw [token.classified]
    rfl
  have enough : (tokens.map (·.text)).length ≤ (List.replicate tokens.length " ").length + 1 := by
    simp
  have blank : ∀ separator ∈ List.replicate tokens.length " ",
      separator ≠ "" ∧ ∀ c ∈ separator.toList, Text.isBlank c := by
    intro separator member
    rw [List.eq_of_mem_replicate member]
    constructor
    · decide
    · intro c inside
      obtain rfl : c = ' ' := List.mem_singleton.mp inside
      rfl
  obtain ⟨others, texts, munches⟩ := exists_munches accepted enough blank 0
  exact ⟨_, others, tokenize_eq_ok_iff.mpr munches, texts⟩

theorem tokenize_spaced {lexemes separators : List String}
    (accepted : ∀ lexeme ∈ lexemes, (classify lexeme).isSome)
    (enough : lexemes.length ≤ separators.length + 1)
    (blank : ∀ separator ∈ separators, separator ≠ "" ∧ ∀ c ∈ separator.toList, Text.isBlank c) :
    ∃ tokens, tokenize (spaced lexemes separators) = .ok tokens ∧
      tokens.map (fun token => (token.text, some token.kind)) =
        lexemes.map (fun lexeme => (lexeme, classify lexeme)) := by
  obtain ⟨tokens, texts, munches⟩ := exists_munches accepted enough blank 0
  refine ⟨tokens, tokenize_eq_ok_iff.mpr munches, ?_⟩
  rw [← texts, List.map_map]
  refine List.map_congr_left fun token _ => ?_
  rw [Function.comp_apply, token.classified]

def trickyLexemes : List String :=
  ["class", "classes", "/", "/", "*", "\"/*\u00a0x//\"", "007", "_1"]

def trickySeparators : List String :=
  ["\u00a0", "\n", " ", "\t\r", "\u3000", " \n", "\u2028"]

/-- A keyword in front of a name that begins with it, marks that would make comments without the blanks,
the opening of a comment in a string constant, and leading zeros. -/
theorem tokenize_spaced_tricky :
    (∀ lexeme ∈ trickyLexemes, (classify lexeme).isSome) ∧
    (∀ separator ∈ trickySeparators, separator ≠ "" ∧ ∀ c ∈ separator.toList, Text.isBlank c) ∧
    ∃ tokens, tokenize (spaced trickyLexemes trickySeparators) = .ok tokens ∧
      tokens.map (fun token => (token.text, some token.kind)) =
        trickyLexemes.map (fun lexeme => (lexeme, classify lexeme)) := by
  have accepted : ∀ lexeme ∈ trickyLexemes, (classify lexeme).isSome := by
    decide +kernel
  have all : trickySeparators.all fun separator =>
      separator != "" && separator.toList.all Text.isBlank := by
    decide +kernel
  have blank : ∀ separator ∈ trickySeparators,
      separator ≠ "" ∧ ∀ c ∈ separator.toList, Text.isBlank c := by
    simpa [List.all_eq_true] using all
  exact ⟨accepted, blank, tokenize_spaced accepted (by decide) blank⟩

end Jack
