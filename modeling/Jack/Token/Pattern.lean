import Jack.Token.Split

namespace Jack

/-- A part of a pattern: a character of a class, or a run of such characters that is as long, or as
short, as what follows it permits. -/
inductive PatternPart where
  | one (passes : Char → Bool)
  | longest (passes : Char → Bool)
  | shortest (passes : Char → Bool)

abbrev Pattern :=
  List PatternPart

namespace Pattern

def char (c : Char) : PatternPart :=
  .one (· == c)

def upToClose : Pattern :=
  [.shortest fun _ => true, char '*', char '/']

def longestRun (passes : Char → Bool) (after : List Char → Option (List Char)) :
    List Char → Option (List Char)
  | [] => after []
  | c :: cs =>
    if passes c then (longestRun passes after cs).map (c :: ·) <|> after (c :: cs)
    else after (c :: cs)

def shortestRun (passes : Char → Bool) (after : List Char → Option (List Char)) :
    List Char → Option (List Char)
  | [] => after []
  | c :: cs =>
    after (c :: cs) <|> if passes c then (shortestRun passes after cs).map (c :: ·) else none

/-- The beginning of a text that a pattern matches. Each run prefers its length, the first one most. -/
def matched? : Pattern → List Char → Option (List Char)
  | [], _ => some []
  | .one _ :: _, [] => none
  | .one passes :: parts, c :: cs => if passes c then (matched? parts cs).map (c :: ·) else none
  | .longest passes :: parts, cs => longestRun passes (matched? parts) cs
  | .shortest passes :: parts, cs => shortestRun passes (matched? parts) cs

end Pattern

/-- What is done with a matched text: it is skipped, it has to be a token, it is a word, which may be an
integer out of range, or it is the beginning of something that does not end. -/
inductive Handler where
  | skip
  | token
  | word
  | refuse (cause : Cause)
deriving DecidableEq, Repr

open PatternPart in
/-- The first pattern that matches counts: a comment is no quotient, and what does not end is looked for
after what does. -/
def patterns : List (Pattern × Handler) :=
  [([one Text.isBlank, longest Text.isBlank], .skip),
    ([Pattern.char '/', Pattern.char '/', longest (· != '\n')], .skip),
    (Pattern.char '/' :: Pattern.char '*' :: Pattern.upToClose, .skip),
    ([Pattern.char '/', Pattern.char '*'], .refuse .unterminatedComment),
    ([Pattern.char '"', longest Piece.isStringChar, Pattern.char '"'], .token),
    ([Pattern.char '"'], .refuse .unterminatedString),
    ([one isSymbolChar], .token),
    ([one Piece.isWordChar, longest Piece.isWordChar], .word)]

def firstMatch? (table : List (Pattern × Handler)) (cs : List Char) : Option (Handler × List Char) :=
  table.findSome? fun (pattern, handler) => (pattern.matched? cs).map (handler, ·)

theorem Pattern.ne_nil_of_matched? {pattern : Pattern} {cs text : List Char}
    (first : ∃ passes parts, pattern = .one passes :: parts)
    (found : pattern.matched? cs = some text) : text ≠ [] := by
  obtain ⟨passes, parts, rfl⟩ := first
  cases cs with
  | nil =>
    rw [matched?] at found
    cases found
  | cons c cs =>
    rw [matched?] at found
    split at found
    · obtain ⟨later, _, rfl⟩ := Option.map_eq_some_iff.mp found
      exact List.cons_ne_nil _ _
    · cases found

theorem firstMatch?_ne_nil {cs text : List Char} {handler : Handler}
    (found : firstMatch? patterns cs = some (handler, text)) : text ≠ [] := by
  obtain ⟨⟨pattern, _⟩, member, same⟩ := List.exists_of_findSome?_eq_some found
  obtain ⟨_, matched, pair⟩ := Option.map_eq_some_iff.mp same
  cases pair
  refine Pattern.ne_nil_of_matched? ?_ matched
  simp only [patterns, List.mem_cons, Prod.mk.injEq, List.not_mem_nil, or_false] at member
  rcases member with ⟨rfl, _⟩ | ⟨rfl, _⟩ | ⟨rfl, _⟩ | ⟨rfl, _⟩ | ⟨rfl, _⟩ | ⟨rfl, _⟩ | ⟨rfl, _⟩ |
    ⟨rfl, _⟩ <;> exact ⟨_, _, rfl⟩

end Jack
