import Jack.Text.Slice
import Jack.Token.Pattern

namespace Jack

/-- A source that is read up to a position, and the tokens found there, newest first. -/
structure Scanner where
  source : String
  position : Nat
  found : List Token

/-- What a round of the scanner comes to. No pattern may match, and a position may be outside of the
source or inside a character of it. -/
inductive Round where
  | goesOn (next : Scanner)
  | refused (fault : Fault)
  | unmatched (fault : Fault)
  | outside

def Round.ofHandled : Except Fault Scanner → Round
  | .ok next => .goesOn next
  | .error fault => .refused fault

namespace Scanner

def start (source : String) : Scanner :=
  ⟨source, 0, []⟩

def atEnd (s : Scanner) : Bool :=
  s.source.utf8ByteSize ≤ s.position

def remainder? (s : Scanner) : Option (List Char) :=
  (Text.cutAfter? s.position s.source.toList).map Prod.snd

def advance (s : Scanner) (matched : List Char) : Scanner :=
  { s with position := s.position + Text.byteWidth matched }

def refuse (s : Scanner) (cause : Cause) : Except Fault Scanner :=
  .error ⟨cause, s.position⟩

def token (s : Scanner) (matched : List Char) : Except Fault Scanner :=
  let stop := s.position + Text.byteWidth matched
  match Token.ofText? (String.ofList matched) s.position stop with
  | some token => .ok ({ s with found := token :: s.found }.advance matched)
  | none => s.refuse (.unrecognisedToken (String.ofList matched))

def word (s : Scanner) (matched : List Char) : Except Fault Scanner :=
  if (classify (String.ofList matched)).isNone && matched.all Char.isDigit then
    s.refuse (.integerOutOfRange (String.ofList matched))
  else s.token matched

def handle (s : Scanner) (matched : List Char) : Handler → Except Fault Scanner
  | .skip => .ok (s.advance matched)
  | .token => s.token matched
  | .word => s.word matched
  | .refuse cause => s.refuse cause

def round (s : Scanner) : Round :=
  match s.remainder? with
  | none => .outside
  | some rest =>
    match firstMatch? patterns rest with
    | some (handler, matched) => .ofHandled (s.handle matched handler)
    | none => .unmatched ⟨.unrecognisedToken (String.ofList rest.head?.toList), s.position⟩

theorem advances_of_token {s next : Scanner} {matched : List Char}
    (done : s.token matched = .ok next) :
    next.source = s.source ∧ next.position = s.position + Text.byteWidth matched := by
  unfold token at done
  dsimp only at done
  split at done
  · cases done
    exact ⟨rfl, rfl⟩
  · cases done

theorem advances_of_handle {s next : Scanner} {matched : List Char} {handler : Handler}
    (done : s.handle matched handler = .ok next) :
    next.source = s.source ∧ next.position = s.position + Text.byteWidth matched := by
  cases handler with
  | skip =>
    cases done
    exact ⟨rfl, rfl⟩
  | token => exact advances_of_token done
  | word =>
    rw [handle, word] at done
    split at done
    · cases done
    · exact advances_of_token done
  | refuse cause => cases done

theorem advances_of_round {s next : Scanner} (done : s.round = .goesOn next) :
    next.source = s.source ∧ s.position < next.position := by
  unfold round at done
  split at done
  · cases done
  · split at done
    · rename_i found
      cases handled : s.handle _ _ with
      | error fault =>
        rw [handled] at done
        cases done
      | ok following =>
        rw [handled] at done
        cases done
        obtain ⟨source, position⟩ := advances_of_handle handled
        obtain ⟨c, cs, rfl⟩ := List.exists_cons_of_ne_nil (firstMatch?_ne_nil found)
        have positive := c.utf8Size_pos
        rw [Text.byteWidth_cons] at position
        exact ⟨source, by omega⟩
    · cases done

/-- The tokens of the rest of the source, or the fault that ends the loop. There is no result where
the text that remains cannot be taken. -/
def run? (s : Scanner) : Option (Except Fault (List Token)) :=
  if _ : s.atEnd then some (.ok s.found.reverse)
  else
    match _ : s.round with
    | .goesOn next => run? next
    | .refused fault => some (.error fault)
    | .unmatched fault => some (.error fault)
    | .outside => none
termination_by s.source.utf8ByteSize - s.position
decreasing_by
  rename_i ended done
  obtain ⟨source, position⟩ := advances_of_round done
  simp only [atEnd, decide_eq_true_eq] at ended
  rw [source]
  omega

end Scanner

end Jack
