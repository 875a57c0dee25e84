import Jack.Proofs.Token.Beginning

namespace Jack

theorem Text.utf8ByteSize_ofList (cs : List Char) : (String.ofList cs).utf8ByteSize = byteWidth cs := by
  induction cs with
  | nil => rfl
  | cons c cs ih =>
    have apart : String.ofList (c :: cs) = String.singleton c ++ String.ofList cs := by
      rw [String.singleton_eq_ofList, ← String.ofList_append]
      rfl
    rw [apart, String.utf8ByteSize_append, String.utf8ByteSize_singleton, ih, byteWidth_cons]

theorem Text.byteWidth_toList (text : String) : byteWidth text.toList = text.utf8ByteSize := by
  rw [← utf8ByteSize_ofList, String.ofList_toList]

variable {after later : List Char}

theorem Token.endsBefore_nil (token : Token) : token.EndsBefore [] := by
  unfold EndsBefore
  cases token.kind <;> simp

theorem Token.EndsBefore.exchange {token : Token} (ends : token.EndsBefore after)
    (heads : ∀ c ∈ later.head?, c ∈ after.head? ∨ Text.isBlank c) : token.EndsBefore later := by
  revert ends
  unfold EndsBefore
  cases token.kind with
  | string contents => exact id
  | symbol mark =>
    intro ends slash c member
    rcases heads c member with known | isBlank
    · exact ends slash c known
    · constructor
      · rintro rfl
        cases isBlank
      · rintro rfl
        cases isBlank
  | _ =>
    intro ends c member
    rcases heads c member with known | isBlank
    · exact ends c known
    · exact .inl isBlank

theorem Token.endsBefore_blank (token : Token) (blank : ∀ c ∈ after.head?, Text.isBlank c) :
    token.EndsBefore after :=
  token.endsBefore_nil.exchange fun c member => .inr (blank c member)

theorem Separates.exchange {gap : List Char} (separates : Separates gap after)
    (heads : ∀ c ∈ later.head?, c ∈ after.head? ∨ c = '\n') : Separates gap later := by
  induction separates with
  | nothing => exact .nothing
  | blank isBlank _ ih => exact .blank isBlank (ih heads)
  | @lineComment body gap after oneLine ends _ ih =>
    refine .lineComment oneLine ?_ (ih heads)
    intro c member
    cases gap with
    | nil =>
      rcases heads c member with known | newline
      · exact ends c known
      · exact newline
    | cons d gap => exact ends c member
  | blockComment first _ ih => exact .blockComment first (ih heads)

/-- A text that is cut short begins as before, unless nothing is left. -/
theorem mem_head?_append {c : Char} (member : c ∈ after.head?) (cut : List Char) :
    c ∈ (after ++ cut).head? := by
  cases after with
  | nil => cases member
  | cons d after => exact member

/-- A text that is continued on a new line begins as before, or with the newline. -/
theorem mem_head?_of_append {c : Char} (newline : ∀ c ∈ later.head?, c = '\n')
    (member : c ∈ (after ++ later).head?) : c ∈ after.head? ∨ c = '\n' := by
  cases after with
  | nil => exact .inr (newline c member)
  | cons d after => exact .inl member

end Jack
