import Jack.Proofs.Token.Split

namespace Jack

def Token.shift (width : Nat) (token : Token) : Token :=
  { token with start := token.start + width, stop := token.stop + width }

def Fault.shift (width : Nat) (fault : Fault) : Fault :=
  { fault with offset := fault.offset + width }

theorem Token.ofText?_shift (text : String) (start stop width : Nat) :
    ofText? text (start + width) (stop + width) = (ofText? text start stop).map (·.shift width) := by
  unfold ofText?
  split <;> rfl

/-- Splitting from a later offset on, with other tokens already found, gives the same tokens further
back, or the same fault. -/
theorem tokensFrom_shift (offset width : Nat) (found before : List Token) (cs : List Char) :
    tokensFrom (offset + width) (found.map (·.shift width) ++ before) cs =
      match tokensFrom offset found cs with
      | .ok tokens => .ok (before.reverse ++ tokens.map (·.shift width))
      | .error fault => .error (fault.shift width) := by
  fun_induction tokensFrom offset found cs with
  | case1 offset found => simp [tokensFrom_nil]
  | case2 offset found c cs skipped rest piece ih =>
    rw [← ih, tokensFrom_gap piece, Nat.add_right_comm]
  | case3 offset found c cs text rest piece stop token classified ih =>
    have moved : Token.ofText? (String.ofList text) (offset + width)
        (offset + width + Text.byteWidth text) = some (token.shift width) := by
      rw [Nat.add_right_comm, Token.ofText?_shift, classified, Option.map_some]
    rw [← ih, tokensFrom_lexeme piece, moved, Nat.add_right_comm]
    rfl
  | case4 offset found c cs text rest piece stop unclassified =>
    have moved : Token.ofText? (String.ofList text) (offset + width)
        (offset + width + Text.byteWidth text) = none := by
      rw [Nat.add_right_comm, Token.ofText?_shift, unclassified, Option.map_none]
    rw [tokensFrom_lexeme piece, moved]
    rfl
  | case5 offset found c cs rest piece => exact tokensFrom_openComment piece
  | case6 offset found c cs rest piece => exact tokensFrom_openString piece

theorem tokenize_append_line_break {a b : String} {tokens : List Token}
    (accepted : tokenize a = .ok tokens) :
    tokenize (a ++ "\n" ++ b) =
      match tokenize b with
      | .ok later => .ok (tokens ++ later.map (·.shift (a.utf8ByteSize + 1)))
      | .error fault => .error (fault.shift (a.utf8ByteSize + 1)) := by
  have munches := tokenize_eq_ok_iff.mp accepted
  have newline : ∀ c ∈ ('\n' :: b.toList).head?, c = '\n' := by
    rintro c ⟨⟩
    rfl
  have width : 0 + Text.byteWidth a.toList + Char.utf8Size '\n' = 0 + (a.utf8ByteSize + 1) := by
    rw [Text.byteWidth_toList, Nat.add_assoc]
    rfl
  have whole : (a ++ "\n" ++ b).toList = a.toList ++ '\n' :: b.toList := by
    simp
  rw [tokenize, whole, munches.tokensFrom_append newline, tokensFrom_blank _ (by decide), width]
  have shifted := tokensFrom_shift 0 (a.utf8ByteSize + 1) [] tokens.reverse b.toList
  rw [List.reverse_reverse] at shifted
  rw [List.append_nil]
  exact shifted

def openEnded : String :=
  "x+/**/y // \"1"

theorem line_break_after_openEnded : ∃ tokens later,
    tokenize openEnded = .ok tokens ∧ tokenize "\u00a0y;" = .ok later ∧
    tokens.map (·.text) = ["x", "+", "y"] ∧
    later.map (fun token => (token.text, token.start, token.stop)) = [("y", 2, 3), (";", 3, 4)] ∧
    tokenize (openEnded ++ "\n" ++ "\u00a0y;") = .ok (tokens ++ later.map (·.shift 14)) ∧
    tokenize (openEnded ++ "\n" ++ "*/ /*") = .error ⟨.unterminatedComment, 17⟩ := by
  have first : (tokenize openEnded).toOption.map (·.map (·.text)) = some ["x", "+", "y"] := by
    decide +kernel
  have second : (tokenize "\u00a0y;").toOption.map
      (·.map fun token => (token.text, token.start, token.stop)) =
        some [("y", 2, 3), (";", 3, 4)] := by
    decide +kernel
  have third : tokenize "*/ /*" = .error ⟨.unterminatedComment, 3⟩ :=
    tokenize_of_lexicalFault? (by decide +kernel)
  have width : openEnded.utf8ByteSize = 13 := by
    decide +kernel
  obtain ⟨tokens, accepted, texts⟩ := exists_tokens first
  obtain ⟨later, continued, places⟩ := exists_tokens second
  have joined := tokenize_append_line_break (b := "\u00a0y;") accepted
  rw [continued, width] at joined
  have refused := tokenize_append_line_break (b := "*/ /*") accepted
  rw [third, width] at refused
  exact ⟨tokens, later, accepted, continued, texts, places, joined, refused⟩

end Jack
