import Jack.Proofs.Token.Context

namespace Jack

theorem Separates.append {gap later after : List Char} (first : Separates gap (later ++ after))
    (rest : Separates later after) : Separates (gap ++ later) after := by
  generalize whole : later ++ after = following at first
  induction first with
  | nothing => exact rest
  | blank isBlank _ ih => exact .blank isBlank (ih whole)
  | @lineComment body gap _ oneLine ends _ ih =>
    subst whole
    rw [List.cons_append, List.cons_append, List.append_assoc]
    exact .lineComment oneLine (by rwa [List.append_assoc]) (ih rfl)
  | @blockComment body gap _ first _ ih =>
    rw [List.cons_append, List.cons_append, List.append_assoc]
    exact .blockComment first (ih whole)

theorem Munches.separated {offset : Nat} {gap cs : List Char} {tokens : List Token}
    (separates : Separates gap cs) (munches : Munches (offset + Text.byteWidth gap) cs tokens) :
    Munches offset (gap ++ cs) tokens := by
  cases munches with
  | none last => exact .none (Separates.append (by rwa [List.append_nil]) last)
  | next between start stop ends rest =>
    rw [← List.append_assoc]
    refine .next (separates.append between) ?_ stop ends rest
    rw [start, Text.byteWidth_append, Nat.add_assoc]

theorem Munches.token {offset : Nat} {after : List Char} {token : Token} {tokens : List Token}
    (start : token.start = offset)
    (stop : token.stop = token.start + Text.byteWidth token.text.toList)
    (ends : token.EndsBefore after) (rest : Munches token.stop after tokens) :
    Munches offset (token.text.toList ++ after) (token :: tokens) := by
  have munches : Munches offset ([] ++ (token.text.toList ++ after)) (token :: tokens) :=
    .next .nothing start stop ends rest
  exact munches

theorem Token.ofText?_eq_some {text : String} {start stop : Nat} {token : Token}
    (classified : ofText? text start stop = some token) :
    token.text = text ∧ token.start = start ∧ token.stop = stop := by
  unfold ofText? at classified
  split at classified
  · cases classified
    exact ⟨rfl, rfl, rfl⟩
  · cases classified

theorem Token.of_lexeme {offset stop : Nat} {c : Char} {cs text rest : List Char} {token : Token}
    (piece : Piece.next c cs = (.lexeme text, rest))
    (classified : ofText? (String.ofList text) offset stop = some token) :
    text = token.text.toList ∧ c :: cs = text ++ rest ∧ token.start = offset ∧
      token.stop = stop ∧ token.EndsBefore rest := by
  obtain ⟨spelled, start, stop⟩ := ofText?_eq_some classified
  obtain ⟨whole, ends⟩ := (Piece.begins_of_next piece).endsBefore
  have chars : token.text.toList = text := by rw [spelled, String.toList_ofList]
  exact ⟨chars.symm, whole, start, stop, ends token chars⟩

theorem munches_of_tokensFrom {offset : Nat} {found result : List Token} {cs : List Char}
    (split : tokensFrom offset found cs = .ok result) :
    ∃ tokens, result = found.reverse ++ tokens ∧ Munches offset cs tokens := by
  fun_induction tokensFrom offset found cs with
  | case1 offset found =>
    cases split
    exact ⟨[], by simp, .none .nothing⟩
  | case2 offset found c cs width rest piece ih =>
    obtain ⟨tokens, rfl, munches⟩ := ih split
    obtain ⟨gap, whole, rfl, separates⟩ := (Piece.begins_of_next piece).separates
    exact ⟨tokens, rfl, whole ▸ munches.separated separates⟩
  | case3 offset found c cs text rest piece stop token classified ih =>
    obtain ⟨tokens, rfl, munches⟩ := ih split
    obtain ⟨rfl, whole, start, stopped, ends⟩ := Token.of_lexeme piece classified
    have width : token.stop = token.start + Text.byteWidth token.text.toList := by
      rw [stopped, start]
    rw [← stopped] at munches
    refine ⟨token :: tokens, by simp, ?_⟩
    rw [whole]
    exact munches.token start width ends
  | case4 => cases split
  | case5 => cases split
  | case6 => cases split

theorem tokensFrom_nil (offset : Nat) (found : List Token) :
    tokensFrom offset found [] = .ok found.reverse := by
  unfold tokensFrom
  rfl

theorem tokensFrom_gap {offset width : Nat} {found : List Token} {c : Char} {cs rest : List Char}
    (piece : Piece.next c cs = (.gap width, rest)) :
    tokensFrom offset found (c :: cs) = tokensFrom (offset + width) found rest := by
  rw [tokensFrom.eq_def]
  dsimp only
  split <;> simp_all

theorem tokensFrom_lexeme {offset : Nat} {found : List Token} {c : Char} {cs text rest : List Char}
    (piece : Piece.next c cs = (.lexeme text, rest)) :
    tokensFrom offset found (c :: cs) =
      match Token.ofText? (String.ofList text) offset (offset + Text.byteWidth text) with
      | some token => tokensFrom (offset + Text.byteWidth text) (token :: found) rest
      | none => .error ⟨Cause.ofText text, offset⟩ := by
  rw [tokensFrom.eq_def]
  dsimp only
  split <;> rename_i begins <;> rw [piece] at begins <;> cases begins
  rfl

theorem tokensFrom_openComment {offset : Nat} {found : List Token} {c : Char} {cs rest : List Char}
    (piece : Piece.next c cs = (.openComment, rest)) :
    tokensFrom offset found (c :: cs) = .error ⟨.unterminatedComment, offset⟩ := by
  rw [tokensFrom.eq_def]
  dsimp only
  split <;> simp_all

theorem tokensFrom_openString {offset : Nat} {found : List Token} {c : Char} {cs rest : List Char}
    (piece : Piece.next c cs = (.openString, rest)) :
    tokensFrom offset found (c :: cs) = .error ⟨.unterminatedString, offset⟩ := by
  rw [tokensFrom.eq_def]
  dsimp only
  split <;> simp_all

theorem tokensFrom_blank {offset : Nat} {found : List Token} {c : Char} (cs : List Char)
    (isBlank : Text.isBlank c) :
    tokensFrom offset found (c :: cs) = tokensFrom (offset + c.utf8Size) found cs := by
  rw [tokensFrom_gap (Piece.next_blank isBlank), Text.byteWidth_cons, ← Nat.add_assoc]
  -- A run of blanks is one piece, of which the first character is taken off.
  cases cs with
  | nil => rfl
  | cons d cs =>
    by_cases further : Text.isBlank d
    · rw [tokensFrom_gap (Piece.next_blank further), List.takeWhile_cons_of_pos further,
        List.dropWhile_cons_of_pos further]
    · rw [List.takeWhile_cons_of_neg further, List.dropWhile_cons_of_neg further]
      rfl

theorem Separates.tokensFrom {gap after : List Char} (separates : Separates gap after)
    (offset : Nat) (found : List Token) :
    tokensFrom offset found (gap ++ after) =
      tokensFrom (offset + Text.byteWidth gap) found after := by
  induction separates generalizing offset with
  | nothing => rfl
  | blank isBlank _ ih =>
    rw [List.cons_append, tokensFrom_blank _ isBlank, ih, Text.byteWidth_cons, Nat.add_assoc]
  | @lineComment body gap after oneLine ends _ ih =>
    have inside : ∀ c ∈ body, (c != '\n') = true := by
      rintro c member
      simp only [bne_iff_ne]
      rintro rfl
      exact oneLine member
    have ended : ∀ c ∈ (gap ++ after).head?, ¬ (c != '\n') = true := by
      intro c member
      simpa using ends c member
    have piece : Piece.next '/' ('/' :: (body ++ (gap ++ after))) = (.gap _, _) :=
      Piece.next_lineComment
    rw [takeWhile_of_ends inside ended, dropWhile_of_ends inside ended] at piece
    rw [List.cons_append, List.cons_append, List.append_assoc, tokensFrom_gap piece, ih]
    congr 1
    have slash : Char.utf8Size '/' = 1 := rfl
    simp only [Text.byteWidth_cons, Text.byteWidth_append, slash]
    omega
  | @blockComment body gap after first _ ih =>
    have piece : Piece.next '/' ('*' :: (body ++ '*' :: '/' :: (gap ++ after))) = _ :=
      Piece.next_blockComment
    rw [Piece.closeComment?_append first] at piece
    rw [List.cons_append, List.cons_append, List.append_assoc, List.cons_append, List.cons_append,
      tokensFrom_gap piece, ih]
    congr 1
    have slash : Char.utf8Size '/' = 1 := rfl
    have star : Char.utf8Size '*' = 1 := rfl
    simp only [Text.byteWidth_cons, Text.byteWidth_append, slash, star]
    omega

theorem Token.ofText?_text (token : Token) :
    ofText? token.text token.start token.stop = some token := by
  unfold ofText?
  split
  · rename_i kind classified
    have same : kind = token.kind := Option.some.inj (classified.symm.trans token.classified)
    subst same
    rfl
  · rename_i unclassified
    rw [token.classified] at unclassified
    cases unclassified

theorem tokensFrom_token {token : Token} {after : List Char} (found : List Token)
    (stop : token.stop = token.start + Text.byteWidth token.text.toList)
    (ends : token.EndsBefore after) :
    tokensFrom token.start found (token.text.toList ++ after) =
      tokensFrom token.stop (token :: found) after := by
  cases spelled : token.text.toList with
  | nil => exact absurd spelled token.chars_ne_nil
  | cons c cs =>
    have piece := Piece.next_token spelled ends
    have same : Token.ofText? (String.ofList (c :: cs)) token.start
        (token.start + Text.byteWidth (c :: cs)) = some token := by
      rw [← spelled, String.ofList_toList, ← stop, token.ofText?_text]
    rw [List.cons_append, tokensFrom_lexeme piece, same, stop, spelled]

theorem Munches.tokensFrom_append {offset : Nat} {cs later : List Char} {tokens : List Token}
    (munches : Munches offset cs tokens) (newline : ∀ c ∈ later.head?, c = '\n')
    (found : List Token) :
    Jack.tokensFrom offset found (cs ++ later) =
      Jack.tokensFrom (offset + Text.byteWidth cs) (tokens.reverse ++ found) later := by
  induction munches generalizing found with
  | @none offset gap separates =>
    have apart : Separates gap later :=
      separates.exchange fun c member => .inr (newline c member)
    rw [apart.tokensFrom]
    rfl
  | @next offset gap after token tokens separates start stop ends _ ih =>
    have apart : Separates gap (token.text.toList ++ (after ++ later)) := by
      rw [← List.append_assoc]
      exact separates.exchange fun c member => mem_head?_of_append newline member
    have ended : token.EndsBefore (after ++ later) := by
      refine ends.exchange fun c member => (mem_head?_of_append newline member).imp_right ?_
      rintro rfl
      decide
    have width : token.stop + Text.byteWidth after =
        offset + Text.byteWidth (gap ++ (token.text.toList ++ after)) := by
      simp only [Text.byteWidth_append]
      omega
    rw [List.append_assoc, List.append_assoc, apart.tokensFrom, ← start,
      tokensFrom_token found stop ended, ih, width, List.reverse_cons, List.append_assoc,
      List.singleton_append]

theorem Munches.tokensFrom {offset : Nat} {cs : List Char} {tokens : List Token}
    (munches : Munches offset cs tokens) (found : List Token) :
    tokensFrom offset found cs = .ok (found.reverse ++ tokens) := by
  have newline : ∀ c ∈ ([] : List Char).head?, c = '\n' := nofun
  have all := munches.tokensFrom_append newline found
  rw [List.append_nil] at all
  rw [all, tokensFrom_nil, List.reverse_append, List.reverse_reverse]

theorem tokenize_eq_ok_iff {source : String} {tokens : List Token} :
    tokenize source = .ok tokens ↔ Munches 0 source.toList tokens := by
  constructor
  · intro split
    obtain ⟨found, rfl, munches⟩ := munches_of_tokensFrom split
    exact munches
  · intro munches
    exact munches.tokensFrom []

theorem exists_tokens {α : Type} {source : String} {f : Token → α} {values : List α}
    (found : (tokenize source).toOption.map (·.map f) = some values) :
    ∃ tokens, tokenize source = .ok tokens ∧ tokens.map f = values := by
  cases split : tokenize source with
  | error fault =>
    rw [split] at found
    cases found
  | ok tokens =>
    rw [split] at found
    exact ⟨tokens, rfl, Option.some.inj found⟩

def lexicalFault? (source : String) : Option Fault :=
  match tokenize source with
  | .ok _ => none
  | .error fault => some fault

theorem tokenize_of_lexicalFault? {source : String} {fault : Fault}
    (found : lexicalFault? source = some fault) : tokenize source = .error fault := by
  unfold lexicalFault? at found
  split at found
  · cases found
  · rename_i failed
    rw [failed, Option.some.inj found]

end Jack
