import Jack.Proofs.Token.History

namespace Jack

theorem reverse_take_succ {tokens : List Token} {index : Nat} (inside : index < tokens.length) :
    (tokens.take (index + 1)).reverse = tokens[index] :: (tokens.take index).reverse := by
  rw [List.take_succ_eq_append_getElem inside, List.reverse_append]
  rfl

namespace TokenStream

def ahead (stream : TokenStream) : List Token :=
  stream.tokens.drop stream.position

def toCursor (stream : TokenStream) : Cursor :=
  ⟨(stream.tokens.take stream.position).reverse, stream.ahead, stream.returned⟩

section

variable (stream : TokenStream)

theorem previous?_eq_head? : stream.previous? = stream.toCursor.behind.head? := by
  obtain ⟨tokens, position, returned, inside⟩ := stream
  cases position with
  | zero => rfl
  | succ index =>
    have isToken : index < tokens.length := inside
    dsimp only [toCursor, previous?]
    rw [reverse_take_succ isToken, List.head?_cons, List.getElem?_eq_getElem isToken]

theorem current?_toCursor : stream.toCursor.current? = stream.current? := by
  rw [current?, previous?_eq_head?]
  rfl

theorem offset_toCursor : stream.toCursor.offset = stream.offset := by
  rw [offset, previous?_eq_head?, Cursor.offset]
  cases stream.toCursor.behind <;> rfl

theorem endOfInput_toCursor : stream.toCursor.endOfInput = stream.endOfInput := by
  rw [endOfInput, Cursor.endOfInput, offset_toCursor]

theorem hasMore_toCursor : stream.toCursor.hasMore = stream.hasMore := by
  rw [Bool.eq_iff_iff]
  simp [Cursor.hasMore, hasMore, toCursor, ahead]

theorem peek_cases :
    (∃ token later, stream.peek = .ok token ∧ stream.ahead = token :: later) ∨
    (stream.peek = .error stream.endOfInput ∧ stream.ahead = []) := by
  have next : stream.tokens[stream.position]? = stream.ahead.head? := by
    rw [ahead, List.head?_drop]
  rw [peek, next]
  cases stream.ahead with
  | nil => exact .inr ⟨rfl, rfl⟩
  | cons token later => exact .inl ⟨token, later, rfl, rfl⟩

theorem peek_toCursor : stream.toCursor.peek = stream.peek := by
  rcases stream.peek_cases with ⟨token, later, read, ahead⟩ | ⟨failed, ahead⟩
  · simp only [read, Cursor.peek, toCursor, ahead]
  · rw [failed, Cursor.peek, endOfInput_toCursor]
    simp only [toCursor, ahead]

theorem advance_cases :
    (∃ token next, stream.advance = .ok token next ∧ stream.ahead = token :: next.ahead ∧
      next.toCursor = ⟨token :: stream.toCursor.behind, next.ahead, false⟩) ∨
    (stream.advance = .error stream.endOfInput stream ∧ stream.ahead = []) := by
  by_cases inside : stream.position < stream.tokens.length
  · left
    refine ⟨stream.tokens[stream.position], ⟨stream.tokens, stream.position + 1, false, inside⟩, ?_, ?_, ?_⟩
    · rw [advance, dif_pos inside]
    · exact List.drop_eq_getElem_cons inside
    · dsimp only [toCursor]
      rw [reverse_take_succ inside]
  · right
    refine ⟨?_, List.drop_eq_nil_of_le (Nat.le_of_not_lt inside)⟩
    rw [advance, dif_neg inside]

theorem giveBack_cases :
    (∃ token behind next, stream.giveBack = .ok () next ∧
      stream.toCursor = ⟨token :: behind, stream.ahead, false⟩ ∧
      next.toCursor = ⟨behind, token :: stream.ahead, true⟩) ∨
    (stream.giveBack = .error stream.endOfInput stream ∧ stream.current? = none) := by
  obtain ⟨tokens, position, returned, inside⟩ := stream
  cases position with
  | zero =>
    right
    cases returned <;> exact ⟨rfl, rfl⟩
  | succ index =>
    cases returned with
    | true => exact .inr ⟨rfl, rfl⟩
    | false =>
      left
      have isToken : index < tokens.length := inside
      refine ⟨tokens[index], (tokens.take index).reverse, ⟨tokens, index, true, Nat.le_of_lt isToken⟩,
        ?_, ?_, ?_⟩
      · simp [giveBack]
      · dsimp only [toCursor]
        rw [reverse_take_succ isToken]
      · dsimp only [toCursor, ahead]
        rw [List.drop_eq_getElem_cons isToken]

theorem step_toCursor (operation : StreamOperation) :
    stream.toCursor.step operation = ((stream.step operation).1, (stream.step operation).2.toCursor) := by
  cases operation with
  | peek =>
    rw [Cursor.step, peek_toCursor, step]
    cases stream.peek <;> rfl
  | advance =>
    rcases stream.advance_cases with ⟨token, next, read, ahead, same⟩ | ⟨failed, ahead⟩
    · have readBehind : stream.toCursor.advance = .ok (token, next.toCursor) := by
        rw [same, Cursor.advance]
        simp only [toCursor, ahead]
      rw [Cursor.step, step, read, readBehind]
    · have failedBehind : stream.toCursor.advance = .error stream.endOfInput := by
        rw [Cursor.advance, endOfInput_toCursor]
        simp only [toCursor, ahead]
      rw [Cursor.step, step, failed, failedBehind]
  | giveBack =>
    rcases stream.giveBack_cases with ⟨token, behind, next, given, before, after⟩ | ⟨failed, absent⟩
    · have givenBehind : stream.toCursor.giveBack = .ok next.toCursor := by
        rw [before, after]
        rfl
      rw [Cursor.step, step, given, givenBehind]
    · have failedBehind : stream.toCursor.giveBack = .error stream.endOfInput := by
        rw [← current?_toCursor] at absent
        rw [← endOfInput_toCursor]
        generalize stream.toCursor = cursor at absent ⊢
        obtain ⟨behind, ahead, returned⟩ := cursor
        cases behind <;> cases returned <;> first | rfl | cases absent
      rw [Cursor.step, step, failed, failedBehind]

end

/-- What a stream does next, from what was done with it before. -/
structure Follows (tokens : List Token) (history : List StreamEvent) (stream : TokenStream) : Prop where
  list : stream.tokens = tokens
  consumed_ahead : (consumed history).reverse ++ stream.ahead = tokens
  hasMore : stream.hasMore ↔ stream.ahead ≠ []
  offset : stream.offset = endOfConsumed history
  peek_ok : ∀ token, stream.peek = .ok token ↔ stream.ahead.head? = some token
  peek_error : ∀ fault, stream.peek = .error fault ↔
    stream.ahead = [] ∧ fault = ⟨.endOfInput, endOfConsumed history⟩
  advance_ok : ∀ token, (∃ next, stream.advance = .ok token next) ↔ stream.ahead.head? = some token
  advance_next : ∀ token next, stream.advance = .ok token next → stream.ahead = token :: next.ahead
  advance_error : ∀ fault next, stream.advance = .error fault next ↔
    stream.ahead = [] ∧ fault = ⟨.endOfInput, endOfConsumed history⟩ ∧ next = stream
  current : ∀ token, stream.current? = some token ↔ Returnable history token
  giveBack_ok : (∃ next, stream.giveBack = .ok () next) ↔ ∃ token, Returnable history token
  giveBack_next : ∀ next, stream.giveBack = .ok () next →
    ∃ token, Returnable history token ∧ next.peek = .ok token ∧ next.ahead = token :: stream.ahead
  giveBack_error : ∀ fault next, stream.giveBack = .error fault next ↔
    (¬ ∃ token, Returnable history token) ∧ fault = ⟨.endOfInput, endOfConsumed history⟩ ∧ next = stream

namespace Follows

variable {tokens : List Token} {history : List StreamEvent} {stream : TokenStream}

theorem offset_eq (follows : stream.toCursor.Follows tokens history) :
    stream.offset = endOfConsumed history := by
  rw [← offset_toCursor, follows.offset]

theorem endOfInput_eq (follows : stream.toCursor.Follows tokens history) :
    stream.endOfInput = ⟨.endOfInput, endOfConsumed history⟩ := by
  rw [endOfInput, offset_eq follows]

theorem of_giveBack_cases (follows : stream.toCursor.Follows tokens history) :
    (∃ token next, stream.giveBack = .ok () next ∧ next.peek = .ok token ∧
      next.ahead = token :: stream.ahead ∧ ∀ other, Returnable history other ↔ token = other) ∨
    (stream.giveBack = .error ⟨.endOfInput, endOfConsumed history⟩ stream ∧
      ∀ other, ¬ Returnable history other) := by
  rcases stream.giveBack_cases with ⟨token, behind, next, given, before, after⟩ | ⟨failed, absent⟩
  · left
    refine ⟨token, next, given, ?_, ?_, ?_⟩
    · rw [← peek_toCursor, after]
      rfl
    · exact congrArg Cursor.ahead after
    · intro other
      rw [← follows.current, before]
      simp [Cursor.current?]
  · right
    rw [endOfInput_eq follows] at failed
    refine ⟨failed, ?_⟩
    intro other returnable
    rw [← follows.current, current?_toCursor, absent] at returnable
    cases returnable

theorem of_toCursor (follows : stream.toCursor.Follows tokens history) :
    stream.Follows tokens history where
  list := by
    rw [← follows.toList]
    simp [Cursor.toList, toCursor, ahead]
  consumed_ahead := by
    rw [← follows.behind]
    exact follows.toList
  hasMore := by
    rw [← hasMore_toCursor]
    simp [Cursor.hasMore, toCursor]
  offset := offset_eq follows
  peek_ok := by
    rcases stream.peek_cases with ⟨token, later, read, ahead⟩ | ⟨failed, ahead⟩
    · simp [read, ahead]
    · simp [failed, ahead]
  peek_error := by
    rcases stream.peek_cases with ⟨token, later, read, ahead⟩ | ⟨failed, ahead⟩
    · simp [read, ahead]
    · simp [failed, ahead, endOfInput_eq follows, eq_comm]
  advance_ok := by
    rcases stream.advance_cases with ⟨token, next, read, ahead, _⟩ | ⟨failed, ahead⟩
    · simp [read, ahead]
    · simp [failed, ahead]
  advance_next := by
    rcases stream.advance_cases with ⟨token, next, read, ahead, _⟩ | ⟨failed, ahead⟩
    · simp [read, ahead]
    · simp [failed]
  advance_error := by
    rcases stream.advance_cases with ⟨token, next, read, ahead, _⟩ | ⟨failed, ahead⟩
    · simp [read, ahead]
    · simp [failed, ahead, endOfInput_eq follows, eq_comm]
  current := by
    rw [← current?_toCursor]
    exact follows.current
  giveBack_ok := by
    rcases of_giveBack_cases follows with ⟨token, next, given, _, _, returnable⟩ | ⟨failed, unreturnable⟩
    · simp [given, returnable]
    · simp [failed, unreturnable]
  giveBack_next := by
    rcases of_giveBack_cases follows with
      ⟨token, next, given, peeked, ahead, returnable⟩ | ⟨failed, unreturnable⟩
    · simp [given, returnable, peeked, ahead]
    · simp [failed]
  giveBack_error := by
    rcases of_giveBack_cases follows with ⟨token, next, given, _, _, returnable⟩ | ⟨failed, unreturnable⟩
    · simp [given, returnable]
    · simp [failed, unreturnable, eq_comm]

end Follows

theorem run_toCursor (tokens : List Token) (operations : List StreamOperation) :
    Session.run (StreamEvent.ofStep Cursor.step) (.ofList tokens) operations =
      (Session.run (StreamEvent.ofStep step) (.ofList tokens) operations).map toCursor := by
  have alike : ∀ operation stream, True → StreamEvent.ofStep Cursor.step operation (toCursor stream) =
      ((StreamEvent.ofStep step operation stream).1,
        (StreamEvent.ofStep step operation stream).2.toCursor) := by
    intro operation stream _
    simp only [StreamEvent.ofStep, step_toCursor]
  exact Session.run_map (P := fun _ => True) (ofList tokens) trivial (fun _ _ _ => trivial) alike
    operations

end TokenStream

/-- A token stream is a list cut in two, from which the last token that was read can be given back if
none was given back since. -/
theorem stream_follows_history (tokens : List Token) (operations : List StreamOperation) :
    let session := Session.run (StreamEvent.ofStep TokenStream.step) (.ofList tokens) operations
    Session.run (StreamEvent.ofStep Cursor.step) (.ofList tokens) operations =
        session.map TokenStream.toCursor ∧
      session.state.Follows tokens session.history := by
  have follows := Cursor.Follows.run tokens operations
  rw [TokenStream.run_toCursor] at follows
  exact ⟨TokenStream.run_toCursor tokens operations, .of_toCursor follows⟩

end Jack
