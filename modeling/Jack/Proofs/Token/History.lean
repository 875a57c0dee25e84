import Jack.Proofs.Session
import Jack.Token.Stream

namespace Jack

structure StreamEvent where
  operation : StreamOperation
  answer : StreamAnswer
deriving DecidableEq, Repr

def StreamEvent.ofStep {σ : Type} (step : StreamOperation → σ → StreamAnswer × σ)
    (operation : StreamOperation) (state : σ) : StreamEvent × σ :=
  (⟨operation, (step operation state).1⟩, (step operation state).2)

def StreamEvent.moves : StreamEvent → Bool
  | ⟨.advance, .token _⟩ => true
  | ⟨.giveBack, .done⟩ => true
  | _ => false

-- Histories have the newest event first.

/-- The tokens that were read and not given back, the newest one first. -/
def consumed : List StreamEvent → List Token
  | [] => []
  | ⟨.advance, .token token⟩ :: earlier => token :: consumed earlier
  | ⟨.giveBack, .done⟩ :: earlier => (consumed earlier).tail
  | _ :: earlier => consumed earlier

def endOfConsumed (history : List StreamEvent) : Nat :=
  match consumed history with
  | [] => 0
  | token :: _ => token.stop

/-- The token was the last one that was read, and none was given back since. -/
def Returnable (history : List StreamEvent) (token : Token) : Prop :=
  ∃ since before, history = since ++ ⟨.advance, .token token⟩ :: before ∧
    ∀ event ∈ since, event.moves = false

section

variable {history : List StreamEvent} {event : StreamEvent} {token other : Token}

theorem returnable_iff :
    Returnable history token ↔ history.find? StreamEvent.moves = some ⟨.advance, .token token⟩ := by
  simp [List.find?_eq_some_iff_append, StreamEvent.moves, Returnable]

theorem not_returnable_nil : ¬ Returnable [] token := by
  simp [returnable_iff]

theorem consumed_still (still : event.moves = false) : consumed (event :: history) = consumed history := by
  obtain ⟨operation, answer⟩ := event
  cases operation <;> cases answer <;> first | rfl | cases still

theorem returnable_still (still : event.moves = false) :
    Returnable (event :: history) token ↔ Returnable history token := by
  rw [returnable_iff, returnable_iff, List.find?_cons_of_neg (by simp [still])]

theorem returnable_advance :
    Returnable (⟨.advance, .token other⟩ :: history) token ↔ other = token := by
  rw [returnable_iff, List.find?_cons_of_pos rfl]
  simp

theorem not_returnable_giveBack : ¬ Returnable (⟨.giveBack, .done⟩ :: history) token := by
  rw [returnable_iff, List.find?_cons_of_pos rfl]
  simp

end

structure Cursor.Follows (tokens : List Token) (history : List StreamEvent) (cursor : Cursor) :
    Prop where
  toList : cursor.toList = tokens
  behind : cursor.behind = consumed history
  current : ∀ token, cursor.current? = some token ↔ Returnable history token

namespace Cursor.Follows

variable {tokens : List Token} {history : List StreamEvent} {cursor : Cursor}

theorem start (tokens : List Token) : Follows tokens [] (.ofList tokens) where
  toList := rfl
  behind := rfl
  current := by simp [ofList, current?, not_returnable_nil]

theorem offset (follows : Follows tokens history cursor) : cursor.offset = endOfConsumed history := by
  rw [Cursor.offset, follows.behind]
  rfl

theorem still {event : StreamEvent} (follows : Follows tokens history cursor)
    (still : event.moves = false) : Follows tokens (event :: history) cursor where
  toList := follows.toList
  behind := by rw [consumed_still still, follows.behind]
  current := by
    intro token
    rw [returnable_still still, follows.current]

theorem read {token : Token} {behind ahead : List Token} {returned : Bool}
    (follows : Follows tokens history ⟨behind, token :: ahead, returned⟩) :
    Follows tokens (⟨.advance, .token token⟩ :: history) ⟨token :: behind, ahead, false⟩ where
  toList := by
    rw [← follows.toList]
    simp [Cursor.toList]
  behind := by rw [consumed, ← follows.behind]
  current := by simp [current?, returnable_advance]

theorem givenBack {token : Token} {behind ahead : List Token}
    (follows : Follows tokens history ⟨token :: behind, ahead, false⟩) :
    Follows tokens (⟨.giveBack, .done⟩ :: history) ⟨behind, token :: ahead, true⟩ where
  toList := by
    rw [← follows.toList]
    simp [Cursor.toList]
  behind := by rw [consumed, ← follows.behind, List.tail_cons]
  current := by simp [current?, not_returnable_giveBack]

theorem step (follows : Follows tokens history cursor) (operation : StreamOperation) :
    Follows tokens (⟨operation, (cursor.step operation).1⟩ :: history) (cursor.step operation).2 := by
  obtain ⟨behind, ahead, returned⟩ := cursor
  cases operation with
  | peek =>
    cases ahead with
    | nil => exact follows.still rfl
    | cons token ahead => exact follows.still rfl
  | advance =>
    cases ahead with
    | nil => exact follows.still rfl
    | cons token ahead => exact follows.read
  | giveBack =>
    cases behind with
    | nil => exact follows.still rfl
    | cons token behind =>
      cases returned with
      | false => exact follows.givenBack
      | true => exact follows.still rfl

theorem run (tokens : List Token) (operations : List StreamOperation) :
    let session := Session.run (StreamEvent.ofStep Cursor.step) (.ofList tokens) operations
    Follows tokens session.history session.state := by
  refine Session.run_induction (motive := fun session => Follows tokens session.history session.state)
    (start tokens) ?_ operations
  intro session operation follows
  exact follows.step operation

end Cursor.Follows

end Jack
