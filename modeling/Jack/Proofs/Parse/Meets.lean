import Jack.Parse.Step

namespace Jack

namespace Step

variable {α β : Type} {m n : Nat}

/-- `good` holds of the value and the state of a step that succeeds, `bad` of the fault and the state
of one that fails. -/
def Meets (step : Step α n) (good : α → ParseState → Prop) (bad : Fault → ParseState → Prop) :
    Prop :=
  match step.reply with
  | .ok value s => good value s
  | .error fault s => bad fault s

variable {good mid : α → ParseState → Prop} {goal : β → ParseState → Prop}
  {bad worse : Fault → ParseState → Prop}

theorem meets_done {value : α} {s : ParseState} {fits : s.remaining < n} (holds : good value s) :
    (done value s fits).Meets good bad := holds

theorem meets_fail {fault : Fault} {s : ParseState} (holds : bad fault s) :
    (fail fault s : Step α n).Meets good bad := holds

theorem Meets.weaken {step : Step α m} {le : m ≤ n} (meets : step.Meets good bad) :
    (step.weaken le).Meets good bad := meets

theorem Meets.mono {step : Step α n} (meets : step.Meets mid bad)
    (better : ∀ value s, mid value s → good value s)
    (failing : ∀ fault s, bad fault s → worse fault s) : step.Meets good worse := by
  obtain ⟨reply, fits⟩ := step
  cases reply with
  | ok value s => exact better value s meets
  | error fault s => exact failing fault s meets

theorem Meets.andThen {step : Step α m}
    {next : (value : α) → (s : ParseState) → s.remaining < m → Step β n}
    (first : step.Meets mid bad)
    (rest : ∀ value s fits, mid value s → (next value s fits).Meets goal bad) :
    (step.andThen next).Meets goal bad := by
  obtain ⟨reply, fits⟩ := step
  cases reply with
  | ok value s => exact rest value s _ first
  | error fault s => exact first

theorem Meets.of_ok {step : Step α n} {value : α} {s : ParseState} (meets : step.Meets good bad)
    (same : step.reply = .ok value s) : good value s := by
  rw [Meets, same] at meets
  exact meets

theorem Meets.of_error {step : Step α n} {fault : Fault} {s : ParseState}
    (meets : step.Meets good bad) (same : step.reply = .error fault s) : bad fault s := by
  rw [Meets, same] at meets
  exact meets

end Step

namespace ParseState

open Step

variable {α : Type} {n : Nat} {good : α → ParseState → Prop} {bad : Fault → ParseState → Prop}

theorem meets_attempt {κ : Type} {s : ParseState} {result : Except Fault κ} {next : κ → Step α n}
    (holds : ∀ value, result = .ok value → (next value).Meets good bad)
    (failing : ∀ fault, result = .error fault → bad fault s) :
    (s.attempt result next).Meets good bad := by
  cases result with
  | ok value => exact holds value rfl
  | error fault => exact failing fault rfl

theorem meets_sight {s : ParseState} {next : Token → Step α n}
    (holds : ∀ token rest, s.cursor.ahead = token :: rest → (next token).Meets good bad)
    (failing : s.cursor.ahead = [] → bad s.cursor.endOfInput s) :
    (s.sight next).Meets good bad := by
  apply meets_attempt
  · intro token seen
    unfold Cursor.peek at seen
    split at seen
    · cases seen
    · rename_i other rest ahead
      cases seen
      exact holds _ _ ahead
  · intro fault seen
    unfold Cursor.peek at seen
    split at seen
    · rename_i ahead
      cases seen
      exact failing ahead
    · cases seen

theorem meets_advance {s : ParseState} {good : Token → ParseState → Prop}
    (holds : ∀ token rest, s.cursor.ahead = token :: rest →
      good token { s with cursor := ⟨token :: s.cursor.behind, rest, false⟩ })
    (failing : s.cursor.ahead = [] → bad s.cursor.endOfInput s) :
    s.advance.Meets good bad := by
  unfold advance
  split
  · rename_i token cursor read
    unfold Cursor.advance at read
    split at read
    · cases read
    · rename_i other rest ahead
      cases read
      exact meets_done (holds _ _ ahead)
  · rename_i fault read
    unfold Cursor.advance at read
    split at read
    · rename_i ahead
      cases read
      exact meets_fail (failing ahead)
    · cases read

theorem meets_giveBack {s : ParseState} {good : Unit → ParseState → Prop} {token : Token}
    {behind : List Token} (fresh : s.cursor.returned = false)
    (read : s.cursor.behind = token :: behind)
    (holds : good () { s with cursor := ⟨behind, token :: s.cursor.ahead, true⟩ }) :
    s.giveBack.Meets good bad := by
  have given : s.cursor.giveBack = .ok ⟨behind, token :: s.cursor.ahead, true⟩ := by
    unfold Cursor.giveBack
    rw [read, fresh]
  unfold giveBack
  split
  · rename_i cursor same
    rw [given] at same
    cases same
    exact meets_done holds
  · rename_i fault same
    rw [given] at same
    cases same

end ParseState

end Jack
