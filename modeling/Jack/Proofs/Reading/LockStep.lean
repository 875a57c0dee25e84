import Jack.Proofs.Reading.Basic

namespace Jack

def Fault.IsUnexpected (fault : Fault) : Prop :=
  ∃ expected found, fault.cause = .unexpectedToken expected found

theorem Cursor.not_isUnexpected_endOfInput (cursor : Cursor) : ¬ cursor.endOfInput.IsUnexpected := by
  rintro ⟨expected, found, same⟩
  cases same

theorem unexpected_ne_endOfInput (expected : String) (token : Token) :
    (unexpected expected token).cause ≠ .endOfInput := by
  intro same
  cases same

namespace ParseState

def extend (s : ParseState) (more : List Token) : ParseState :=
  { s with cursor := { s.cursor with ahead := s.cursor.ahead ++ more } }

theorem remaining_extend (s : ParseState) (more : List Token) :
    (s.extend more).remaining = s.remaining + more.length :=
  List.length_append

structure Onward (s s' : ParseState) : Prop where
  toList : s'.cursor.toList = s.cursor.toList
  remaining : s'.remaining ≤ s.remaining
  code : s.instructions <+: s'.instructions

namespace Onward

variable {s s₁ s₂ : ParseState}

theorem refl (s : ParseState) : s.Onward s :=
  ⟨rfl, Nat.le_refl _, List.prefix_rfl⟩

theorem trans (first : s.Onward s₁) (later : s₁.Onward s₂) : s.Onward s₂ :=
  ⟨later.toList.trans first.toList, Nat.le_trans later.remaining first.remaining,
    first.code.trans later.code⟩

theorem after {token : Token} {rest : List Token} (ahead : s.cursor.ahead = token :: rest) :
    s.Onward (Reading.after s token rest) := by
  refine ⟨?_, ?_, List.prefix_rfl⟩
  · simp [Reading.after, Cursor.toList, ahead]
  · simp [Reading.after, ParseState.remaining, Cursor.remaining, ahead]

end Onward

end ParseState

namespace Reading

open ParseState

variable {α β : Type} {m n : Nat} {s t : ParseState} {more : List Token}

/-- Reading went on, and what was not expected had been read. -/
def Proceeds (s : ParseState) : Reply α → Prop
  | .ok _ t => s.Onward t
  | .error fault t => s.Onward t ∧ (fault.IsUnexpected → t.remaining < s.remaining)

theorem Proceeds.since {reply : Reply α} (start : s.Onward t) (proceeds : Proceeds t reply) :
    Proceeds s reply := by
  cases reply with
  | ok value u => exact start.trans proceeds
  | error fault u =>
    refine ⟨start.trans proceeds.1, fun unexpected => ?_⟩
    exact Nat.lt_of_lt_of_le (proceeds.2 unexpected) start.remaining

/-- The replies to an input and to the same input with more after it. They agree unless the shorter
input ended. -/
inductive LockStep (more : List Token) : Reply α → Reply α → Prop where
  | done (value : α) (t : ParseState) : LockStep more (.ok value t) (.ok value (t.extend more))
  | failed {fault : Fault} (t : ParseState) (seen : fault.cause ≠ .endOfInput) :
    LockStep more (.error fault t) (.error fault (t.extend more))
  | ended {t : ParseState} {long : Reply α} (atEnd : t.cursor.ahead = [])
    (later : Proceeds (t.extend more) long) : LockStep more (.error t.cursor.endOfInput t) long

/-- The program reads in lock step, from states with fewer than `n` tokens to come. -/
structure Local (n : Nat) (program : Reading α) : Prop where
  proceeds : ∀ s, s.remaining < n → Proceeds s (program s)
  lockStep : ∀ s more, s.remaining + more.length < n →
    LockStep more (program s) (program (s.extend more))

namespace Local

variable {program : Reading α} {next : α → Reading β}

theorem mono (run : Local n program) (le : m ≤ n) : Local m program :=
  ⟨fun s fewer => run.proceeds s (Nat.lt_of_lt_of_le fewer le),
    fun s more fewer => run.lockStep s more (Nat.lt_of_lt_of_le fewer le)⟩

theorem zero (run : Reading α) : Local 0 run :=
  ⟨fun _ few => absurd few (Nat.not_lt_zero _), fun _ _ few => absurd few (Nat.not_lt_zero _)⟩

/-- The rest may be known for fewer tokens only, if enough of them were read before. -/
theorem andThen (first : Local n program) (rest : ∀ value, Local m (next value))
    (fewer : ∀ s value t, s.remaining < n → program s = .ok value t →
      t.remaining + n ≤ s.remaining + m) : Local n (program >>= next) := by
  have proceeds : ∀ s, s.remaining < n → Proceeds s ((program >>= next) s) := by
    intro s few
    have start := first.proceeds s few
    rw [bind_apply]
    cases same : program s with
    | ok value t =>
      rw [same] at start
      have less := fewer s value t few same
      exact ((rest value).proceeds t (by omega)).since start
    | error fault t =>
      rw [same] at start
      exact start
  refine ⟨proceeds, ?_⟩
  intro s more few
  have start := first.lockStep s more few
  rw [bind_apply, bind_apply]
  generalize short : program s = reply at start
  generalize long : program (s.extend more) = reply' at start
  cases start with
  | done value t =>
    have less := fewer s value t (by omega) short
    exact (rest value).lockStep t more (by omega)
  | failed t seen => exact .failed t seen
  | @ended t _ atEnd later =>
    -- The shorter input has ended: of the longer one it is only known that reading went on.
    refine .ended atEnd ?_
    cases reply' with
    | ok value u =>
      have less := fewer (s.extend more) value u (by rw [remaining_extend]; omega) long
      rw [remaining_extend] at less
      exact ((rest value).proceeds u (by omega)).since later
    | error fault u => exact later

theorem bind (first : Local n program) (rest : ∀ value, Local n (next value)) :
    Local n (program >>= next) := by
  apply first.andThen rest
  intro s value t few same
  have start := first.proceeds s few
  rw [same] at start
  exact Nat.add_le_add_right start.remaining n

theorem bindLess (first : Local (n + 1) program) (rest : ∀ value, Local n (next value))
    (fewer : ∀ s value t, program s = .ok value t → t.remaining < s.remaining) :
    Local (n + 1) (program >>= next) := by
  apply first.andThen rest
  intro s value t _ same
  have := fewer s value t same
  omega

theorem pure (value : α) : Local n (Pure.pure value : Reading α) :=
  ⟨fun s _ => .refl s, fun s _ _ => .done value s⟩

theorem needing {run : Reading α} (atEnd : ∀ s, s.cursor.ahead = [] → run s = .error s.cursor.endOfInput s)
    (further : ∀ s token rest, s.cursor.ahead = token :: rest → s.remaining < n → Proceeds s (run s))
    (both : ∀ s token rest more, s.cursor.ahead = token :: rest → s.remaining + more.length < n →
      LockStep more (run s) (run (s.extend more))) : Local n run := by
  have proceeds : ∀ s, s.remaining < n → Proceeds s (run s) := by
    intro s few
    cases ahead : s.cursor.ahead with
    | nil =>
      rw [atEnd s ahead]
      exact ⟨.refl s, fun unexpected => absurd unexpected s.cursor.not_isUnexpected_endOfInput⟩
    | cons token rest => exact further s token rest ahead few
  refine ⟨proceeds, ?_⟩
  intro s more few
  cases ahead : s.cursor.ahead with
  | nil =>
    rw [atEnd s ahead]
    exact .ended ahead (proceeds _ (by rw [remaining_extend]; omega))
  | cons token rest => exact both s token rest more ahead few

theorem look {next : Token → Reading β} (rest : ∀ token, Local n (next token)) :
    Local n (Reading.look >>= next) := by
  have seen : ∀ s token later, s.cursor.ahead = token :: later →
      (Reading.look >>= next) s = next token s := by
    intro s token later ahead
    rw [bind_apply, Reading.look]
    simp only [ahead]
  apply needing
  · intro s ahead
    rw [bind_apply, Reading.look]
    simp only [ahead]
  · intro s token later ahead few
    rw [seen s token later ahead]
    exact (rest token).proceeds s few
  · intro s token later more ahead few
    have longer : (s.extend more).cursor.ahead = token :: (later ++ more) := by
      simp [extend, ahead]
    rw [seen s token later ahead, seen _ token _ longer]
    exact (rest token).lockStep s more few

theorem accept {test : Token → Bool} {expected : String} {next : Token → Reading β}
    (rest : ∀ token, test token → Local n (next token)) :
    Local (n + 1) (Reading.accept test expected >>= next) := by
  have seen : ∀ s token later, s.cursor.ahead = token :: later →
      (Reading.accept test expected >>= next) s =
        if test token then next token (after s token later)
        else .error (unexpected expected token) (after s token later) := by
    intro s token later ahead
    rw [bind_apply, Reading.accept]
    simp only [ahead]
    by_cases passes : test token
    · simp only [if_pos passes]
    · simp only [if_neg passes]
  apply needing
  · intro s ahead
    rw [bind_apply, Reading.accept]
    simp only [ahead]
  · intro s token later ahead few
    have fewer := remaining_after ahead
    rw [seen s token later ahead]
    split
    · rename_i passes
      exact ((rest token passes).proceeds _ (by omega)).since (.after ahead)
    · exact ⟨.after ahead, fun _ => by omega⟩
  · intro s token later more ahead few
    have fewer := remaining_after ahead
    have longer : (s.extend more).cursor.ahead = token :: (later ++ more) := by
      simp [extend, ahead]
    rw [seen s token later ahead, seen _ token _ longer]
    split
    · rename_i passes
      exact (rest token passes).lockStep (after s token later) more (by omega)
    · exact .failed (after s token later) (unexpected_ne_endOfInput expected token)

theorem token (test : Token → Bool) (expected : String) :
    Local n (Reading.accept test expected) := by
  have run : Local (n + 1) (Reading.accept test expected >>= Pure.pure) :=
    accept fun token _ => pure token
  rw [bind_pure] at run
  exact run.mono (Nat.le_succ n)

theorem resolve (token : Token) : Local n (Reading.resolve token) := by
  refine ⟨?_, ?_⟩
  · intro s few
    rw [Reading.resolve]
    cases s.names.lookup? token.text with
    | some entry => exact .refl s
    | none =>
      refine ⟨.refl s, ?_⟩
      rintro ⟨expected, found, same⟩
      cases same
  · intro s more few
    have same : (s.extend more).names = s.names := rfl
    rw [Reading.resolve, Reading.resolve, same]
    cases s.names.lookup? token.text with
    | some entry => exact .done entry s
    | none =>
      apply LockStep.failed s
      intro same
      cases same

theorem ask {known : ParseState → α} (same : ∀ s more, known (extend s more) = known s) :
    Local n (Reading.ask known) := by
  refine ⟨fun s _ => .refl s, ?_⟩
  intro s more _
  rw [Reading.ask, Reading.ask, same]
  exact .done (known s) s

theorem change {step : ParseState → ParseState} (onward : ∀ s, Onward s (step s))
    (same : ∀ s more, step (extend s more) = (step s).extend more) : Local n (Reading.change step) := by
  refine ⟨fun s _ => onward s, ?_⟩
  intro s more _
  rw [Reading.change, Reading.change, same]
  exact .done () (step s)

theorem emit (code : List Instruction) : Local n (Reading.emit code) := by
  apply change
  · intro s
    refine ⟨rfl, Nat.le_refl _, ?_⟩
    rw [instructions_emit]
    exact List.prefix_append _ _
  · exact fun _ _ => rfl

end Local

end Reading

end Jack
