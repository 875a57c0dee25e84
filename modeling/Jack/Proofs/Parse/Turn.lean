import Jack.Parse.Turn

namespace Jack

variable {σ α β κ ε : Type} {m m' n n' : Nat}

def Turn.follow (run : σ → ParseState ε → Reply α ε) : Reply (Turn σ α) ε → Reply α ε
  | .ok (.again soFar) t => run soFar t
  | .ok (.stop result) t => .ok result t
  | .error fault t => .error fault t

namespace Step

/-- The second step is the first one with the turns after it. -/
def FollowedBy (run : σ → ParseState ε → Reply α ε) (turn : Step (Turn σ α) m ε)
    (whole : Step α n ε) : Prop :=
  whole.reply = Turn.follow run turn.reply

/-- There are fewer than `bound` tokens left for another turn. -/
def Advances (bound : Nat) (turn : Step (Turn σ α) m ε) : Prop :=
  ∀ soFar t, turn.reply = .ok (.again soFar) t → t.remaining < bound

theorem andThen_congr {step : Step β m ε}
    {next : (value : β) → (s : ParseState ε) → s.remaining < m → Step α n ε}
    {next' : (value : β) → (s : ParseState ε) → s.remaining < m → Step α n' ε}
    (rest : ∀ value s fits, (next value s fits).reply = (next' value s fits).reply) :
    (step.andThen next).reply = (step.andThen next').reply := by
  obtain ⟨reply, fits⟩ := step
  cases reply with
  | ok value s => exact rest value s (fits value s rfl)
  | error fault s => rfl

theorem andThen_eq {step : Step β m ε} {value : β} {s : ParseState ε}
    (next : (value : β) → (s : ParseState ε) → s.remaining < m → Step α n ε)
    (done : step.reply = .ok value s) :
    (step.andThen next).reply = (next value s (step.property value s done)).reply := by
  obtain ⟨reply, fits⟩ := step
  change reply = _ at done
  subst done
  rfl

section

variable {run : σ → ParseState ε → Reply α ε}

theorem followedBy_stop {result : α} {s : ParseState ε} {fits : s.remaining < m}
    {fits' : s.remaining < n} :
    FollowedBy run (done (.stop result) s fits) (done result s fits') := rfl

theorem followedBy_fail {fault : Fault} {s : ParseState ε} :
    FollowedBy run (fail fault s : Step (Turn σ α) m ε) (fail fault s : Step α n ε) := rfl

theorem FollowedBy.weaken {turn : Step (Turn σ α) m ε} {whole : Step α n ε} {le : n ≤ n'}
    (follows : FollowedBy run turn whole) : FollowedBy run turn (whole.weaken le) :=
  follows

theorem FollowedBy.andThen {step : Step β m ε} {step' : Step β m' ε}
    {next : (value : β) → (s : ParseState ε) → s.remaining < m → Step (Turn σ α) n ε}
    {next' : (value : β) → (s : ParseState ε) → s.remaining < m' → Step α n' ε}
    (same : step'.reply = step.reply)
    (rest : ∀ value s fits fits', FollowedBy run (next value s fits) (next' value s fits')) :
    FollowedBy run (step.andThen next) (step'.andThen next') := by
  obtain ⟨reply, fits⟩ := step
  obtain ⟨reply', fits'⟩ := step'
  change reply' = reply at same
  subst same
  cases reply' with
  | ok value s => exact rest value s (fits value s rfl) (fits' value s rfl)
  | error fault s => rfl

theorem FollowedBy.sight {s : ParseState ε} {next : Token → Step (Turn σ α) m ε}
    {next' : Token → Step α n ε}
    (rest : ∀ token later, s.cursor.ahead = token :: later →
      FollowedBy run (next token) (next' token)) : FollowedBy run (s.sight next) (s.sight next') := by
  unfold ParseState.sight ParseState.attempt Cursor.peek
  cases ahead : s.cursor.ahead with
  | nil => rfl
  | cons token later => exact rest token later ahead

end

variable {bound : Nat}

theorem advances_again {soFar : σ} {s : ParseState ε} {fits : s.remaining < m}
    (fewer : s.remaining < bound) :
    (done (.again soFar) s fits : Step (Turn σ α) m ε).Advances bound := by
  intro other t same
  cases same
  exact fewer

theorem advances_stop {result : α} {s : ParseState ε} {fits : s.remaining < m} :
    (done (.stop result) s fits : Step (Turn σ α) m ε).Advances bound := by
  intro other t same
  cases same

theorem advances_fail {fault : Fault} {s : ParseState ε} :
    (fail fault s : Step (Turn σ α) m ε).Advances bound := by
  intro other t same
  cases same

theorem Advances.andThen {step : Step β m ε}
    {next : (value : β) → (s : ParseState ε) → s.remaining < m → Step (Turn σ α) n ε}
    (rest : ∀ value s fits, (next value s fits).Advances bound) :
    (step.andThen next).Advances bound := by
  obtain ⟨reply, fits⟩ := step
  cases reply with
  | ok value s => exact rest value s (fits value s rfl)
  | error fault s => exact advances_fail

theorem Advances.sight {s : ParseState ε} {next : Token → Step (Turn σ α) m ε}
    (rest : ∀ token, (next token).Advances bound) : (s.sight next).Advances bound := by
  unfold ParseState.sight ParseState.attempt
  cases s.cursor.peek with
  | ok token => exact rest token
  | error fault => exact advances_fail

end Step

namespace ParseState

open Step

theorem sight_eq {s : ParseState ε} {token : Token} {later : List Token} (next : Token → Step α n ε)
    (ahead : s.cursor.ahead = token :: later) : (s.sight next).reply = (next token).reply := by
  unfold sight attempt Cursor.peek
  rw [ahead]

theorem selected_eq {select : LexemeKind → Option κ} (expected : String)
    {item : (s : ParseState ε) → κ → Step α s.remaining ε} {s : ParseState ε} {next : Token}
    {later : List Token} {choice : κ} (ahead : s.cursor.ahead = next :: later)
    (found : select next.kind = some choice) :
    (s.selected select expected item).reply = (item s choice).reply := by
  rw [selected, sight_eq _ ahead, found]

theorem many_followedBy {select : LexemeKind → Option κ} (expected : String)
    (item : (s : ParseState ε) → κ → Step α s.remaining ε) (s : ParseState ε) (found : List α) :
    FollowedBy (fun found t => (t.many select item found).reply)
      (s.itemTurn select (selected select expected item) found) (s.many select item found) := by
  rw [many, itemTurn]
  apply FollowedBy.sight
  intro next later ahead
  cases choice? : select next.kind with
  | none => exact followedBy_stop
  | some choice =>
    apply FollowedBy.andThen (selected_eq expected ahead choice?).symm
    intro value s₁ h₁ _
    rfl

theorem itemTurn_advances (select : LexemeKind → Option κ)
    (item : (s : ParseState ε) → Step α s.remaining ε) (s : ParseState ε) (found : List α) :
    (s.itemTurn select item found).Advances s.remaining := by
  apply Advances.sight
  intro next
  cases select next.kind with
  | none => exact advances_stop
  | some choice => exact .andThen fun value s₁ h₁ => advances_again h₁

theorem newVariables_followedBy (s : ParseState ε) (type : String) (kind : VariableKind)
    (found : List (Name × Token)) :
    FollowedBy (fun found t => (t.newVariables type kind found).reply) (s.nameTurn type kind found)
      (s.newVariables type kind found) := by
  rw [newVariables, nameTurn]
  apply FollowedBy.andThen rfl
  intro name s₁ h₁ _
  apply FollowedBy.andThen rfl
  intro separator s₂ h₂ _
  by_cases comma : separator.isSymbol ','
  · rw [if_pos comma, if_pos comma]
    rfl
  · rw [if_neg comma, if_neg comma]
    by_cases semicolon : separator.isSymbol ';'
    · rw [if_pos semicolon, if_pos semicolon]
      exact followedBy_stop
    · rw [if_neg semicolon, if_neg semicolon]
      exact followedBy_fail

theorem nameTurn_advances (s : ParseState ε) (type : String) (kind : VariableKind)
    (found : List (Name × Token)) : (s.nameTurn type kind found).Advances s.remaining := by
  refine .andThen fun name s₁ h₁ => .andThen fun separator s₂ h₂ => ?_
  split
  · exact advances_again (by omega)
  · split
    · exact advances_stop
    · exact advances_fail

theorem moreParameters_followedBy (s : ParseState ε) (found : List Parameter) :
    FollowedBy (fun found t => (t.moreParameters found).reply) (s.parameterTurn found)
      (s.moreParameters found) := by
  rw [moreParameters, parameterTurn]
  apply FollowedBy.andThen rfl
  intro type s₁ h₁ _
  apply FollowedBy.andThen rfl
  intro name s₂ h₂ _
  apply FollowedBy.sight
  intro next later ahead
  by_cases comma : next.isSymbol ','
  · rw [if_pos comma, if_pos comma]
    apply FollowedBy.andThen rfl
    intro comma s₃ h₃ _
    rfl
  · rw [if_neg comma, if_neg comma]
    exact followedBy_stop

theorem parameterTurn_advances (s : ParseState ε) (found : List Parameter) :
    (s.parameterTurn found).Advances s.remaining := by
  refine .andThen fun type s₁ h₁ => .andThen fun name s₂ h₂ => .sight fun next => ?_
  split
  · exact .andThen fun comma s₃ h₃ => advances_again (by omega)
  · exact advances_stop

section

variable [Emitter ε]

theorem moreStatements_followedBy (s : ParseState ε) (found : List Statement) :
    FollowedBy (fun found t => (t.moreStatements found).reply) (s.statementTurn found)
      (s.moreStatements found) := by
  rw [moreStatements, statementTurn]
  apply FollowedBy.sight
  intro next later ahead
  cases StatementKind.ofKind? next.kind with
  | none => exact followedBy_stop
  | some kind =>
    apply FollowedBy.andThen rfl
    intro statement s₁ h₁ _
    rfl

theorem statementTurn_advances (s : ParseState ε) (found : List Statement) :
    (s.statementTurn found).Advances s.remaining := by
  apply Advances.sight
  intro next
  split
  · exact .andThen fun statement s₁ h₁ => advances_again h₁
  · exact advances_stop

theorem operations_followedBy (s : ParseState ε) (left : Expression) :
    FollowedBy (fun left t => (t.operations left).reply) (s.operationTurn left)
      (s.operations left) := by
  rw [operations, operationTurn]
  apply FollowedBy.sight
  intro next later ahead
  cases BinaryOperator.ofKind? next.kind with
  | none => exact followedBy_stop
  | some operator =>
    apply FollowedBy.andThen rfl
    intro token s₁ h₁ _
    apply FollowedBy.andThen rfl
    intro right s₂ h₂ _
    rfl

theorem operationTurn_advances (s : ParseState ε) (left : Expression) :
    (s.operationTurn left).Advances s.remaining := by
  apply Advances.sight
  intro next
  split
  · exact .andThen fun token s₁ h₁ => .andThen fun right s₂ h₂ =>
      advances_again (Nat.lt_trans h₂ h₁)
  · exact advances_stop

theorem moreArguments_followedBy (s : ParseState ε) (before? : Option (Arguments × Token)) :
    FollowedBy (Loop.run .arguments) (s.argumentTurn before?)
      (s.expression.andThen fun value s₁ h₁ =>
        (s₁.moreArguments (.join before? value)).weaken h₁ : Step Arguments s.remaining ε) := by
  rw [argumentTurn]
  apply FollowedBy.andThen rfl
  intro value s₁ h₁ _
  rw [moreArguments]
  refine .weaken (.sight ?_)
  intro next later ahead
  by_cases comma : next.isSymbol ','
  · rw [if_pos comma, if_pos comma]
    apply FollowedBy.andThen rfl
    intro comma s₂ h₂ _
    exact andThen_congr fun other s₃ h₃ => rfl
  · rw [if_neg comma, if_neg comma]
    exact followedBy_stop

theorem arguments_eq_run {s : ParseState ε} {next : Token} {later : List Token}
    (ahead : s.cursor.ahead = next :: later) (more : ¬ next.isSymbol ')') :
    s.arguments.reply = Loop.run .arguments none s := by
  rw [arguments, sight_eq _ ahead, if_neg more]
  exact andThen_congr fun value s₁ h₁ => rfl

theorem argumentTurn_advances (s : ParseState ε) (before? : Option (Arguments × Token)) :
    (s.argumentTurn before?).Advances s.remaining := by
  refine .andThen fun value s₁ h₁ => .sight fun next => ?_
  split
  · exact .andThen fun comma s₂ h₂ => advances_again (by omega)
  · exact advances_stop

end

end ParseState

namespace Loop

open Step ParseState

variable [Emitter ε]

/-- The readers take the turns of a loop one after the other. -/
theorem run_eq (loop : Loop σ α) (soFar : σ) (s : ParseState ε) :
    loop.run soFar s = Turn.follow loop.run (loop.turn soFar s) := by
  cases loop with
  | classVariables => exact many_followedBy _ _ s soFar
  | subroutines => exact many_followedBy _ _ s soFar
  | localVariables => exact many_followedBy _ _ s soFar
  | names type kind => exact newVariables_followedBy s type kind soFar
  | parameters => exact moreParameters_followedBy s soFar
  | statements => exact moreStatements_followedBy s soFar
  | operations => exact operations_followedBy s soFar
  | arguments => exact moreArguments_followedBy s soFar

theorem turn_advances (loop : Loop σ α) (soFar next : σ) (s t : ParseState ε)
    (again : loop.turn soFar s = .ok (.again next) t) : t.remaining < s.remaining := by
  revert next t
  cases loop with
  | classVariables => exact fun next t => itemTurn_advances _ _ s soFar next t
  | subroutines => exact fun next t => itemTurn_advances _ _ s soFar next t
  | localVariables => exact fun next t => itemTurn_advances _ _ s soFar next t
  | names type kind => exact fun next t => nameTurn_advances s type kind soFar next t
  | parameters => exact fun next t => parameterTurn_advances s soFar next t
  | statements => exact fun next t => statementTurn_advances s soFar next t
  | operations => exact fun next t => operationTurn_advances s soFar next t
  | arguments => exact fun next t => argumentTurn_advances s soFar next t

/-- The loop comes to a reply turn by turn, and every turn but the last one reads a token. -/
inductive Iterates (loop : Loop σ α) : σ → ParseState ε → Reply α ε → Prop where
  | stop {soFar : σ} {s t : ParseState ε} {result : α}
    (last : loop.turn soFar s = .ok (.stop result) t) : Iterates loop soFar s (.ok result t)
  | fail {soFar : σ} {s t : ParseState ε} {fault : Fault}
    (failed : loop.turn soFar s = .error fault t) : Iterates loop soFar s (.error fault t)
  | again {soFar next : σ} {s t : ParseState ε} {reply : Reply α ε}
    (goesOn : loop.turn soFar s = .ok (.again next) t) (consumed : t.remaining < s.remaining)
    (rest : Iterates loop next t reply) : Iterates loop soFar s reply

theorem iterates (loop : Loop σ α) (soFar : σ) (s : ParseState ε) :
    loop.Iterates soFar s (loop.run soFar s) := by
  rw [run_eq]
  cases done : loop.turn soFar s with
  | error fault t => exact .fail done
  | ok result t =>
    cases result with
    | stop result => exact .stop done
    | again next =>
      have consumed := loop.turn_advances soFar next s t done
      exact .again done consumed (iterates loop next t)
termination_by s.remaining
decreasing_by exact consumed

end Loop

end Jack
