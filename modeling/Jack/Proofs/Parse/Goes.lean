import Jack.Proofs.Parse.Meets
import Jack.Proofs.Program.Scope

namespace Jack

namespace ParseState

open Step

variable {α β : Type} {m n : Nat}

structure Left (s : ParseState) (rest : List Token) (s' : ParseState) : Prop where
  ahead : s'.cursor.ahead = rest
  names : s'.names = s.names

def Unknown (names : VariableTable) (used : List Token) (fault : Fault) : Prop :=
  ∃ token ∈ used, ¬names.Knows token.text ∧ fault = ⟨.undefinedSymbol token.text, token.start⟩

/-- The step leaves the tokens of `rest`, or fails at a token that names no variable. -/
def Goes (s : ParseState) (used rest : List Token) (step : Step α n) : Prop :=
  step.Meets (fun _ s' => s.Left rest s') (fun fault _ => Unknown s.names used fault)

variable {s t : ParseState} {used rest ends : List Token} {token : Token}

section

variable {bad : Fault → ParseState → Prop}

theorem advance_left (ahead : s.cursor.ahead = token :: rest) :
    s.advance.Meets
      (fun found t => found = token ∧ s.Left rest t ∧ t.cursor.behind = token :: s.cursor.behind ∧
        t.cursor.returned = false) bad := by
  apply meets_advance
  · intro found others same
    rw [ahead] at same
    cases same
    exact ⟨rfl, ⟨rfl, rfl⟩, rfl, rfl⟩
  · intro ended
    rw [ahead] at ended
    cases ended

private theorem tested_left {test : Token → Bool} {fault : Token → Fault}
    (ahead : s.cursor.ahead = token :: rest) (passes : test token) :
    (s.advance.andThen fun token s₁ h₁ =>
      if test token then .done token s₁ h₁ else .fail (fault token) s₁ :
        Step Token s.remaining).Meets (fun found t => found = token ∧ s.Left rest t) bad := by
  apply Meets.andThen (advance_left ahead)
  intro found t fits seen
  obtain ⟨rfl, left, _⟩ := seen
  rw [if_pos passes]
  exact ⟨rfl, left⟩

theorem expectSymbol_left {mark : Char} (ahead : s.cursor.ahead = token :: rest)
    (isSymbol : token.isSymbol mark) :
    (s.expectSymbol mark).Meets (fun found t => found = token ∧ s.Left rest t) bad :=
  tested_left ahead isSymbol

theorem expectKeyword_left {word : Keyword} (ahead : s.cursor.ahead = token :: rest)
    (isKeyword : token.isKeyword word) :
    (s.expectKeyword word).Meets (fun found t => found = token ∧ s.Left rest t) bad :=
  tested_left ahead isKeyword

theorem expectIdentifier_left (ahead : s.cursor.ahead = token :: rest)
    (isIdentifier : token.isIdentifier) :
    s.expectIdentifier.Meets (fun found t => found = token ∧ s.Left rest t) bad :=
  tested_left ahead isIdentifier

theorem sight_left {next : Token → Step α n} {good : α → ParseState → Prop}
    (ahead : s.cursor.ahead = token :: rest) (later : (next token).Meets good bad) :
    (s.sight next).Meets good bad := by
  apply meets_sight
  · intro found others same
    rw [ahead] at same
    cases same
    exact later
  · intro ended
    rw [ahead] at ended
    cases ended

end

namespace Goes

theorem done {value : α} {fits : t.remaining < n} (left : s.Left rest t) :
    s.Goes used rest (Step.done value t fits) := left

theorem weaken {step : Step α m} {le : m ≤ n} (goes : s.Goes used rest step) :
    s.Goes used rest (step.weaken le) := goes

theorem sub {fewer : List Token} {step : Step α n} (goes : s.Goes fewer rest step)
    (le : fewer ⊆ used) : s.Goes used rest step := by
  apply Meets.mono goes
  · exact fun _ _ left => left
  · intro fault _ seen
    obtain ⟨token, member, unknown, same⟩ := seen
    exact ⟨token, le member, unknown, same⟩

theorem since {middle : List Token} {step : Step α n} (start : s.Left middle t)
    (goes : t.Goes used rest step) : s.Goes used rest step := by
  have names := start.names
  apply Meets.mono goes
  · exact fun _ _ left => ⟨left.ahead, left.names.trans names⟩
  · intro fault _ unknown
    rwa [names] at unknown

theorem emit {code : List Instruction} {step : Step α n} (goes : (s.emit code).Goes used rest step) :
    s.Goes used rest step := by
  have start : s.Left s.cursor.ahead (s.emit code) := ⟨rfl, rfl⟩
  exact since start goes

theorem useLabel {step : Step α n} (goes : s.useLabel.Goes used rest step) :
    s.Goes used rest step := by
  have start : s.Left s.cursor.ahead s.useLabel := ⟨rfl, rfl⟩
  exact since start goes

theorem andThen {middle : List Token} {step : Step α m}
    {next : (value : α) → (s : ParseState) → s.remaining < m → Step β n}
    (first : s.Goes used middle step)
    (later : ∀ value t fits, s.Left middle t → t.Goes used rest (next value t fits)) :
    s.Goes used rest (step.andThen next) := by
  apply Meets.andThen first
  intro value t fits left
  exact since left (later value t fits left)

theorem advance {next : (token : Token) → (t : ParseState) → t.remaining < s.remaining → Step β n}
    (ahead : s.cursor.ahead = token :: rest)
    (later : ∀ t fits, s.Left rest t → t.cursor.behind = token :: s.cursor.behind →
      t.cursor.returned = false → t.Goes used ends (next token t fits)) :
    s.Goes used ends (s.advance.andThen next) := by
  apply Meets.andThen (advance_left ahead)
  intro found t fits seen
  obtain ⟨rfl, left, behind, fresh⟩ := seen
  exact since left (later t fits left behind fresh)

theorem giveBack {behind : List Token}
    {next : Unit → (t : ParseState) → t.remaining < s.remaining + 2 → Step β n}
    (fresh : s.cursor.returned = false) (read : s.cursor.behind = token :: behind)
    (later : ∀ t fits, s.Left (token :: s.cursor.ahead) t → t.Goes used ends (next () t fits)) :
    s.Goes used ends (s.giveBack.andThen next) := by
  have given : s.giveBack.Meets (fun _ t => s.Left (token :: s.cursor.ahead) t)
      (fun fault _ => Unknown s.names used fault) := meets_giveBack fresh read ⟨rfl, rfl⟩
  apply Meets.andThen given
  intro _ t fits left
  exact since left (later t fits left)

private theorem known {step : Step Token m} {middle : List Token}
    {next : (token : Token) → (t : ParseState) → t.remaining < m → Step β n}
    (read : step.Meets (fun found t => found = token ∧ s.Left middle t)
      (fun fault _ => Unknown s.names used fault))
    (later : ∀ t fits, s.Left middle t → t.Goes used ends (next token t fits)) :
    s.Goes used ends (step.andThen next) := by
  apply Meets.andThen read
  intro found t fits seen
  obtain ⟨rfl, left⟩ := seen
  exact since left (later t fits left)

theorem symbol {mark : Char}
    {next : (token : Token) → (t : ParseState) → t.remaining < s.remaining → Step β n}
    (ahead : s.cursor.ahead = token :: rest) (isSymbol : token.isSymbol mark)
    (later : ∀ t fits, s.Left rest t → t.Goes used ends (next token t fits)) :
    s.Goes used ends ((s.expectSymbol mark).andThen next) :=
  Goes.known (expectSymbol_left ahead isSymbol) later

theorem keyword {word : Keyword}
    {next : (token : Token) → (t : ParseState) → t.remaining < s.remaining → Step β n}
    (ahead : s.cursor.ahead = token :: rest) (isKeyword : token.isKeyword word)
    (later : ∀ t fits, s.Left rest t → t.Goes used ends (next token t fits)) :
    s.Goes used ends ((s.expectKeyword word).andThen next) :=
  Goes.known (expectKeyword_left ahead isKeyword) later

theorem identifier
    {next : (token : Token) → (t : ParseState) → t.remaining < s.remaining → Step β n}
    (ahead : s.cursor.ahead = token :: rest) (isIdentifier : token.isIdentifier)
    (later : ∀ t fits, s.Left rest t → t.Goes used ends (next token t fits)) :
    s.Goes used ends (s.expectIdentifier.andThen next) :=
  Goes.known (expectIdentifier_left ahead isIdentifier) later

theorem sight {next : Token → Step β n} (ahead : s.cursor.ahead = token :: rest)
    (later : s.Goes used ends (next token)) : s.Goes used ends (s.sight next) :=
  sight_left ahead later

theorem resolve {next : Variable → Step β n} (member : token ∈ used)
    (later : ∀ entry, s.Goes used ends (next entry)) :
    s.Goes used ends (s.attempt (s.resolve token) next) := by
  apply meets_attempt
  · exact fun entry _ => later entry
  · intro fault failed
    unfold ParseState.resolve VariableTable.resolve VariableTable.find at failed
    split at failed
    · cases failed
    · rename_i missing
      cases failed
      exact ⟨token, member, by simp [VariableTable.Knows, missing], rfl⟩

end Goes

end ParseState

end Jack
