import Jack.Parse.State

namespace Jack

/-- A result with the state after it, which a fault keeps as well. -/
abbrev Reply (α : Type) (ε : Type := List Instruction) :=
  EStateM.Result Fault (ParseState ε) α

/-- A reply that leaves fewer than `bound` tokens when it succeeds. Recursion on what remains rests
on this bound. -/
def Step (α : Type) (bound : Nat) (ε : Type := List Instruction) :=
  { reply : Reply α ε // ∀ value s, reply = .ok value s → s.remaining < bound }

namespace Step

variable {α β ε : Type} {m n : Nat}

@[inline] def reply (step : Step α n ε) : Reply α ε :=
  step.val

@[inline] def done (value : α) (s : ParseState ε) (fits : s.remaining < n) : Step α n ε :=
  ⟨.ok value s, fun _ _ same => by cases same; exact fits⟩

@[inline] def fail (fault : Fault) (s : ParseState ε) : Step α n ε :=
  ⟨.error fault s, nofun⟩

@[inline] def weaken (step : Step α m ε) (le : m ≤ n) : Step α n ε :=
  ⟨step.val, fun value s same => Nat.lt_of_lt_of_le (step.property value s same) le⟩

@[inline] def andThen (step : Step α m ε)
    (next : (value : α) → (s : ParseState ε) → s.remaining < m → Step β n ε) : Step β n ε :=
  match step with
  | ⟨.ok value s, fits⟩ => next value s (fits value s rfl)
  | ⟨.error fault s, _⟩ => fail fault s

end Step

def unexpected (expected : String) (found : Token) : Fault :=
  ⟨.unexpectedToken expected found.text, found.start⟩

def inBackticks (text : String) : String :=
  "`" ++ text ++ "`"

namespace ParseState

variable {α β ε : Type} {n : Nat}

@[inline] def attempt (s : ParseState ε) (result : Except Fault α) (next : α → Step β n ε) :
    Step β n ε :=
  match result with
  | .ok value => next value
  | .error fault => .fail fault s

@[inline] def sight (s : ParseState ε) (next : Token → Step β n ε) : Step β n ε :=
  s.attempt s.cursor.peek next

def advance (s : ParseState ε) : Step Token s.remaining ε :=
  match h : s.cursor.advance with
  | .ok (token, cursor) =>
    .done token { s with cursor := cursor } (by
      have := Cursor.remaining_of_advance h
      simp only [remaining]
      omega)
  | .error fault => .fail fault s

def giveBack (s : ParseState ε) : Step Unit (s.remaining + 2) ε :=
  match h : s.cursor.giveBack with
  | .ok cursor =>
    .done () { s with cursor := cursor } (by
      have := Cursor.remaining_of_giveBack h
      simp only [remaining]
      omega)
  | .error fault => .fail fault s

def expectSymbol (s : ParseState ε) (mark : Char) : Step Token s.remaining ε :=
  s.advance.andThen fun token s₁ h₁ =>
  if token.isSymbol mark then .done token s₁ h₁
  else .fail (unexpected (inBackticks mark.toString) token) s₁

def expectKeyword (s : ParseState ε) (word : Keyword) : Step Token s.remaining ε :=
  s.advance.andThen fun token s₁ h₁ =>
  if token.isKeyword word then .done token s₁ h₁
  else .fail (unexpected (inBackticks word.text) token) s₁

def expectIdentifier (s : ParseState ε) : Step Token s.remaining ε :=
  s.advance.andThen fun token s₁ h₁ =>
  if token.isIdentifier then .done token s₁ h₁
  else .fail (unexpected "identifier" token) s₁

def resolve (s : ParseState ε) (token : Token) : Except Fault Variable :=
  s.names.resolve token.text token.start

def many {κ : Type} (select : LexemeKind → Option κ)
    (item : (s : ParseState ε) → κ → Step α s.remaining ε) (s : ParseState ε) (found : List α) :
    Step (List α) (s.remaining + 1) ε :=
  s.sight fun next =>
  match select next.kind with
  | some choice =>
    (item s choice).andThen fun value s₁ h₁ =>
    (many select item s₁ (value :: found)).weaken (remaining_succ_le_succ h₁)
  | none => .done found.reverse s s.remaining_lt_succ
termination_by s.remaining

end ParseState

end Jack
