import Jack.Parse.Step

namespace Jack

/-- A program of reading. The bounds on what remains are left out here, and every token is tested where it
is read. -/
abbrev Reading := EStateM Fault ParseState

namespace Reading

open ParseState

variable {α β : Type} {m n : Nat} {s : ParseState}

def after (s : ParseState) (token : Token) (rest : List Token) : ParseState :=
  { s with cursor := ⟨token :: s.cursor.behind, rest, false⟩ }

theorem remaining_after {token : Token} {rest : List Token} (ahead : s.cursor.ahead = token :: rest) :
    (after s token rest).remaining + 1 = s.remaining := by
  simp [after, ParseState.remaining, Cursor.remaining, ahead]

def accept (test : Token → Bool) (expected : String) : Reading Token := fun s =>
  match s.cursor.ahead with
  | [] => .error s.cursor.endOfInput s
  | token :: rest =>
    if test token then .ok token (after s token rest)
    else .error (unexpected expected token) (after s token rest)

def symbol (mark : Char) : Reading Token :=
  accept (·.isSymbol mark) (inBackticks mark.toString)

def keyword (word : Keyword) : Reading Token :=
  accept (·.isKeyword word) (inBackticks word.text)

def identifier : Reading Token :=
  accept (·.isIdentifier) "identifier"

def look : Reading Token := fun s =>
  match s.cursor.ahead with
  | [] => .error s.cursor.endOfInput s
  | token :: _ => .ok token s

def ask (known : ParseState → α) : Reading α := fun s => .ok (known s) s

def change (next : ParseState → ParseState) : Reading Unit := fun s => .ok () (next s)

def emit (code : List Instruction) : Reading Unit :=
  change (·.emit code)

def resolve (token : Token) : Reading Variable := fun s =>
  match s.names.lookup? token.text with
  | some entry => .ok entry s
  | none => .error ⟨.undefinedSymbol token.text, token.start⟩ s

theorem bind_apply (first : Reading α) (next : α → Reading β) (s : ParseState) :
    (first >>= next) s =
      match first s with
      | .ok value t => next value t
      | .error fault t => .error fault t := by
  cases same : first s <;> simp only [Bind.bind, EStateM.bind, same]

/-- A step is the program `first`, and what follows it is the program `next`. -/
theorem reply_andThen {step : Step α m} {first : Reading α} {next : α → Reading β}
    {later : (value : α) → (t : ParseState) → t.remaining < m → Step β n}
    (start : step.reply = first s)
    (rest : ∀ value t fits, first s = .ok value t → (later value t fits).reply = next value t) :
    (step.andThen later).reply = (first >>= next) s := by
  rw [bind_apply, ← start]
  rw [← start] at rest
  obtain ⟨reply, fits⟩ := step
  cases reply with
  | ok value t => exact rest value t (fits value t rfl) rfl
  | error fault t => rfl

theorem reply_sight {later : Token → Step β n} {next : Token → Reading β}
    (rest : ∀ token ahead, s.cursor.ahead = token :: ahead → (later token).reply = next token s) :
    (s.sight later).reply = (look >>= next) s := by
  rw [bind_apply, look]
  unfold sight attempt Cursor.peek
  cases ahead : s.cursor.ahead with
  | nil => rfl
  | cons token tokens => exact rest token tokens ahead

theorem reply_resolve {token : Token} {later : Variable → Step β n} {next : Variable → Reading β}
    (rest : ∀ entry, (later entry).reply = next entry s) :
    (s.attempt (s.resolve token) later).reply = (resolve token >>= next) s := by
  rw [bind_apply, resolve]
  unfold ParseState.resolve VariableTable.resolve VariableTable.find
  cases s.names.lookup? token.text with
  | some entry => exact rest entry
  | none => rfl

theorem reply_advance {test : Token → Bool} {expected : String} {next : Token → Reading β}
    {later : (token : Token) → (t : ParseState) → t.remaining < s.remaining → Step β n}
    (passing : ∀ token rest fits, s.cursor.ahead = token :: rest → test token →
      (later token (after s token rest) fits).reply = next token (after s token rest))
    (failing : ∀ token rest fits, s.cursor.ahead = token :: rest → ¬ test token →
      (later token (after s token rest) fits).reply =
        .error (unexpected expected token) (after s token rest)) :
    (s.advance.andThen later).reply = (accept test expected >>= next) s := by
  rw [bind_apply, accept]
  obtain ⟨⟨behind, ahead, returned⟩, names, className, nextLabel, emitted⟩ := s
  cases ahead with
  | nil => rfl
  | cons token rest =>
    dsimp only
    by_cases passes : test token
    · rw [if_pos passes]
      exact passing token rest (Nat.lt_succ_self _) rfl passes
    · rw [if_neg passes]
      exact failing token rest (Nat.lt_succ_self _) rfl passes

/-- A token that is known to be next is read without a test. -/
theorem reply_advance_of_sight {test : Token → Bool} {expected : String} {next : Token → Reading β}
    {later : (token : Token) → (t : ParseState) → t.remaining < s.remaining → Step β n}
    {first : Token} {tokens : List Token} (ahead : s.cursor.ahead = first :: tokens)
    (passes : test first)
    (rest : ∀ fits, (later first (after s first tokens) fits).reply =
      next first (after s first tokens)) :
    (s.advance.andThen later).reply = (accept test expected >>= next) s := by
  apply reply_advance
  · intro token others fits same _
    rw [ahead] at same
    cases same
    exact rest fits
  · intro token others fits same fails
    rw [ahead] at same
    cases same
    exact absurd passes fails

theorem reply_giveBack {α : Type} {reply : Reply α} {token : Token} {rest : List Token}
    {later : Unit → (t : ParseState) → t.remaining < (after s token rest).remaining + 2 → Step α n}
    (going : ∀ fits, (later () { s with cursor := ⟨s.cursor.behind, token :: rest, true⟩ } fits).reply =
      reply) :
    ((after s token rest).giveBack.andThen later).reply = reply :=
  going _

theorem reply_tested (test : Token → Bool) (expected : String) (s : ParseState) :
    (s.advance.andThen fun token t fits =>
      if test token then .done token t fits else .fail (unexpected expected token) t :
        Step Token s.remaining).reply = accept test expected s := by
  rw [← bind_pure (accept test expected)]
  apply reply_advance
  · intro token rest fits _ passes
    rw [if_pos passes]
    rfl
  · intro token rest fits _ fails
    rw [if_neg fails]
    rfl

theorem reply_expectSymbol (s : ParseState) (mark : Char) :
    (s.expectSymbol mark).reply = symbol mark s :=
  reply_tested (·.isSymbol mark) _ s

theorem reply_expectKeyword (s : ParseState) (word : Keyword) :
    (s.expectKeyword word).reply = keyword word s :=
  reply_tested (·.isKeyword word) _ s

theorem reply_expectIdentifier (s : ParseState) : s.expectIdentifier.reply = identifier s :=
  reply_tested (·.isIdentifier) _ s

end Reading

end Jack
