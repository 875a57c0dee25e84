import Jack.Proofs.Parse.Meets
import Jack.Proofs.Variable.Log

namespace Jack

structure Passage where
  tokens : List Token
  code : List Instruction
  labels : Nat
  declared : List Declaration

namespace Passage

instance : Append Passage where
  append first later := ⟨first.tokens ++ later.tokens, first.code ++ later.code,
    first.labels + later.labels, first.declared ++ later.declared⟩

@[simp] theorem tokens_append (first later : Passage) :
    (first ++ later).tokens = first.tokens ++ later.tokens := rfl

@[simp] theorem code_append (first later : Passage) :
    (first ++ later).code = first.code ++ later.code := rfl

@[simp] theorem labels_append (first later : Passage) :
    (first ++ later).labels = first.labels + later.labels := rfl

@[simp] theorem declared_append (first later : Passage) :
    (first ++ later).declared = first.declared ++ later.declared := rfl

@[simp] theorem mk_append (tokens tokens' : List Token) (code code' : List Instruction)
    (labels labels' : Nat) (declared declared' : List Declaration) :
    Passage.mk tokens code labels declared ++ Passage.mk tokens' code' labels' declared' =
      ⟨tokens ++ tokens', code ++ code', labels + labels', declared ++ declared'⟩ := rfl

@[simp] def ofToken (token : Token) : Passage :=
  ⟨[token], [], 0, []⟩

@[simp] def ofCode (code : List Instruction) : Passage :=
  ⟨[], code, 0, []⟩

@[simp] def ofTokens (tokens : List Token) (code : List Instruction) : Passage :=
  ⟨tokens, code, 0, []⟩

end Passage

namespace ParseState

structure Reads (s : ParseState) (passage : Passage) (s' : ParseState) : Prop where
  ahead : s.cursor.ahead = passage.tokens ++ s'.cursor.ahead
  behind : s'.cursor.behind = passage.tokens.reverse ++ s.cursor.behind
  names : s'.names = s.names.declare passage.declared
  className : s'.className = s.className
  nextLabel : s'.nextLabel = s.nextLabel + passage.labels
  emitted : s'.instructions = s.instructions ++ passage.code

theorem Reads.trans {s s₁ s₂ : ParseState} {first later : Passage} (reads : s.Reads first s₁)
    (rest : s₁.Reads later s₂) : s.Reads (first ++ later) s₂ := by
  refine ⟨?_, ?_, ?_, ?_, ?_, ?_⟩
  · rw [reads.ahead, rest.ahead, Passage.tokens_append, List.append_assoc]
  · rw [rest.behind, reads.behind, Passage.tokens_append, List.reverse_append, List.append_assoc]
  · rw [rest.names, reads.names, Passage.declared_append, VariableTable.declare_append]
  · rw [rest.className, reads.className]
  · rw [rest.nextLabel, reads.nextLabel, Passage.labels_append, Nat.add_assoc]
  · rw [rest.emitted, reads.emitted, Passage.code_append, List.append_assoc]

theorem Reads.same {s s' : ParseState} {passage other : Passage} (reads : s.Reads passage s')
    (same : passage = other) : s.Reads other s' :=
  same ▸ reads

theorem reads_emit (s : ParseState) (code : List Instruction) :
    s.Reads (.ofCode code) (s.emit code) :=
  ⟨rfl, rfl, rfl, rfl, rfl, instructions_emit s code⟩

theorem reads_useLabel (s : ParseState) : s.Reads ⟨[], [], 1, []⟩ s.useLabel :=
  ⟨rfl, rfl, rfl, rfl, rfl, (List.append_nil _).symm⟩

theorem reads_define (s : ParseState) (name type : String) (kind : VariableKind) :
    s.Reads ⟨[], [], 0, [⟨name, type, kind⟩]⟩ (s.define name type kind) :=
  ⟨rfl, rfl, rfl, rfl, rfl, (List.append_nil _).symm⟩

theorem reads_token {s : ParseState} {token : Token} {rest : List Token}
    (ahead : s.cursor.ahead = token :: rest) (returned : Bool) :
    s.Reads (.ofToken token) { s with cursor := ⟨token :: s.cursor.behind, rest, returned⟩ } :=
  ⟨ahead, rfl, rfl, rfl, rfl, (List.append_nil _).symm⟩

theorem reads_nothing (s : ParseState) : s.Reads ⟨[], [], 0, []⟩ s :=
  ⟨rfl, rfl, rfl, rfl, rfl, (List.append_nil _).symm⟩

/-- Some passage lies between two states that declares variables of one scope only, or none at all. -/
def Passes (scope? : Option ScopeKind) (s s' : ParseState) : Prop :=
  ∃ passage : Passage, (∀ new ∈ passage.declared, scope? = some new.kind.scope) ∧ s.Reads passage s'

namespace Passes

variable {scope? : Option ScopeKind} {s s₁ s₂ : ParseState}

theorem of_reads {passage : Passage} (reads : s.Reads passage s₁) (undeclared : passage.declared = []) :
    Passes scope? s s₁ :=
  ⟨passage, by simp [undeclared], reads⟩

theorem refl (s : ParseState) : Passes scope? s s :=
  of_reads (reads_nothing s) rfl

theorem trans (first : Passes scope? s s₁) (later : Passes scope? s₁ s₂) : Passes scope? s s₂ := by
  obtain ⟨passage₁, only₁, reads₁⟩ := first
  obtain ⟨passage₂, only₂, reads₂⟩ := later
  refine ⟨passage₁ ++ passage₂, ?_, reads₁.trans reads₂⟩
  intro new member
  rcases List.mem_append.mp member with member | member
  · exact only₁ new member
  · exact only₂ new member

theorem of_none (passes : Passes none s s₁) : Passes scope? s s₁ := by
  obtain ⟨passage, only, reads⟩ := passes
  refine ⟨passage, ?_, reads⟩
  intro new member
  cases only new member

instance : IsTrans ParseState (Passes scope?) :=
  ⟨fun _ _ _ => trans⟩

end Passes

end ParseState

/-- A step from `s` that stays within a relation, whether it succeeds or not. -/
def Step.Keeps {α : Type} {n : Nat} (within : ParseState → ParseState → Prop) (s : ParseState)
    (step : Step α n) (good : α → ParseState → Prop) : Prop :=
  step.Meets (fun value s' => within s s' ∧ good value s') (fun _ s' => within s s')

namespace Step.Keeps

open ParseState

variable {α β : Type} {m n : Nat} {within : ParseState → ParseState → Prop}
  {s t : ParseState} {good mid : α → ParseState → Prop} {goal : β → ParseState → Prop}

theorem of_ok {step : Step α n} {value : α} (keeps : step.Keeps within s good)
    (same : step.reply = .ok value t) : good value t :=
  (Meets.of_ok keeps same).2

theorem mono {step : Step α n} (keeps : step.Keeps within s mid)
    (better : ∀ value s', mid value s' → good value s') : step.Keeps within s good :=
  Meets.mono keeps (fun value s' holds => ⟨holds.1, better value s' holds.2⟩) (fun _ _ holds => holds)

theorem wider {other : ParseState → ParseState → Prop} {step : Step α n}
    (keeps : step.Keeps within s good) (le : ∀ s s', within s s' → other s s') :
    step.Keeps other s good :=
  Meets.mono keeps (fun _ s' holds => ⟨le s s' holds.1, holds.2⟩) (fun _ s' holds => le s s' holds)

theorem weaken {step : Step α m} {le : m ≤ n} (keeps : step.Keeps within s good) :
    (step.weaken le).Keeps within s good :=
  Meets.weaken keeps

theorem since [IsTrans ParseState within] {step : Step α n} (start : within s t)
    (keeps : step.Keeps within t good) : step.Keeps within s good :=
  Meets.mono keeps (fun _ _ holds => ⟨trans_of within start holds.1, holds.2⟩)
    (fun _ _ holds => trans_of within start holds)

theorem bind {step : Step α m}
    {next : (value : α) → (s : ParseState) → s.remaining < m → Step β n}
    (first : step.Keeps within s mid)
    (rest : ∀ value s' fits, within s s' → mid value s' → (next value s' fits).Keeps within s goal) :
    (step.andThen next).Keeps within s goal :=
  Meets.andThen first fun value s' fits holds => rest value s' fits holds.1 holds.2

/-- The first step is taken from a state `t` after `s`; what follows starts from where it ends. -/
theorem andThen [IsTrans ParseState within] {step : Step α m}
    {next : (value : α) → (s : ParseState) → s.remaining < m → Step β n}
    (start : within s t) (first : step.Keeps within t mid)
    (rest : ∀ value s' fits, mid value s' → (next value s' fits).Keeps within s' goal) :
    (step.andThen next).Keeps within s goal :=
  (first.since start).bind fun value s' fits stays holds => (rest value s' fits holds).since stays

theorem done {value : α} {fits : t.remaining < n} (stays : within s t) (holds : good value t) :
    (Step.done value t fits).Keeps within s good :=
  ⟨stays, holds⟩

theorem fail {fault : Fault} (stays : within s t) : (Step.fail fault t : Step α n).Keeps within s good :=
  stays

theorem attempt {κ : Type} {result : Except Fault κ} {next : κ → Step α n} (stays : within s t)
    (holds : ∀ value, result = .ok value → (next value).Keeps within s good) :
    (t.attempt result next).Keeps within s good :=
  meets_attempt holds fun _ _ => stays

theorem sight {next : Token → Step α n} (stays : within s t)
    (holds : ∀ token rest, t.cursor.ahead = token :: rest → (next token).Keeps within s good) :
    (t.sight next).Keeps within s good :=
  meets_sight holds fun _ => stays

theorem giveBack {token : Token} {behind : List Token}
    {next : Unit → (s' : ParseState) → s'.remaining < t.remaining + 2 → Step α n}
    (fresh : t.cursor.returned = false) (read : t.cursor.behind = token :: behind)
    (rest : ∀ fits, (next () { t with cursor := ⟨behind, token :: t.cursor.ahead, true⟩ } fits).Keeps
      within s good) :
    (t.giveBack.andThen next).Keeps within s good := by
  have given : t.giveBack.Meets
      (fun _ s' => s' = { t with cursor := ⟨behind, token :: t.cursor.ahead, true⟩ })
      (fun _ s' => within s s') := meets_giveBack fresh read rfl
  apply Meets.andThen given
  intro _ s' fits same
  subst same
  exact rest fits

end Step.Keeps

namespace ParseState

open Step

variable {scope? : Option ScopeKind}

/-- A token was read, and nothing was given back since. -/
def ReadsToken (s : ParseState) (token : Token) (s' : ParseState) : Prop :=
  s.Reads (.ofToken token) s' ∧ s'.cursor.returned = false

theorem advance_reads (s : ParseState) :
    s.advance.Keeps (Passes scope?) s fun token s' => s.ReadsToken token s' := by
  apply meets_advance
  · intro token rest ahead
    have reads := reads_token ahead false
    exact ⟨.of_reads reads rfl, reads, rfl⟩
  · intro ahead
    exact .refl s

private theorem tested_reads {s : ParseState} (test : Token → Bool) (fault : Token → Fault) :
    (s.advance.andThen fun token s₁ h₁ =>
      if test token then .done token s₁ h₁ else .fail (fault token) s₁ : Step Token s.remaining).Keeps
      (Passes scope?) s fun token s' => test token ∧ s.Reads (.ofToken token) s' := by
  apply Keeps.bind (advance_reads s)
  intro token s₁ h₁ stays seen
  obtain ⟨reads, _⟩ := seen
  split
  · rename_i passed
    exact .done stays ⟨passed, reads⟩
  · exact .fail stays

theorem expectSymbol_reads (s : ParseState) (mark : Char) :
    (s.expectSymbol mark).Keeps (Passes scope?) s fun token s' =>
      token.isSymbol mark ∧ s.Reads (.ofToken token) s' :=
  tested_reads (·.isSymbol mark) _

theorem expectKeyword_reads (s : ParseState) (word : Keyword) :
    (s.expectKeyword word).Keeps (Passes scope?) s fun token s' =>
      token.isKeyword word ∧ s.Reads (.ofToken token) s' :=
  tested_reads (·.isKeyword word) _

theorem expectIdentifier_reads (s : ParseState) :
    s.expectIdentifier.Keeps (Passes scope?) s fun token s' =>
      token.isIdentifier ∧ s.Reads (.ofToken token) s' :=
  tested_reads (·.isIdentifier) _

theorem resolve_ok {s : ParseState} {token : Token} {entry : Variable}
    (found : s.resolve token = .ok entry) : s.names.lookup? token.text = some entry := by
  unfold resolve VariableTable.resolve VariableTable.find at found
  split at found
  · rename_i other seen
    cases found
    exact seen
  · cases found

end ParseState

end Jack
