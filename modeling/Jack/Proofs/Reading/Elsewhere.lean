import Jack.Proofs.Parse.Transfer
import Jack.Proofs.Reading.Relayout
import Jack.Proofs.Reading.Truncation

namespace Jack

structure Alike (s s' : ParseState) : Prop where
  names : s.names = s'.names
  className : s.className = s'.className
  nextLabel : s.nextLabel = s'.nextLabel

theorem Alike.symm {s s' : ParseState} (alike : Alike s s') : Alike s' s :=
  ⟨alike.names.symm, alike.className.symm, alike.nextLabel.symm⟩

theorem Alike.trans {s s' s'' : ParseState} (first : Alike s s') (later : Alike s' s'') :
    Alike s s'' :=
  ⟨first.names.trans later.names, first.className.trans later.className,
    first.nextLabel.trans later.nextLabel⟩

theorem SideBySide.alike {ts us : List Token} {s s' : ParseState} (beside : SideBySide ts us s s') :
    Alike s s' :=
  ⟨beside.names, beside.className, beside.nextLabel⟩

namespace ParseState

/-- The same state with some tokens to come only, and without code. -/
def confine (s : ParseState) (tokens : List Token) : ParseState :=
  { s with cursor := { s.cursor with ahead := tokens }, emitted := [] }

theorem confine_restored {s : ParseState} {tokens rest : List Token}
    (ahead : s.cursor.ahead = tokens ++ rest) :
    ((s.confine tokens).extend rest).map (· ++ s.emitted) = s := by
  obtain ⟨⟨behind, _, returned⟩, names, className, nextLabel, emitted⟩ := s
  cases ahead
  rfl

end ParseState

namespace Reading

open ParseState

variable {α : Type} {V : α → α → Prop} {read : Reading α}

/-- A reader that does the same elsewhere, up to what `V` relates. -/
structure Movable (V : α → α → Prop) (read : Reading α) : Prop where
  isLocal : ∀ n, Local n read
  together : ∀ ts us n, Together ts us n V read read
  carries : ∀ (older : List Instruction) (s : ParseState),
    read (s.map (· ++ older)) = Reply.map (· ++ older) (read s)

namespace Movable

variable {s base t : ParseState} {value : α} {tokens rest : List Token}

theorem reads_of_confined (movable : Movable V read) (ahead : s.cursor.ahead = tokens ++ rest)
    (alone : read (s.confine tokens) = .ok value t) :
    read s = .ok value ((t.extend rest).map (· ++ s.emitted)) := by
  have steps := (movable.isLocal _).lockStep (s.confine tokens) rest (Nat.lt_succ_self _)
  have older := movable.carries s.emitted ((s.confine tokens).extend rest)
  rw [confine_restored ahead] at older
  rw [alone] at steps
  generalize longer : read ((s.confine tokens).extend rest) = reply at steps
  cases steps with
  | done value t =>
    rw [older, longer]
    rfl

/-- A part that is read by itself is read wherever its tokens stand and its scope is the same. -/
theorem moves (movable : Movable V read) (fresh : base.emitted = []) (alone : read base = .ok value t)
    (ended : t.cursor.ahead = []) (alike : Alike base s) (ahead : s.cursor.ahead = tokens ++ rest)
    (same : base.cursor.ahead.map (·.text) = tokens.map (·.text)) :
    ∃ value' u, read s = .ok value' u ∧ V value value' ∧ Alike t u ∧ u.cursor.ahead = rest ∧
      u.instructions = s.instructions ++ t.instructions := by
  have beside : SideBySide base.cursor.ahead tokens base (s.confine tokens) :=
    ⟨Facing.all same, alike.names, alike.className, alike.nextLabel, fresh⟩
  have replies := movable.together _ _ _ base (s.confine tokens) (Nat.lt_succ_self _) beside
  rw [alone] at replies
  generalize confined : read (s.confine tokens) = reply at replies
  cases replies with
  | @done _ value' _ t' related later fits =>
    have nothingLeft : t'.cursor.ahead = [] := by
      have left := later.ahead
      rw [ended] at left
      exact List.forall₂_nil_left_iff.mp left
    refine ⟨value', _, movable.reads_of_confined ahead confined, related, ?_, ?_, ?_⟩
    · exact ⟨later.names, later.className, later.nextLabel⟩
    · show t'.cursor.ahead ++ rest = rest
      rw [nothingLeft, List.nil_append]
    · show (t'.emitted ++ s.emitted).reverse = _
      rw [List.reverse_append, ← later.emitted]
      rfl

end Movable

def part {κ : Type} (item : (s : ParseState) → κ → Step α s.remaining) (choice : κ) : Reading α :=
  fun s => (item s choice).reply

theorem accept_bind {β : Type} {s : ParseState} {test : Token → Bool} {expected : String}
    {word : Token} {rest : List Token} (ahead : s.cursor.ahead = word :: rest) (passes : test word)
    (next : Token → Reading β) : (accept test expected >>= next) s = next word (after s word rest) := by
  simp only [bind_apply, accept, ahead, passes, if_true]

theorem part_variableDec (kind : VariableKind) :
    part ParseState.variableDec kind = (accept (fun _ => true) "" >>= variableDec kind) := by
  funext s
  change (s.variableDec kind).reply = _
  cases ahead : s.cursor.ahead with
  | nil =>
    obtain ⟨⟨behind, _, returned⟩, names, className, nextLabel, emitted⟩ := s
    cases ahead
    rfl
  | cons word rest => rw [reply_variableDec ahead, accept_bind ahead rfl]

theorem part_subroutine (kind : SubroutineKind) :
    part ParseState.subroutine kind = (accept (fun _ => true) "" >>= subroutine kind) := by
  funext s
  change (s.subroutine kind).reply = _
  cases ahead : s.cursor.ahead with
  | nil =>
    obtain ⟨⟨behind, _, returned⟩, names, className, nextLabel, emitted⟩ := s
    cases ahead
    rfl
  | cons word rest => rw [reply_subroutine ahead, accept_bind ahead rfl]

theorem movable_variableDec (production : Production) (kind : VariableKind) :
    Movable (Node.SameTree (VariableDec.node production)) (part ParseState.variableDec kind) := by
  refine ⟨fun n => ?_, fun ts us n => ?_, fun older s => maps_variableDec s kind⟩
  · rw [part_variableDec]
    exact (Local.accept fun word _ => variableDec_local kind word).mono (Nat.le_succ n)
  · rw [part_variableDec]
    exact .token (fun _ _ _ => rfl) fun word word' facing =>
      variableDec_together production kind facing

theorem movable_subroutine (kind : SubroutineKind) :
    Movable (Node.SameTree Subroutine.node) (part ParseState.subroutine kind) := by
  refine ⟨fun n => ?_, fun ts us n => ?_,
    fun older s => maps_subroutine (Emitter.along_older older) s kind⟩
  · rw [part_subroutine]
    exact (Local.accept fun word _ => subroutine_local kind word).mono (Nat.le_succ n)
  · rw [part_subroutine]
    exact .token (fun _ _ _ => rfl) fun word word' facing => subroutine_together kind facing

section

variable {κ : Type} {select : LexemeKind → Option κ} {item : (s : ParseState) → κ → Step α s.remaining}
  {s s₁ : ParseState} {token : Token} {rest : List Token} {found : List α} {value : α}

theorem items_next {choice : κ} (ahead : s.cursor.ahead = token :: rest)
    (selected : select token.kind = some choice) (read : part item choice s = .ok value s₁) :
    items select item found s = items select item (value :: found) s₁ := by
  have later : (part item choice >>= fun value => items select item (value :: found)) s =
      items select item (value :: found) s₁ := by
    rw [bind_apply, read]
  change (many select item s found).reply = _
  rw [many, sight, Cursor.peek, ahead, ← later]
  simp only [attempt, selected]
  exact reply_andThen rfl fun _ _ _ _ => rfl

theorem items_end (ahead : s.cursor.ahead = token :: rest) (ends : select token.kind = none) :
    items select item found s = .ok found.reverse s := by
  change (many select item s found).reply = _
  rw [many, sight, Cursor.peek, ahead]
  simp only [attempt, ends]
  rfl

end

end Reading

end Jack
