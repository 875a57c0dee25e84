import Jack.Proofs.Parse.ClassDec
import Jack.Proofs.Parse.Reader
import Jack.Proofs.Reading.Truncation

namespace Jack

open Step

namespace ParseState

variable {ε δ : Type} [Emitter ε] [Emitter δ]

/-- From one state to another one, nothing is declared. Label numbers are only used, code is only added,
and the tokens are the same ones, of which some more were read. -/
structure Frame (s t : ParseState ε) : Prop where
  names : t.names = s.names
  className : t.className = s.className
  labels : s.nextLabel ≤ t.nextLabel
  appended : ∃ code, t.emitted = Emitter.takeAll s.emitted code
  tokens : t.cursor.toList = s.cursor.toList
  forward : t.remaining ≤ s.remaining

namespace Frame

variable {s t u : ParseState ε}

theorem refl (s : ParseState ε) : Frame s s :=
  ⟨rfl, rfl, Nat.le_refl _, ⟨[], rfl⟩, rfl, Nat.le_refl _⟩

theorem trans (first : Frame s t) (later : Frame t u) : Frame s u := by
  obtain ⟨code, appended⟩ := first.appended
  obtain ⟨other, further⟩ := later.appended
  refine ⟨later.names.trans first.names, later.className.trans first.className,
    Nat.le_trans first.labels later.labels, ⟨code ++ other, ?_⟩, later.tokens.trans first.tokens,
    Nat.le_trans later.forward first.forward⟩
  rw [further, appended, Emitter.takeAll_append]

instance : IsTrans (ParseState ε) Frame :=
  ⟨fun _ _ _ => trans⟩

theorem emit (s : ParseState ε) (code : List Instruction) : Frame s (s.emit code) :=
  ⟨rfl, rfl, Nat.le_refl _, ⟨code, rfl⟩, rfl, Nat.le_refl _⟩

theorem map {f : ε → δ} (along : Emitter.Along f) (frame : Frame s t) :
    Frame (s.map f) (t.map f) := by
  obtain ⟨code, appended⟩ := frame.appended
  refine ⟨frame.names, frame.className, frame.labels, ⟨code, ?_⟩, frame.tokens, frame.forward⟩
  rw [ParseState.map, appended, along.takeAll]
  rfl

end Frame

theorem Reads.frame {s t : ParseState} {passage : Passage} (reads : s.Reads passage t)
    (undeclared : passage.declared = []) : Frame s t := by
  refine ⟨?_, reads.className, ?_, ⟨passage.code, ?_⟩, ?_, ?_⟩
  · rw [reads.names, undeclared, VariableTable.declare_nil]
  · rw [reads.nextLabel]
    exact Nat.le_add_right _ _
  · rw [Emitter.takeAll_record, ← List.reverse_inj, List.reverse_append, List.reverse_reverse]
    exact reads.emitted
  · rw [Cursor.toList, Cursor.toList, reads.behind, reads.ahead]
    simp
  · rw [remaining, remaining, Cursor.remaining, Cursor.remaining, reads.ahead, List.length_append]
    exact Nat.le_add_left _ _

theorem Passes.frame {s t : ParseState} (passes : Passes none s t) : Frame s t := by
  obtain ⟨passage, only, reads⟩ := passes
  refine reads.frame (List.eq_nil_iff_forall_not_mem.mpr fun new member => ?_)
  cases only new member

end ParseState

theorem Step.Keeps.state {α : Type} {n : Nat} {within : ParseState → ParseState → Prop}
    {s : ParseState} {step : Step α n} {good : α → ParseState → Prop}
    (keeps : step.Keeps within s good) : within s (Reply.state step.reply) := by
  obtain ⟨reply, fits⟩ := step
  cases reply with
  | ok value t => exact keeps.1
  | error fault t => exact keeps

theorem Step.Keeps.of_state {α : Type} {n : Nat} {within : ParseState → ParseState → Prop}
    {s : ParseState} {step : Step α n} (stays : within s (Reply.state step.reply)) :
    step.Keeps within s fun _ _ => True := by
  obtain ⟨reply, fits⟩ := step
  cases reply with
  | ok value t => exact ⟨stays, trivial⟩
  | error fault t => exact stays

theorem Reading.Proceeds.state {α : Type} {s : ParseState} {reply : Reply α}
    (proceeds : Reading.Proceeds s reply) : s.Onward (Reply.state reply) := by
  cases reply with
  | ok value t => exact proceeds
  | error fault t => exact proceeds.1

namespace ParseState

theorem remaining_call_lt {s : ParseState} {token : Token} {rest : List Token}
    (ahead : s.cursor.ahead = token :: rest) : (Reply.state s.call.reply).remaining < s.remaining := by
  have fewer := Reading.remaining_after ahead
  have reads : s.call.reply = _ := congrFun Reading.call_eq s
  rw [reads, Reading.bind_apply, Reading.identifier, Reading.accept, ahead]
  dsimp only
  by_cases isName : token.isIdentifier
  · have later := Reading.callAfter_local (Reading.term_local (s.remaining + 1)) token
    have onward := (later.proceeds (Reading.after s token rest) (by omega)).state.remaining
    rw [if_pos isName]
    dsimp only
    omega
  · rw [if_neg isName]
    dsimp only [Reply.state]
    omega

theorem giveBack_meets (s : ParseState) :
    s.giveBack.Meets (fun _ back => ∃ token behind, s.cursor.behind = token :: behind ∧
      back = { s with cursor := ⟨behind, token :: s.cursor.ahead, true⟩ }) (fun _ t => t = s) := by
  unfold giveBack
  split
  · rename_i cursor given
    unfold Cursor.giveBack at given
    split at given
    · rename_i token behind read fresh
      cases given
      exact meets_done ⟨token, behind, read, rfl⟩
    · cases given
  · exact meets_fail rfl

theorem call_frame {s back : ParseState} {token : Token} {behind : List Token}
    (read : s.cursor.behind = token :: behind)
    (same : back = { s with cursor := ⟨behind, token :: s.cursor.ahead, true⟩ }) :
    Frame s (Reply.state back.call.reply) := by
  have frame : Frame back _ := (call_reads back ⟨rfl, rfl⟩).state.frame
  have ahead : back.cursor.ahead = token :: s.cursor.ahead := by rw [same]
  have fewer := remaining_call_lt ahead
  have more : back.remaining = s.remaining + 1 := by
    rw [same]
    rfl
  have tokens : back.cursor.toList = s.cursor.toList := by
    rw [same]
    simp [Cursor.toList, read]
  obtain ⟨code, appended⟩ := frame.appended
  exact ⟨frame.names.trans (by rw [same]), frame.className.trans (by rw [same]),
    Nat.le_trans (by rw [same]) frame.labels, ⟨code, appended.trans (by rw [same])⟩,
    frame.tokens.trans tokens, by omega⟩

theorem nameTerm_frame (s : ParseState) (token : Token) :
    (s.nameTerm token).Keeps Frame s fun _ _ => True := by
  rw [nameTerm]
  refine .sight (.refl s) ?_
  intro next rest ahead
  split
  · refine .attempt (.refl s) ?_
    intro entry found
    refine .andThen (.emit s _) ((advance_reads _).wider fun _ _ => Passes.frame) ?_
    intro opening s₁ h₁ _
    refine .andThen (.refl _) ((expression_reads s₁ ⟨rfl, rfl⟩).wider fun _ _ => Passes.frame) ?_
    intro index s₂ h₂ _
    refine .andThen (.refl _) ((expectSymbol_reads s₂ ']').wider fun _ _ => Passes.frame) ?_
    intro closing s₃ h₃ _
    exact .done (.emit s₃ _) trivial
  · split
    · refine Meets.andThen ((giveBack_meets s).mono (fun _ _ given => given) ?_) ?_
      · rintro fault t rfl
        exact .refl t
      · rintro _ back fits ⟨token, behind, read, same⟩
        have stays : back.call.Keeps Frame s _ := .of_state (call_frame read same)
        exact stays.bind fun call t _ stays _ => .done stays trivial
    · refine .attempt (.refl s) ?_
      intro entry found
      exact .done (.emit s _) trivial

theorem selected_keeps {α κ : Type} {within : ParseState → ParseState → Prop} {s : ParseState}
    {select : LexemeKind → Option κ} (expected : String)
    {item : (s : ParseState) → κ → Step α s.remaining}
    (passes : ∀ t, Passes none s t → within s t)
    (each : ∀ next later choice, s.cursor.ahead = next :: later → select next.kind = some choice →
      (item s choice).Keeps within s fun _ _ => True) :
    (s.selected select expected item).Keeps within s fun _ _ => True := by
  refine .sight (passes s (.refl s)) ?_
  intro next later ahead
  split
  · rename_i choice begins
    exact each next later choice ahead begins
  · have read : s.advance.Keeps within s _ := Meets.mono (advance_reads s)
      (fun token t holds => ⟨passes t holds.1, holds.2⟩) (fun fault t holds => passes t holds)
    exact read.bind fun token t fits stays _ => .fail stays

theorem subroutineDec_stays (s : ParseState) :
    s.subroutineDec.Keeps StaysInClass s fun _ _ => True :=
  selected_keeps _ (fun _ passes => (Passes.of_none passes).inClass)
    fun _ _ _ ahead begins => (subroutine_reads s ahead begins).mono fun _ _ _ => trivial

end ParseState

namespace BodyReader

open ParseState

variable {α ε : Type}

theorem frame_record (reader : BodyReader α) (s : ParseState) : Frame s (Reply.state (reader.read s)) := by
  cases reader with
  | term => exact (term_reads s ⟨rfl, rfl⟩).state.frame
  | nameTerm token => exact (nameTerm_frame s token).state
  | expression => exact (expression_reads s ⟨rfl, rfl⟩).state.frame
  | call => exact (call_reads s ⟨rfl, rfl⟩).state.frame
  | arguments => exact (arguments_reads s ⟨rfl, rfl⟩).state.frame
  | statement kind => exact (statementOf_reads s kind ⟨rfl, rfl⟩).state.frame
  | statements => exact (statements_reads s ⟨rfl, rfl⟩).state.frame
  | block => exact (block_reads s ⟨rfl, rfl⟩).state.frame

theorem frame [Emitter ε] (reader : BodyReader α) (s : ParseState ε) :
    Frame s (Reply.state (reader.read s)) := by
  rw [reader.read_eq, Reply.state_map]
  exact (reader.frame_record s.recorded).map s.along_replay

end BodyReader

/-- Expressions and statements leave the declarations alone, whether they are read or refused. A
subroutine leaves the class alone. -/
theorem body_leaves_declarations {ε : Type} [Emitter ε] (s : ParseState ε) :
    (∀ (α : Type) (reader : BodyReader α), ParseState.Frame s (Reply.state (reader.read s))) ∧
      (Reply.state s.subroutineDec.reply).names.classScope = s.names.classScope ∧
      (Reply.state s.subroutineDec.reply).className = s.className := by
  obtain ⟨_, _, inClass⟩ := s.recorded.subroutineDec_stays.state
  have reads : s.subroutineDec.reply = Reply.map s.replay s.recorded.subroutineDec.reply :=
    DeclarationReader.subroutineDec.read_eq s
  rw [reads, Reply.state_map]
  exact ⟨fun _ reader => reader.frame s, inClass.classScope, inClass.className⟩

end Jack
