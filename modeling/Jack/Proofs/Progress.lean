import Jack.Proofs.Accepted
import Jack.Proofs.Framing
import Jack.Proofs.Parse.Turn

namespace Jack

open Step

variable {α ε : Type}

/-- The reply has no more tokens left than there were, and fewer if something has to be read and is. -/
inductive Progresses (consumes : Bool) (s : ParseState ε) : Reply α ε → Prop where
  | read {value : α} {t : ParseState ε} (forward : t.remaining ≤ s.remaining)
    (consumed : consumes → t.remaining < s.remaining) : Progresses consumes s (.ok value t)
  | refused {fault : Fault} {t : ParseState ε} (forward : t.remaining ≤ s.remaining) :
    Progresses consumes s (.error fault t)

theorem Progresses.of_state {consumes : Bool} {s : ParseState ε} {reply : Reply α ε}
    (forward : (Reply.state reply).remaining ≤ s.remaining)
    (consumed : consumes → ∀ value t, reply = .ok value t → t.remaining < s.remaining) :
    Progresses consumes s reply := by
  cases reply with
  | ok value t => exact .read forward fun strict => consumed strict value t rfl
  | error fault t => exact .refused forward

theorem BodyReader.progresses [Emitter ε] (reader : BodyReader α) (s : ParseState ε) :
    Progresses reader.consumes s (reader.read s) := by
  refine .of_state (reader.frame s).forward fun strict => ?_
  cases reader with
  | term => exact s.term.property
  | expression => exact s.expression.property
  | call => exact s.call.property
  | statement kind => exact (s.statementOf kind).property
  | block => exact s.block.property
  | nameTerm token => cases strict
  | arguments => cases strict
  | statements => cases strict

namespace ParseState

variable (s : ParseState)

theorem onward_of_local {reply : Reply α} {program : Reading α} (reads : reply = program s)
    (each : ∀ n, Reading.Local n program) : s.Onward (Reply.state reply) := by
  rw [reads]
  exact ((each (s.remaining + 1)).proceeds s s.remaining_lt_succ).state

theorem selected_onward {κ : Type} {select : LexemeKind → Option κ} (expected : String)
    {item : (s : ParseState) → κ → Step α s.remaining} {program : κ → Token → Reading α}
    (reads : ∀ {next : Token} {later : List Token}, s.cursor.ahead = next :: later →
      ∀ choice, (item s choice).reply = program choice next (Reading.after s next later))
    (each : ∀ choice next n, Reading.Local n (program choice next)) :
    s.Onward (Reply.state (s.selected select expected item).reply) := by
  refine Keeps.state (selected_keeps expected ?_ ?_)
  · rintro t ⟨passage, only, reads⟩
    have frame := Passes.frame ⟨passage, only, reads⟩
    exact ⟨frame.tokens, frame.forward, ⟨passage.code, reads.emitted.symm⟩⟩
  · intro next later choice ahead _
    refine .of_state ?_
    exact (Onward.after ahead).trans (onward_of_local _ (reads ahead choice) (each choice next))

theorem state_unit : Reply.state s.unit.reply = Reply.state s.classDec.reply := by
  unfold unit
  obtain ⟨reply, fits⟩ := s.classDec
  cases reply with
  | ok declaration t =>
    dsimp only [andThen, Step.reply]
    split <;> rfl
  | error fault t => rfl

end ParseState

namespace DeclarationReader

open ParseState

theorem onward_record (reader : DeclarationReader α) (s : ParseState) :
    s.Onward (Reply.state (reader.read s)) := by
  cases reader with
  | typeName => exact s.onward_of_local (Reading.reply_typeName s) fun _ => Reading.typeName_local
  | names type kind => exact s.onward_of_local rfl fun n => Reading.newVariables_local n type kind []
  | classVarDec =>
    exact s.selected_onward _ Reading.reply_variableDec fun _ _ _ => Reading.variableDec_local _ _
  | varDec =>
    exact s.selected_onward _ Reading.reply_variableDec fun _ _ _ => Reading.variableDec_local _ _
  | parameters => exact s.onward_of_local (Reading.reply_parameters s) fun _ => Reading.parameters_local
  | subroutineBody kind functionName =>
    exact s.onward_of_local (Reading.reply_subroutineBody s kind functionName) fun _ =>
      Reading.subroutineBody_local _ _
  | subroutineDec =>
    exact s.selected_onward _ Reading.reply_subroutine fun _ _ _ => Reading.subroutine_local _ _
  | classDec => exact s.onward_of_local (Reading.reply_classDec s) Reading.classDec_local
  | unit =>
    rw [read, state_unit]
    exact s.onward_of_local (Reading.reply_classDec s) Reading.classDec_local

theorem progresses [Emitter ε] (reader : DeclarationReader α) (s : ParseState ε) :
    Progresses reader.consumes s (reader.read s) := by
  refine .of_state ?_ fun strict => ?_
  · rw [reader.read_eq, Reply.state_map]
    exact (reader.onward_record s.recorded).remaining
  · cases reader with
    | typeName => exact s.typeName.property
    | names type kind => exact (s.newVariables type kind []).property
    | classVarDec => exact s.classVarDec.property
    | varDec => exact s.varDec.property
    | subroutineBody kind functionName => exact (s.subroutineBody kind functionName).property
    | subroutineDec => exact s.subroutineDec.property
    | classDec => exact s.classDec.property
    | unit => exact s.unit.property
    | parameters => cases strict

end DeclarationReader

namespace ParseState

variable (s : ParseState ε)

def settled : ParseState ε :=
  { s with cursor := { s.cursor with returned := true } }

theorem giveBack_of_advance {token : Token} {t : ParseState ε}
    (read : s.advance.reply = .ok token t) : t.giveBack.reply = .ok () s.settled := by
  obtain ⟨⟨behind, ahead, returned⟩, names, className, nextLabel, emitted⟩ := s
  cases ahead with
  | nil => cases read
  | cons first later =>
    cases read
    rfl

variable [Emitter ε]

def callTerm : Step Term s.remaining ε :=
  s.call.andThen fun call s₁ h₁ => .done (.call call) s₁ h₁

/-- The token read from `s` to `t` can be given back, and there are then as many tokens as before. Where
the token is the name that a term begins with, and a call follows, it is given back for the call. -/
structure GivesBack (s t : ParseState ε) (token : Token) : Prop where
  succeeds : t.giveBack.reply = .ok () s.settled
  restores : s.settled.remaining = s.remaining
  named : token.isIdentifier → s.term.reply = (t.nameTerm token).reply
  called : ∀ next later, t.cursor.ahead = next :: later → next.isSymbol '(' || next.isSymbol '.' →
    (t.nameTerm token).reply = s.settled.callTerm.reply

theorem term_of_name {token : Token} {t : ParseState ε} (read : s.advance.reply = .ok token t)
    (isName : token.isIdentifier) : s.term.reply = (t.nameTerm token).reply := by
  have kind : token.kind = .identifier := by simpa [Token.isIdentifier] using isName
  rw [term, andThen_eq _ read, kind]
  rfl

theorem nameTerm_of_call {token : Token} {t : ParseState ε} (read : s.advance.reply = .ok token t)
    {next : Token} {later : List Token} (ahead : t.cursor.ahead = next :: later)
    (begins : next.isSymbol '(' || next.isSymbol '.') :
    (t.nameTerm token).reply = s.settled.callTerm.reply := by
  have notIndex : ¬ next.isSymbol '[' := by
    simp only [Token.isSymbol, Bool.or_eq_true, beq_iff_eq] at begins ⊢
    rcases begins with begins | begins <;> simp [begins]
  rw [nameTerm, sight_eq _ ahead, if_neg notIndex, if_pos begins,
    andThen_eq _ (giveBack_of_advance s read)]
  exact andThen_congr fun call u h => rfl

theorem givesBack {token : Token} {t : ParseState ε} (read : s.advance.reply = .ok token t) :
    GivesBack s t token :=
  ⟨giveBack_of_advance s read, rfl, term_of_name s read,
    fun _ _ ahead begins => nameTerm_of_call s read ahead begins⟩

end ParseState

/-- Every reader replies, whatever tokens there are. None leaves more tokens than it finds, and those of
what cannot be empty leave fewer. Every turn of a loop that another one follows reads a token, and what a
call gives back is what the term has read. -/
theorem parser_progresses {ε : Type} [Emitter ε] (s : ParseState ε) :
    (∀ (α : Type) (reader : BodyReader α), Progresses reader.consumes s (reader.read s)) ∧
      (∀ (α : Type) (reader : DeclarationReader α),
        Progresses reader.consumes s (reader.read s)) ∧
      (∀ (σ α : Type) (loop : Loop σ α) (soFar : σ),
        loop.Iterates soFar s (loop.run soFar s)) ∧
      ∀ token t, s.advance.reply = .ok token t → s.GivesBack t token :=
  ⟨fun _ reader => reader.progresses s, fun _ reader => reader.progresses s,
    fun _ _ loop soFar => loop.iterates soFar s, fun _ _ read => s.givesBack read⟩

def callTexts : List String :=
  ["f", "(", ")", ";"]

theorem call_gives_name_back : ∃ token t,
    (ParseState.start (lexemes callTexts)).advance.reply = .ok token t ∧ token.isIdentifier ∧
      (ParseState.start (lexemes callTexts)).GivesBack t token ∧
      Progresses true (ParseState.start (lexemes callTexts))
        (ParseState.start (lexemes callTexts)).term.reply := by
  obtain ⟨readers, _, _, givesBack⟩ := parser_progresses (ParseState.start (lexemes callTexts))
  have read : (ParseState.start (lexemes callTexts)).advance.reply = .ok _ _ := rfl
  exact ⟨_, _, read, by decide +kernel, givesBack _ _ read, readers _ .term⟩

end Jack
