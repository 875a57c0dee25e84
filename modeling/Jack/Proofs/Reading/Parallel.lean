import Mathlib.Data.List.Forall2
import Jack.Proofs.Reading.LockStep
import Jack.Proofs.Tree.Unplaced

namespace Jack

/-- Two tokens that read the same and have the same number in their lists. -/
structure Facing (ts us : List Token) (t u : Token) : Prop where
  text : t.text = u.text
  number : ∃ n : Nat, ts[n]? = some t ∧ us[n]? = some u

namespace Facing

variable {ts us : List Token} {t u : Token}

theorem kind (facing : Facing ts us t u) : t.kind = u.kind :=
  Token.kind_eq_of_text facing.text

theorem isSymbol (facing : Facing ts us t u) (mark : Char) : t.isSymbol mark = u.isSymbol mark := by
  rw [Token.isSymbol, Token.isSymbol, facing.kind]

theorem isKeyword (facing : Facing ts us t u) (word : Keyword) :
    t.isKeyword word = u.isKeyword word := by
  rw [Token.isKeyword, Token.isKeyword, facing.kind]

theorem all (same : ts.map (·.text) = us.map (·.text)) : List.Forall₂ (Facing ts us) ts us := by
  rw [List.forall₂_iff_get]
  have lengths : ts.length = us.length := by
    simpa using congrArg List.length same
  refine ⟨lengths, fun n first second => ⟨?_, n, ?_, ?_⟩⟩
  · have texts := congrArg (·[n]?) same
    simpa [first, second] using texts
  · exact List.getElem?_eq_getElem first
  · exact List.getElem?_eq_getElem second

theorem leaf (facing : Facing ts us t u) : (Node.token t).unplaced = (Node.token u).unplaced :=
  Node.unplaced_token facing.text

theorem name (facing : Facing ts us t u) (resolution : Resolution) :
    Node.SameTree Name.node ⟨t, resolution⟩ ⟨u, resolution⟩ :=
  Node.unplaced_name facing.text resolution

theorem use (facing : Facing ts us t u) (entry : Variable) :
    Node.SameTree Name.node (.use t entry) (.use u entry) :=
  facing.name _

end Facing

/-- Two states that differ in the places of the tokens still to be read, and in the tokens read. -/
structure SideBySide (ts us : List Token) (s s' : ParseState) : Prop where
  ahead : List.Forall₂ (Facing ts us) s.cursor.ahead s'.cursor.ahead
  names : s.names = s'.names
  className : s.className = s'.className
  nextLabel : s.nextLabel = s'.nextLabel
  emitted : s.emitted = s'.emitted

namespace SideBySide

variable {ts us : List Token} {s s' : ParseState}

theorem instructions (beside : SideBySide ts us s s') : s.instructions = s'.instructions :=
  congrArg List.reverse beside.emitted

theorem define (beside : SideBySide ts us s s') (name type : String) (kind : VariableKind) :
    SideBySide ts us (s.define name type kind) (s'.define name type kind) :=
  { beside with names := congrArg (·.define name type kind) beside.names }

theorem enterSubroutine (beside : SideBySide ts us s s') (kind : SubroutineKind) :
    SideBySide ts us (s.enterSubroutine kind) (s'.enterSubroutine kind) := by
  have fresh : SideBySide ts us s.startSubroutine.resetLabels s'.startSubroutine.resetLabels :=
    { beside with names := congrArg (·.startSubroutine) beside.names, nextLabel := rfl }
  cases kind with
  | ctor => exact fresh
  | function => exact fresh
  | method =>
    rw [ParseState.enterSubroutine, ParseState.enterSubroutine, beside.className]
    exact fresh.define _ _ _

end SideBySide

namespace Reading

open ParseState

variable {α β : Type} {ts us : List Token} {V : α → α → Prop} {W : β → β → Prop} {m n : Nat}

/-- The replies to the two lists: values that `V` relates, in states side by side, or the same fault at
tokens of one number, or the end of both lists. A success leaves at most `bound` tokens. -/
inductive Parallel (ts us : List Token) (bound : Nat) (V : α → α → Prop) :
    Reply α → Reply α → Prop where
  | done {value value' : α} {s s' : ParseState} (alike : V value value')
    (beside : SideBySide ts us s s') (fits : s.remaining ≤ bound) :
    Parallel ts us bound V (.ok value s) (.ok value' s')
  | refused {t u : Token} {cause : Cause} {s s' : ParseState} (facing : Facing ts us t u)
    (seen : cause ≠ .endOfInput) :
    Parallel ts us bound V (.error ⟨cause, t.start⟩ s) (.error ⟨cause, u.start⟩ s')
  | ended {s s' : ParseState} (atEnd : s.cursor.ahead = []) (atEnd' : s'.cursor.ahead = []) :
    Parallel ts us bound V (.error s.cursor.endOfInput s) (.error s'.cursor.endOfInput s')

theorem Parallel.mono {first second : Reply α} (replies : Parallel ts us m V first second)
    (le : m ≤ n) : Parallel ts us n V first second := by
  cases replies with
  | done alike beside fits => exact .done alike beside (Nat.le_trans fits le)
  | refused facing seen => exact .refused facing seen
  | ended atEnd atEnd' => exact .ended atEnd atEnd'

theorem Parallel.unexpected {t u : Token} (facing : Facing ts us t u) (expected : String)
    (s s' : ParseState) :
    Parallel ts us n V (.error (unexpected expected t) s) (.error (unexpected expected u) s') := by
  have seen := unexpected_ne_endOfInput expected u
  have same : Jack.unexpected expected t = ⟨.unexpectedToken expected u.text, t.start⟩ := by
    rw [Jack.unexpected, facing.text]
  rw [same]
  exact .refused facing seen

def Together (ts us : List Token) (n : Nat) (V : α → α → Prop) (first second : Reading α) : Prop :=
  ∀ s s', s.remaining < n → SideBySide ts us s s' →
    Parallel ts us s.remaining V (first s) (second s')

def OfKind (test : Token → Bool) : Prop :=
  ∀ t u, t.kind = u.kind → test t = test u

theorem ofKind (check : LexemeKind → Bool) : OfKind fun token => check token.kind :=
  fun _ _ same => congrArg check same

namespace Together

variable {first second : Reading α} {next next' : α → Reading β} {run run' : Reading β}

theorem zero (first second : Reading α) : Together ts us 0 V first second :=
  fun _ _ few => absurd few (Nat.not_lt_zero _)

theorem mono (together : Together ts us n V first second) (le : m ≤ n) :
    Together ts us m V first second :=
  fun s s' few => together s s' (Nat.lt_of_lt_of_le few le)

theorem pure {value value' : α} (alike : V value value') :
    Together ts us n V (Pure.pure value) (Pure.pure value') :=
  fun _ _ _ beside => .done alike beside (Nat.le_refl _)

theorem andThen (start : Together ts us n V first second)
    (rest : ∀ value value', V value value' → Together ts us m W (next value) (next' value'))
    (fewer : ∀ s value t, s.remaining < n → t.remaining ≤ s.remaining → first s = .ok value t →
      t.remaining < m) :
    Together ts us n W (first >>= next) (second >>= next') := by
  intro s s' few beside
  have replies := start s s' few beside
  rw [bind_apply, bind_apply]
  generalize one : first s = reply at replies
  generalize second s' = reply' at replies
  cases replies with
  | done alike later fits =>
    exact (rest _ _ alike _ _ (fewer _ _ _ few fits one) later).mono fits
  | refused facing seen => exact .refused facing seen
  | ended atEnd atEnd' => exact .ended atEnd atEnd'

theorem bind (start : Together ts us n V first second)
    (rest : ∀ value value', V value value' → Together ts us n W (next value) (next' value')) :
    Together ts us n W (first >>= next) (second >>= next') :=
  start.andThen rest fun _ _ _ few fits _ => Nat.lt_of_le_of_lt fits few

theorem bindLess (start : Together ts us (n + 1) V first second)
    (rest : ∀ value value', V value value' → Together ts us n W (next value) (next' value'))
    (fewer : ∀ s value t, first s = .ok value t → t.remaining < s.remaining) :
    Together ts us (n + 1) W (first >>= next) (second >>= next') := by
  apply start.andThen rest
  intro s value t few _ same
  exact Nat.lt_of_lt_of_le (fewer s value t same) (Nat.le_of_lt_succ few)

theorem needing {expectant expectant' : Reading β}
    (atEnd : ∀ s, s.cursor.ahead = [] → expectant s = .error s.cursor.endOfInput s)
    (atEnd' : ∀ s, s.cursor.ahead = [] → expectant' s = .error s.cursor.endOfInput s)
    (both : ∀ s s' t u rest rest', s.remaining < n → SideBySide ts us s s' →
      s.cursor.ahead = t :: rest → s'.cursor.ahead = u :: rest' → Facing ts us t u →
      List.Forall₂ (Facing ts us) rest rest' →
      Parallel ts us s.remaining W (expectant s) (expectant' s')) :
    Together ts us n W expectant expectant' := by
  intro s s' few beside
  have tokens := beside.ahead
  generalize ahead : s.cursor.ahead = left at tokens
  generalize ahead' : s'.cursor.ahead = right at tokens
  cases tokens with
  | nil =>
    rw [atEnd s ahead, atEnd' s' ahead']
    exact .ended ahead ahead'
  | cons facing others => exact both s s' _ _ _ _ few beside ahead ahead' facing others

theorem look {next next' : Token → Reading β}
    (rest : ∀ t u, Facing ts us t u → Together ts us n W (next t) (next' u)) :
    Together ts us n W (Reading.look >>= next) (Reading.look >>= next') := by
  apply needing
  · intro s ahead
    simp only [bind_apply, Reading.look, ahead]
  · intro s ahead
    simp only [bind_apply, Reading.look, ahead]
  · intro s s' t u others others' few beside ahead ahead' facing _
    simp only [bind_apply, Reading.look, ahead, ahead']
    exact rest t u facing s s' few beside

theorem accept {test : Token → Bool} {expected : String} {next next' : Token → Reading β}
    (same : OfKind test)
    (rest : ∀ t u, Facing ts us t u → test u → Together ts us n W (next t) (next' u)) :
    Together ts us (n + 1) W (Reading.accept test expected >>= next)
      (Reading.accept test expected >>= next') := by
  apply needing
  · intro s ahead
    simp only [bind_apply, Reading.accept, ahead]
  · intro s ahead
    simp only [bind_apply, Reading.accept, ahead]
  · intro s s' t u others others' few beside ahead ahead' facing following
    have fewer := remaining_after ahead
    simp only [bind_apply, Reading.accept, ahead, ahead', same t u facing.kind]
    by_cases passes : test u
    · have moved : SideBySide ts us (after s t others) (after s' u others') :=
        { beside with ahead := following }
      simp only [if_pos passes]
      exact (rest t u facing passes _ _ (by omega) moved).mono (by omega)
    · simp only [if_neg passes]
      exact .unexpected facing expected _ _

theorem token {test : Token → Bool} {expected : String} {next next' : Token → Reading β}
    (same : OfKind test) (rest : ∀ t u, Facing ts us t u → Together ts us n W (next t) (next' u)) :
    Together ts us n W (Reading.accept test expected >>= next)
      (Reading.accept test expected >>= next') := by
  have less : ∀ t u, Facing ts us t u → test u → Together ts us n W (next t) (next' u) :=
    fun t u facing _ => rest t u facing
  exact (accept same less).mono (Nat.le_succ n)

theorem symbol {mark : Char} {next next' : Token → Reading β}
    (rest : ∀ t u, Facing ts us t u → Together ts us n W (next t) (next' u)) :
    Together ts us n W (Reading.symbol mark >>= next) (Reading.symbol mark >>= next') :=
  token (ofKind (· == .symbol mark)) rest

theorem keyword {word : Keyword} {next next' : Token → Reading β}
    (rest : ∀ t u, Facing ts us t u → Together ts us n W (next t) (next' u)) :
    Together ts us n W (Reading.keyword word >>= next) (Reading.keyword word >>= next') :=
  token (ofKind (· == .keyword word)) rest

theorem identifier {next next' : Token → Reading β}
    (rest : ∀ t u, Facing ts us t u → Together ts us n W (next t) (next' u)) :
    Together ts us n W (Reading.identifier >>= next) (Reading.identifier >>= next') :=
  token (ofKind (· == .identifier)) rest

theorem resolve {t u : Token} {next next' : Variable → Reading β} (facing : Facing ts us t u)
    (rest : ∀ entry, Together ts us n W (next entry) (next' entry)) :
    Together ts us n W (Reading.resolve t >>= next) (Reading.resolve u >>= next') := by
  intro s s' few beside
  rw [bind_apply, bind_apply, Reading.resolve, Reading.resolve, beside.names, facing.text]
  cases s'.names.lookup? u.text with
  | none =>
    apply Parallel.refused facing
    intro same
    cases same
  | some entry => exact rest entry s s' few beside

theorem ask {known known' : ParseState → α}
    (same : ∀ s s', SideBySide ts us s s' → known s = known' s')
    (rest : ∀ value, Together ts us n W (next value) (next' value)) :
    Together ts us n W (Reading.ask known >>= next) (Reading.ask known' >>= next') := by
  intro s s' few beside
  rw [bind_apply, bind_apply, Reading.ask, Reading.ask, same s s' beside]
  exact rest (known' s') s s' few beside

theorem change {step step' : ParseState → ParseState}
    (keeps : ∀ s, (step s).remaining = s.remaining)
    (same : ∀ s s', SideBySide ts us s s' → SideBySide ts us (step s) (step' s'))
    (rest : Together ts us n W run run') :
    Together ts us n W (Reading.change step >>= fun _ => run)
      (Reading.change step' >>= fun _ => run') := by
  intro s s' few beside
  rw [← keeps s] at few
  have replies := rest (step s) (step' s') few (same s s' beside)
  rw [keeps s] at replies
  exact replies

theorem emit {code code' : List Instruction} (same : code = code')
    (rest : Together ts us n W run run') :
    Together ts us n W (Reading.emit code >>= fun _ => run)
      (Reading.emit code' >>= fun _ => run') := by
  refine change (fun s => remaining_emit s code) (fun s s' beside => ?_) rest
  exact { beside with emitted := by rw [same, ParseState.emit, ParseState.emit, beside.emitted] }

end Together

end Reading

end Jack
