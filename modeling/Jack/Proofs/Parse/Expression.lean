import Jack.Proofs.Parse.Passage
import Jack.Proofs.Program.Scope
import Jack.Proofs.Program.Spelling

namespace Jack

def VariableTable.context (names : VariableTable) (className : String) : Context :=
  ⟨className, names.typeIn⟩

namespace ParseState

open Step

variable {names : VariableTable} {className : String}

structure Within (s : ParseState) (names : VariableTable) (className : String) : Prop where
  names : s.names = names
  className : s.className = className

theorem Within.reads {s s' : ParseState} {passage : Passage} (inside : s.Within names className)
    (reads : s.Reads passage s') (undeclared : passage.declared = [] := by rfl) :
    s'.Within names className := by
  refine ⟨?_, ?_⟩
  · rw [reads.names, undeclared, VariableTable.declare_nil, inside.names]
  · rw [reads.className, inside.className]

/-- What a reader of a part of a program yields, by the passage of that part. -/
structure Yields (s : ParseState) (grammatical resolved : Prop) (passage : Passage)
    (s' : ParseState) : Prop where
  grammatical : grammatical
  resolved : resolved
  reads : s.Reads passage s'

theorem constant_of_ofKind? {kind : LexemeKind} {value : Constant}
    (start : TermStart.ofKind? kind = some (.constant value)) : Constant.ofKind? kind = some value := by
  cases kind with
  | identifier => cases start
  | symbol mark =>
    simp only [TermStart.ofKind?, TermStart.ofSymbol?] at start
    split at start
    · cases start
    · cases found : UnaryOperator.ofSymbol? mark <;> simp [found] at start
  | keyword word => simpa [TermStart.ofKind?] using start
  | integer value => simpa [TermStart.ofKind?] using start
  | string contents => simpa [TermStart.ofKind?] using start

theorem opens_of_ofKind? {token : Token} (start : TermStart.ofKind? token.kind = some .group) :
    token.isSymbol '(' := by
  cases same : token.kind with
  | symbol mark =>
    simp only [same, TermStart.ofKind?, TermStart.ofSymbol?] at start
    split at start
    · rename_i opens
      simp [Token.isSymbol, same, opens]
    · cases found : UnaryOperator.ofSymbol? mark <;> simp [found] at start
  | identifier => simp [same, TermStart.ofKind?] at start
  | keyword word => simp [same, TermStart.ofKind?] at start
  | integer value => simp [same, TermStart.ofKind?] at start
  | string contents => simp [same, TermStart.ofKind?] at start

theorem identifier_of_ofKind? {token : Token} (start : TermStart.ofKind? token.kind = some .name) :
    token.isIdentifier := by
  cases same : token.kind with
  | identifier => simp [Token.isIdentifier, same]
  | symbol mark =>
    simp only [same, TermStart.ofKind?, TermStart.ofSymbol?] at start
    split at start
    · cases start
    · cases found : UnaryOperator.ofSymbol? mark <;> simp [found] at start
  | keyword word => simp [same, TermStart.ofKind?] at start
  | integer value => simp [same, TermStart.ofKind?] at start
  | string contents => simp [same, TermStart.ofKind?] at start

theorem qualifies_variable {token : Token} {entry : Variable}
    (found : names.qualifier? token.text = some entry) : (Name.use token entry).Qualifies names := by
  unfold Name.Qualifies
  rw [show (Name.use token entry).token.text = token.text from rfl, found]
  rfl

theorem qualifies_class {token : Token} (missing : names.qualifier? token.text = none) :
    (Name.mk token (.className false)).Qualifies names := by
  unfold Name.Qualifies
  rw [missing]

theorem typeIn_qualifier {qualifier : String} {entry : Variable}
    (found : names.qualifier? qualifier = some entry) : names.typeIn qualifier = entry.type := by
  unfold VariableTable.qualifier? at found
  split at found
  · cases found
  · simp [VariableTable.typeIn, found]

mutual

theorem term_reads (s : ParseState) (inside : s.Within names className) :
    s.term.Keeps (Passes none) s fun term s' =>
      s.Yields term.Grammatical (term.Resolved names)
        (.ofTokens term.tokens (term.code (names.context className))) s' := by
  rw [term]
  apply Keeps.bind (advance_reads s)
  intro token s₁ h₁ stays read
  have inside₁ := inside.reads read.1
  split
  · rename_i value start
    exact .done (stays.trans (.of_reads (reads_emit _ _) rfl))
      ⟨constant_of_ofKind? start, trivial, read.1.trans (reads_emit _ _)⟩
  · rename_i start
    refine .andThen stays (expression_reads s₁ inside₁) ?_
    intro inner s₂ h₂ yields
    refine .andThen (.refl _) (expectSymbol_reads s₂ ')') ?_
    intro closing s₃ h₃ seen
    obtain ⟨closes, read₃⟩ := seen
    refine .done (.refl _) ⟨⟨opens_of_ofKind? start, yields.grammatical, closes⟩, yields.resolved, ?_⟩
    refine (read.1.trans (yields.reads.trans read₃)).same ?_
    simp [Term.tokens, Term.code]
  · rename_i operator start
    refine .andThen stays (term_reads s₁ inside₁) ?_
    intro operand s₂ h₂ yields
    refine .done (.of_reads (reads_emit _ _) rfl) ⟨⟨start, yields.grammatical⟩, yields.resolved, ?_⟩
    refine (read.1.trans (yields.reads.trans (reads_emit _ _))).same ?_
    simp [Term.tokens, Term.code]
  · rename_i start
    exact .weaken (nameTerm_reads s s₁ token inside (identifier_of_ofKind? start) read)
  · exact .fail stays
termination_by 5 * s.remaining + 2
decreasing_by all_goals omega

/-- The name was read between `before` and `s`. -/
theorem nameTerm_reads (before s : ParseState) (token : Token)
    (inside : before.Within names className) (identifier : token.isIdentifier)
    (read : before.ReadsToken token s) :
    (s.nameTerm token).Keeps (Passes none) before fun term s' =>
      before.Yields term.Grammatical (term.Resolved names)
        (.ofTokens term.tokens (term.code (names.context className))) s' := by
  have here := inside.reads read.1
  have stays : Passes none before s := .of_reads read.1 rfl
  have uses : ∀ entry, s.resolve token = .ok entry → (Name.use token entry).Uses names := by
    intro entry found
    refine ⟨entry, ?_, rfl⟩
    rw [← here.names]
    exact resolve_ok found
  rw [nameTerm]
  refine .sight stays ?_
  intro next rest ahead
  split
  · rename_i opens
    refine .attempt stays ?_
    intro entry found
    have emits := reads_emit s [entry.push]
    refine .andThen (stays.trans (.of_reads emits rfl)) (advance_reads (s.emit [entry.push])) ?_
    rintro opening s₁ (h₁ : s₁.remaining < s.remaining) ⟨read₁, _⟩
    have same : opening = next := by
      have seen := read₁.ahead
      rw [show (s.emit [entry.push]).cursor = s.cursor from rfl, ahead] at seen
      exact (List.cons.inj seen).1.symm
    subst same
    refine .andThen (.refl _) (expression_reads s₁ ((here.reads emits).reads read₁)) ?_
    intro index s₂ h₂ yields
    refine .andThen (.refl _) (expectSymbol_reads s₂ ']') ?_
    intro closing s₃ h₃ seen
    obtain ⟨closes, read₃⟩ := seen
    refine .done (.of_reads (reads_emit _ _) rfl) ⟨⟨identifier, opens, yields.grammatical, closes⟩,
      ⟨uses entry found, yields.resolved⟩, ?_⟩
    refine (read.1.trans (emits.trans (read₁.trans
      (yields.reads.trans (read₃.trans (reads_emit _ _)))))).same ?_
    simp [Term.tokens, Term.code]
  · split
    · have behind : s.cursor.behind = token :: before.cursor.behind := read.1.behind
      refine .giveBack read.2 behind ?_
      intro h₁
      -- The token is in front again, so nothing was read since `before`.
      have back : before.Reads ⟨[], [], 0, []⟩
          { s with cursor := ⟨before.cursor.behind, token :: s.cursor.ahead, true⟩ } :=
        ⟨read.1.ahead, rfl, read.1.names, read.1.className, read.1.nextLabel, read.1.emitted⟩
      refine .andThen (.of_reads back rfl) (call_reads _ (inside.reads back)) ?_
      intro call s₂ h₂ yields
      exact .done (.refl _) ⟨yields.grammatical, yields.resolved, back.trans yields.reads⟩
    · refine .attempt stays ?_
      intro entry found
      refine .done (stays.trans (.of_reads (reads_emit _ _) rfl))
        ⟨identifier, uses entry found, (read.1.trans (reads_emit _ _)).same ?_⟩
      simp [Term.tokens, Term.code]
termination_by 5 * s.remaining + 6
decreasing_by all_goals first | omega | (simp only [remaining_emit] at *; omega)

theorem expression_reads (s : ParseState) (inside : s.Within names className) :
    s.expression.Keeps (Passes none) s fun value s' =>
      s.Yields value.Grammatical (value.Resolved names)
        (.ofTokens value.tokens (value.code (names.context className))) s' := by
  rw [expression]
  refine .andThen (.refl _) (term_reads s inside) ?_
  intro first s₁ h₁ yields
  exact .weaken (operations_reads s s₁ (.term first) inside yields)
termination_by 5 * s.remaining + 3
decreasing_by all_goals omega

theorem operations_reads (before s : ParseState) (left : Expression)
    (inside : before.Within names className)
    (yields : before.Yields left.Grammatical (left.Resolved names)
      (.ofTokens left.tokens (left.code (names.context className))) s) :
    (s.operations left).Keeps (Passes none) s fun value s' =>
      before.Yields value.Grammatical (value.Resolved names)
        (.ofTokens value.tokens (value.code (names.context className))) s' := by
  rw [operations]
  refine .sight (.refl _) ?_
  intro next rest ahead
  split
  · rename_i operator isOperator
    refine .andThen (.refl _) (advance_reads s) ?_
    intro token s₁ h₁ seen
    obtain ⟨read₁, _⟩ := seen
    have same : token = next := by
      have seen := read₁.ahead
      rw [ahead] at seen
      exact (List.cons.inj seen).1.symm
    subst same
    have inside₁ := (inside.reads yields.reads).reads read₁
    refine .andThen (.refl _) (term_reads s₁ inside₁) ?_
    intro right s₂ h₂ yields₂
    have emits := reads_emit s₂ [operator.code]
    refine .since (.of_reads emits rfl) (.weaken (operations_reads before _ _ inside ?_))
    refine ⟨⟨yields.grammatical, isOperator, yields₂.grammatical⟩,
      ⟨yields.resolved, yields₂.resolved⟩, ?_⟩
    refine (yields.reads.trans (read₁.trans (yields₂.reads.trans emits))).same ?_
    simp [Expression.tokens, Expression.code]
  · exact .done (.refl _) yields
termination_by 5 * s.remaining + 3
decreasing_by all_goals first | omega | (simp only [remaining_emit] at *; omega)

theorem call_reads (s : ParseState) (inside : s.Within names className) :
    s.call.Keeps (Passes none) s fun call s' =>
      s.Yields call.Grammatical (call.Resolved names)
        (.ofTokens call.tokens (call.code (names.context className))) s' := by
  rw [call]
  refine .andThen (.refl _) (expectIdentifier_reads s) ?_
  intro first s₁ h₁ seen
  obtain ⟨isName, read₁⟩ := seen
  have inside₁ := inside.reads read₁
  refine .sight (.refl _) ?_
  intro next rest ahead
  split
  · rename_i dots
    have qualified : s₁.qualifierVariable? first.text = names.qualifier? first.text := by
      rw [← inside₁.names]
      rfl
    split
    · rename_i missing
      rw [qualified] at missing
      refine .weaken (.mono (qualifiedCall_reads _ ⟨first, .className false⟩ first.text 0 inside₁ ?_) ?_)
      · intro token rest' ahead'
        rw [ahead] at ahead'
        exact (List.cons.inj ahead').1 ▸ dots
      · intro call s₂ seen
        obtain ⟨dot, subroutine, opening, arguments, closing, rfl, grammatical, resolved, reads⟩ := seen
        refine ⟨⟨isName, grammatical⟩, ⟨qualifies_class missing, resolved⟩, ?_⟩
        refine (read₁.trans reads).same ?_
        simp [Call.tokens, Call.code, VariableTable.context, Arguments.count_eq]
    · rename_i entry found
      rw [qualified] at found
      have emits := reads_emit s₁ [entry.push]
      refine .since (.of_reads emits rfl) (.weaken (.mono (qualifiedCall_reads _ (.use first entry)
        entry.type 1 (inside₁.reads emits) ?_) ?_))
      · intro token rest' ahead'
        rw [show (s₁.emit [entry.push]).cursor = s₁.cursor from rfl, ahead] at ahead'
        exact (List.cons.inj ahead').1 ▸ dots
      · intro call s₂ seen
        obtain ⟨dot, subroutine, opening, arguments, closing, rfl, grammatical, resolved, reads⟩ := seen
        refine ⟨⟨isName, grammatical⟩, ⟨qualifies_variable found, resolved⟩, ?_⟩
        refine (read₁.trans (emits.trans reads)).same ?_
        simp [Call.tokens, Call.code, VariableTable.context, typeIn_qualifier found,
          Arguments.count_eq]
  · have emits := reads_emit s₁ [.push .pointer 0]
    refine .andThen (.of_reads emits rfl) (expectSymbol_reads (s₁.emit [.push .pointer 0]) '(') ?_
    rintro opening s₂ (h₂ : s₂.remaining < s₁.remaining) ⟨opens, read₂⟩
    have inside₂ := (inside₁.reads emits).reads read₂
    refine .andThen (.refl _) (arguments_reads s₂ inside₂) ?_
    intro arguments s₃ h₃ yields
    refine .andThen (.refl _) (expectSymbol_reads s₃ ')') ?_
    intro closing s₄ h₄ seen
    obtain ⟨closes, read₄⟩ := seen
    have inside₄ := (inside₂.reads yields.reads).reads read₄
    refine .done (.of_reads (reads_emit _ _) rfl) ⟨⟨isName, opens, yields.grammatical, closes⟩,
      ⟨rfl, yields.resolved⟩, ?_⟩
    refine (read₁.trans (emits.trans (read₂.trans (yields.reads.trans
      (read₄.trans (reads_emit _ _)))))).same ?_
    simp [Call.tokens, Call.code, VariableTable.context, inside₄.className, Arguments.count_eq]
termination_by 5 * s.remaining
decreasing_by all_goals first | omega | (simp only [remaining_emit] at *; omega)

theorem qualifiedCall_reads (s : ParseState) (qualifier : Name) (target : String) (implicit : Nat)
    (inside : s.Within names className)
    (dots : ∀ token rest, s.cursor.ahead = token :: rest → token.isSymbol '.') :
    (s.qualifiedCall qualifier target implicit).Keeps (Passes none) s fun call s' =>
      ∃ dot subroutine opening arguments closing,
        call = .qualified qualifier dot subroutine opening arguments closing ∧
        (dot.isSymbol '.' ∧ subroutine.token.isIdentifier ∧ opening.isSymbol '(' ∧
          arguments.Grammatical ∧ closing.isSymbol ')') ∧
        (subroutine.resolution = .subroutine false ∧ arguments.Resolved names) ∧
        s.Reads (.ofTokens (dot :: subroutine.token :: opening :: (arguments.tokens ++ [closing]))
          (arguments.code (names.context className) ++
            [.call (target ++ "." ++ subroutine.token.text)
              (arguments.count + implicit).toUInt16])) s' := by
  rw [qualifiedCall]
  refine .andThen (.refl _) (advance_reads s) ?_
  intro dot s₁ h₁ seen
  obtain ⟨read₁, _⟩ := seen
  refine .andThen (.refl _) (expectIdentifier_reads s₁) ?_
  intro subroutine s₂ h₂ seen
  obtain ⟨isName, read₂⟩ := seen
  refine .andThen (.refl _) (expectSymbol_reads s₂ '(') ?_
  intro opening s₃ h₃ seen
  obtain ⟨opens, read₃⟩ := seen
  have inside₃ := ((inside.reads read₁).reads read₂).reads read₃
  refine .andThen (.refl _) (arguments_reads s₃ inside₃) ?_
  intro arguments s₄ h₄ yields
  refine .andThen (.refl _) (expectSymbol_reads s₄ ')') ?_
  intro closing s₅ h₅ seen
  obtain ⟨closes, read₅⟩ := seen
  refine .done (.of_reads (reads_emit _ _) rfl) ⟨dot, ⟨subroutine, .subroutine false⟩, opening,
    arguments, closing, rfl, ⟨dots _ _ read₁.ahead, isName, opens, yields.grammatical, closes⟩,
    ⟨rfl, yields.resolved⟩, ?_⟩
  refine (read₁.trans (read₂.trans (read₃.trans (yields.reads.trans
    (read₅.trans (reads_emit _ _)))))).same ?_
  simp
termination_by 5 * s.remaining
decreasing_by all_goals omega

theorem arguments_reads (s : ParseState) (inside : s.Within names className) :
    s.arguments.Keeps (Passes none) s fun arguments s' =>
      s.Yields arguments.Grammatical (arguments.Resolved names)
        (.ofTokens arguments.tokens (arguments.code (names.context className))) s' := by
  rw [arguments]
  refine .sight (.refl _) ?_
  intro next rest ahead
  split
  · exact .done (.refl _) ⟨trivial, trivial, reads_nothing s⟩
  · refine .andThen (.refl _) (expression_reads s inside) ?_
    intro value s₁ h₁ yields
    exact .weaken (moreArguments_reads s s₁ (.one value) inside nofun yields)
termination_by 5 * s.remaining + 4
decreasing_by all_goals omega

theorem moreArguments_reads (start s : ParseState) (before : Arguments)
    (inside : start.Within names className) (given : before ≠ .none)
    (yields : start.Yields before.Grammatical (before.Resolved names)
      (.ofTokens before.tokens (before.code (names.context className))) s) :
    (s.moreArguments before).Keeps (Passes none) s fun arguments s' =>
      start.Yields arguments.Grammatical (arguments.Resolved names)
        (.ofTokens arguments.tokens (arguments.code (names.context className))) s' := by
  rw [moreArguments]
  refine .sight (.refl _) ?_
  intro next rest ahead
  split
  · rename_i separates
    refine .andThen (.refl _) (advance_reads s) ?_
    intro comma s₁ h₁ seen
    obtain ⟨read₁, _⟩ := seen
    have same : comma = next := by
      have seen := read₁.ahead
      rw [ahead] at seen
      exact (List.cons.inj seen).1.symm
    subst same
    have inside₁ := (inside.reads yields.reads).reads read₁
    refine .andThen (.refl _) (expression_reads s₁ inside₁) ?_
    intro value s₂ h₂ yields₂
    refine .weaken (moreArguments_reads start s₂ _ inside nofun ?_)
    refine ⟨⟨given, yields.grammatical, separates, yields₂.grammatical⟩,
      ⟨yields.resolved, yields₂.resolved⟩, ?_⟩
    refine (yields.reads.trans (read₁.trans yields₂.reads)).same ?_
    simp [Arguments.tokens, Arguments.code]
  · exact .done (.refl _) yields
termination_by 5 * s.remaining + 4
decreasing_by all_goals omega

end

end ParseState

end Jack
