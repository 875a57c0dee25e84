import Jack.Proofs.Parse.Statement

namespace Jack

theorem GrammaticalNames.cons {name : Name} {comma : Token} {names : List (Name × Token)}
    (identifier : name.token.isIdentifier) (separates : comma.isSymbol ',')
    (later : GrammaticalNames names) : GrammaticalNames ((name, comma) :: names) := by
  cases names with
  | nil => exact absurd later id
  | cons next names => exact ⟨identifier, separates, later⟩

theorem GrammaticalParameters.cons {parameter : Parameter} {parameters : List Parameter}
    {comma : Token} (type : parameter.type.Grammatical) (identifier : parameter.name.token.isIdentifier)
    (separates : parameter.comma? = some comma ∧ comma.isSymbol ',') (nonempty : parameters ≠ [])
    (later : GrammaticalParameters parameters) : GrammaticalParameters (parameter :: parameters) := by
  cases parameters with
  | nil => exact absurd rfl nonempty
  | cons next parameters => exact ⟨type, identifier, ⟨comma, separates⟩, later⟩

theorem ofLocalKeyword?_eq {kind : LexemeKind} {found : VariableKind}
    (same : VariableKind.ofLocalKeyword? kind = some found) : found = .localVar := by
  unfold VariableKind.ofLocalKeyword? at same
  split at same <;> cases same
  rfl

namespace ParseState

open Step

variable {scope? : Option ScopeKind}

/-- Parts read one after the other, where every part keeps `invariant` and is related by `one` to the
states around it. -/
theorem many_keeps {α κ : Type} {select : LexemeKind → Option κ}
    {item : (s : ParseState) → κ → Step α s.remaining} {within : ParseState → ParseState → Prop}
    [IsTrans ParseState within] (invariant : ParseState → Prop)
    (one : α → ParseState → ParseState → Prop) (all : List α → ParseState → ParseState → Prop)
    (refl : ∀ s, within s s) (nil : ∀ s, all [] s s)
    (cons : ∀ part parts s s₁ s₂, one part s s₁ → all parts s₁ s₂ → all (part :: parts) s s₂)
    (kept : ∀ part s s₁, invariant s → one part s s₁ → invariant s₁)
    (reads : ∀ s choice token rest, invariant s → s.cursor.ahead = token :: rest →
      select token.kind = some choice → (item s choice).Keeps within s fun part s₁ => one part s s₁)
    (s : ParseState) (found : List α) (holds : invariant s) :
    (s.many select item found).Keeps within s fun parts s' =>
      ∃ new, parts = found.reverse ++ new ∧ all new s s' := by
  rw [many]
  refine .sight (refl s) ?_
  intro next rest ahead
  split
  · rename_i choice selected
    refine .andThen (refl s) (reads s choice next rest holds ahead selected) ?_
    intro part s₁ h₁ related
    refine .weaken (.mono (many_keeps invariant one all refl nil cons kept reads s₁ (part :: found)
      (kept part s s₁ holds related)) ?_)
    intro parts s' seen
    obtain ⟨new, rfl, later⟩ := seen
    exact ⟨part :: new, by simp, cons part new s s₁ s' related later⟩
  · exact .done (refl s) ⟨[], by simp, nil s⟩
termination_by s.remaining

theorem typeName_reads (s : ParseState) :
    s.typeName.Keeps (Passes scope?) s fun type s' =>
      s.Yields type.Grammatical type.Resolved (.ofToken type.token) s' := by
  unfold typeName
  refine .bind (advance_reads s) ?_
  intro token s₁ h₁ stays seen
  obtain ⟨read, _⟩ := seen
  split
  · rename_i builtin
    exact .done stays ⟨builtin, trivial, read⟩
  · split
    · rename_i identifier
      exact .done stays ⟨identifier, rfl, read⟩
    · exact .fail stays

theorem returnType_reads (s : ParseState) :
    s.returnType.Keeps (Passes scope?) s fun type s' =>
      s.Yields type.IsReturn type.Resolved (.ofToken type.token) s' := by
  unfold returnType
  refine .sight (.refl s) ?_
  intro next rest ahead
  split
  · rename_i isVoid
    refine .bind (advance_reads s) ?_
    intro token s₁ h₁ stays seen
    obtain ⟨read, _⟩ := seen
    have same : token = next := by
      have seen := read.ahead
      rw [ahead] at seen
      exact (List.cons.inj seen).1.symm
    exact .done stays ⟨.inl (same ▸ isVoid), trivial, read⟩
  · refine .mono (typeName_reads s) ?_
    intro type s' yields
    refine ⟨?_, yields.resolved, yields.reads⟩
    cases type with
    | builtin token => exact .inr yields.grammatical
    | className name => exact yields.grammatical

theorem newVariable_reads (s : ParseState) (type : String) (kind : VariableKind) :
    (s.newVariable type kind).Keeps (Passes (some kind.scope)) s fun name s' =>
      s.Yields name.token.isIdentifier
        (name.resolution = .ofVariable kind true (s.names.count kind))
        ⟨[name.token], [], 0, [⟨name.token.text, type, kind⟩]⟩ s' := by
  unfold newVariable
  refine .andThen (.refl _) (expectIdentifier_reads s) ?_
  intro token s₁ h₁ seen
  obtain ⟨identifier, read⟩ := seen
  have defines := reads_define s₁ token.text type kind
  have sameNames : s₁.names = s.names := read.names
  refine .done ⟨_, by simp, defines⟩ ⟨identifier, ?_, read.trans defines⟩
  rw [sameNames]

theorem newVariables_reads (s : ParseState) (type : String) (kind : VariableKind)
    (found : List (Name × Token)) :
    (s.newVariables type kind found).Keeps (Passes (some kind.scope)) s fun all s' =>
      ∃ new, all = found.reverse ++ new ∧
        s.Yields (GrammaticalNames new) (ResolvedNames type kind s.names new)
          ⟨nameTokens new, [], 0, declaredNames type kind new⟩ s' := by
  rw [newVariables]
  refine .andThen (.refl _) (newVariable_reads s type kind) ?_
  intro name s₁ h₁ yields₁
  refine .bind (advance_reads s₁) ?_
  intro separator s₂ h₂ stays seen
  obtain ⟨read₂, _⟩ := seen
  have upto := yields₁.reads.trans read₂
  have sameNames : s₂.names = s.names.define name.token.text type kind := upto.names
  split
  · rename_i isComma
    refine .since stays (.weaken (.mono (newVariables_reads s₂ type kind _) ?_))
    intro all s' seen
    obtain ⟨new, rfl, yields⟩ := seen
    refine ⟨(name, separator) :: new, by simp,
      GrammaticalNames.cons yields₁.grammatical isComma yields.grammatical,
      ⟨yields₁.resolved, sameNames ▸ yields.resolved⟩, ?_⟩
    apply (upto.trans yields.reads).same
    simp [nameTokens, declaredNames]
  · split
    · rename_i isSemicolon
      refine .done stays ⟨[(name, separator)], by simp, ⟨yields₁.grammatical, isSemicolon⟩,
        ⟨yields₁.resolved, trivial⟩, ?_⟩
      apply upto.same
      simp [nameTokens, declaredNames]
    · exact .fail stays
termination_by s.remaining

def YieldsDec (ofKeyword? : LexemeKind → Option VariableKind) (declaration : VariableDec)
    (s s' : ParseState) : Prop :=
  s.Yields (declaration.Grammatical ofKeyword?)
    (∀ kind, ofKeyword? declaration.keyword.kind = some kind → declaration.Resolved kind s.names)
    ⟨declaration.tokens, [], 0, declaration.declaredBy ofKeyword?⟩ s'

def YieldsDecs (ofKeyword? : LexemeKind → Option VariableKind) (declarations : List VariableDec)
    (s s' : ParseState) : Prop :=
  s.Yields (∀ declaration ∈ declarations, declaration.Grammatical ofKeyword?)
    (ResolvedDecs ofKeyword? s.names declarations)
    ⟨declarations.flatMap VariableDec.tokens, [], 0,
      declarations.flatMap (VariableDec.declaredBy ofKeyword?)⟩ s'

theorem YieldsDecs.cons {ofKeyword? : LexemeKind → Option VariableKind} (declaration : VariableDec)
    (declarations : List VariableDec) (s s₁ s₂ : ParseState)
    (first : YieldsDec ofKeyword? declaration s s₁) (later : YieldsDecs ofKeyword? declarations s₁ s₂) :
    YieldsDecs ofKeyword? (declaration :: declarations) s s₂ := by
  refine ⟨?_, ⟨first.resolved, ?_⟩, (first.reads.trans later.reads).same ?_⟩
  · intro other member
    rcases List.mem_cons.mp member with rfl | member
    · exact first.grammatical
    · exact later.grammatical other member
  · have resolved := later.resolved
    rw [first.reads.names] at resolved
    exact resolved
  · simp

theorem variableDec_reads (s : ParseState) {kind : VariableKind}
    {ofKeyword? : LexemeKind → Option VariableKind} {next : Token} {rest : List Token}
    (ahead : s.cursor.ahead = next :: rest) (selected : ofKeyword? next.kind = some kind) :
    (s.variableDec kind).Keeps (Passes (some kind.scope)) s fun declaration s' =>
      YieldsDec ofKeyword? declaration s s' := by
  unfold variableDec
  refine .andThen (.refl _) (advance_reads s) ?_
  intro keyword s₁ h₁ seen
  obtain ⟨read₁, _⟩ := seen
  have same : keyword = next := by
    have seen := read₁.ahead
    rw [ahead] at seen
    exact (List.cons.inj seen).1.symm
  subst same
  refine .andThen (.refl _) (typeName_reads s₁) ?_
  intro type s₂ h₂ yields₂
  have upto := read₁.trans yields₂.reads
  have sameNames : s₂.names = s.names := upto.names
  refine .andThen (.refl _) (newVariables_reads s₂ type.text kind []) ?_
  intro names s₃ h₃ seen
  obtain ⟨new, rfl, yields₃⟩ := seen
  refine .done (.refl _) ⟨⟨by rw [selected]; rfl, yields₂.grammatical, yields₃.grammatical⟩, ?_, ?_⟩
  · intro other sameKind
    rw [selected] at sameKind
    cases sameKind
    exact ⟨yields₂.resolved, sameNames ▸ yields₃.resolved⟩
  · apply (upto.trans yields₃.reads).same
    simp [VariableDec.tokens, VariableDec.declaredBy, VariableDec.declared, selected]

theorem variableDecs_reads (s : ParseState) {scope : ScopeKind}
    {ofKeyword? : LexemeKind → Option VariableKind}
    (ofScope : ∀ word kind, ofKeyword? word = some kind → kind.scope = scope) :
    (s.many ofKeyword? variableDec []).Keeps (Passes (some scope)) s fun declarations s' =>
      YieldsDecs ofKeyword? declarations s s' := by
  have reads : ∀ (s : ParseState) (kind : VariableKind) (token : Token) (rest : List Token), True →
      s.cursor.ahead = token :: rest → ofKeyword? token.kind = some kind →
      (s.variableDec kind).Keeps (Passes (some scope)) s fun declaration s' =>
        YieldsDec ofKeyword? declaration s s' := by
    intro s kind token rest _ ahead selected
    rw [← ofScope token.kind kind selected]
    exact variableDec_reads s ahead selected
  have nothing : ∀ s : ParseState, YieldsDecs ofKeyword? [] s s :=
    fun s => ⟨by simp, trivial, reads_nothing s⟩
  refine .mono (many_keeps (fun _ => True) _ _ Passes.refl nothing YieldsDecs.cons
    (fun _ _ _ _ _ => trivial) reads s [] trivial) ?_
  intro all s' seen
  obtain ⟨new, rfl, yields⟩ := seen
  exact yields

theorem moreParameters_reads (s : ParseState) (found : List Parameter) :
    (s.moreParameters found).Keeps (Passes (some .subroutineScope)) s fun all s' =>
      ∃ new, all = found.reverse ++ new ∧ new ≠ [] ∧
        s.Yields (GrammaticalParameters new) (ResolvedParameters s.names new)
          ⟨new.flatMap Parameter.tokens, [], 0, new.map Parameter.declared⟩ s' := by
  rw [moreParameters]
  refine .andThen (.refl _) (typeName_reads s) ?_
  intro type s₁ h₁ yields₁
  refine .andThen (.refl _) (newVariable_reads s₁ type.text .argument) ?_
  intro name s₂ h₂ yields₂
  have upto := yields₁.reads.trans yields₂.reads
  have sameNames : s₁.names = s.names := yields₁.reads.names
  have slot : name.resolution = .ofVariable .argument true (s.names.count .argument) :=
    sameNames ▸ yields₂.resolved
  refine .sight (.refl _) ?_
  intro next rest ahead
  split
  · rename_i isComma
    refine .bind (advance_reads s₂) ?_
    intro comma s₃ h₃ stays seen
    obtain ⟨read₃, _⟩ := seen
    have same : comma = next := by
      have seen := read₃.ahead
      rw [ahead] at seen
      exact (List.cons.inj seen).1.symm
    subst same
    have upto₃ := upto.trans read₃
    refine .since stays (.weaken (.mono (moreParameters_reads s₃ _) ?_))
    intro all s' seen
    obtain ⟨new, rfl, nonempty, yields⟩ := seen
    refine ⟨⟨type, name, some comma⟩ :: new, by simp, nofun,
      GrammaticalParameters.cons yields₁.grammatical yields₂.grammatical ⟨rfl, isComma⟩ nonempty
        yields.grammatical, ⟨yields₁.resolved, slot, ?_⟩, ?_⟩
    · have sameTable := upto₃.names
      exact sameTable ▸ yields.resolved
    · apply (upto₃.trans yields.reads).same
      simp [Parameter.tokens, Parameter.declared]
  · refine .done (.refl _) ⟨[⟨type, name, none⟩], by simp, nofun,
      ⟨yields₁.grammatical, yields₂.grammatical, rfl⟩, ⟨yields₁.resolved, slot, trivial⟩, ?_⟩
    apply upto.same
    simp [Parameter.tokens, Parameter.declared]
termination_by s.remaining

theorem parameters_reads (s : ParseState) :
    s.parameters.Keeps (Passes (some .subroutineScope)) s fun parameters s' =>
      s.Yields (GrammaticalParameters parameters) (ResolvedParameters s.names parameters)
        ⟨parameters.flatMap Parameter.tokens, [], 0, parameters.map Parameter.declared⟩ s' := by
  unfold parameters
  refine .sight (.refl _) ?_
  intro next rest ahead
  split
  · exact .done (.refl _) ⟨trivial, trivial, reads_nothing s⟩
  · refine .weaken (.mono (moreParameters_reads s []) ?_)
    intro all s' seen
    obtain ⟨new, rfl, _, yields⟩ := seen
    exact yields

end ParseState

end Jack
