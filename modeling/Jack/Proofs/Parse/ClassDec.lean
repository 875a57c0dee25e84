import Jack.Proofs.Parse.Declaration

namespace Jack

def codeUnder (names : VariableTable) (className functionName : String) (kind : SubroutineKind)
    (statements : List Statement) : List Instruction :=
  .function functionName (names.count .localVar) :: (kind.prologue (names.count .field) ++
    codeOfAll (names.context className) 0 statements)

namespace Subroutine

def codeIn (className : String) (names : VariableTable) (subroutine : Subroutine) :
    List Instruction :=
  codeUnder (subroutine.table className names) className
    (className ++ "." ++ subroutine.name.token.text) subroutine.kind subroutine.body.statements

end Subroutine

namespace ParseState

open Step

theorem subroutineBody_reads (s : ParseState) (kind : SubroutineKind) (functionName : String)
    (fresh : s.nextLabel = 0) :
    (s.subroutineBody kind functionName).Keeps (Passes (some .subroutineScope)) s fun body s' =>
      let locals := body.locals.flatMap (VariableDec.declaredBy VariableKind.ofLocalKeyword?)
      s.Yields body.Grammatical
        (ResolvedDecs VariableKind.ofLocalKeyword? s.names body.locals ∧
          ResolvedAll (s.names.declare locals) body.statements)
        ⟨body.tokens, codeUnder (s.names.declare locals) s.className functionName kind body.statements,
          branchesOfAll body.statements, locals⟩ s' := by
  have localScope : ∀ word kind, VariableKind.ofLocalKeyword? word = some kind →
      kind.scope = .subroutineScope := by
    intro word kind same
    rw [ofLocalKeyword?_eq same]
    rfl
  unfold subroutineBody
  refine .andThen (.refl _) (expectSymbol_reads s '{') ?_
  intro opening s₁ h₁ seen
  obtain ⟨opens, read₁⟩ := seen
  have sameNames : s₁.names = s.names := read₁.names
  refine .andThen (.refl _) (variableDecs_reads s₁ localScope) ?_
  intro locals s₂ h₂ yields₂
  have upto := read₁.trans yields₂.reads
  have emits := reads_emit s₂ (.function functionName (s₂.names.count .localVar) ::
    kind.prologue (s₂.names.count .field))
  have named : s₂.names = s.names.declare
      (locals.flatMap (VariableDec.declaredBy VariableKind.ofLocalKeyword?)) := upto.names
  have numbered : s₂.nextLabel = 0 := by simpa [fresh] using upto.nextLabel
  have inside : ∀ code, (s₂.emit code).Within s₂.names s.className :=
    fun code => ⟨rfl, upto.className⟩
  refine .andThen (.of_reads emits rfl)
    ((statements_reads _ (inside _)).wider fun _ _ => Passes.of_none) ?_
  intro statements s₃ h₃ yields₃
  refine .andThen (.refl _) (expectSymbol_reads s₃ '}') ?_
  intro closing s₄ h₄ seen
  obtain ⟨closes, read₄⟩ := seen
  refine .done (.refl _) ⟨⟨opens, yields₂.grammatical, yields₃.grammatical, closes⟩,
    ⟨sameNames ▸ yields₂.resolved, named ▸ yields₃.resolved⟩, ?_⟩
  apply (upto.trans (emits.trans (yields₃.reads.trans read₄))).same
  simp [codeUnder, named, numbered, SubroutineBody.tokens, passageOfAll]

/-- Tokens are read and code is added, and the class keeps its name and its variables. -/
structure InClass (tokens : List Token) (code : List Instruction) (s s' : ParseState) : Prop where
  ahead : s.cursor.ahead = tokens ++ s'.cursor.ahead
  behind : s'.cursor.behind = tokens.reverse ++ s.cursor.behind
  className : s'.className = s.className
  classScope : s'.names.classScope = s.names.classScope
  emitted : s'.instructions = s.instructions ++ code

def StaysInClass (s s' : ParseState) : Prop :=
  ∃ tokens code, InClass tokens code s s'

theorem InClass.trans {s s₁ s₂ : ParseState} {tokens later : List Token}
    {code laterCode : List Instruction} (first : InClass tokens code s s₁)
    (rest : InClass later laterCode s₁ s₂) : InClass (tokens ++ later) (code ++ laterCode) s s₂ := by
  refine ⟨?_, ?_, ?_, ?_, ?_⟩
  · rw [first.ahead, rest.ahead, List.append_assoc]
  · rw [rest.behind, first.behind, List.reverse_append, List.append_assoc]
  · rw [rest.className, first.className]
  · rw [rest.classScope, first.classScope]
  · rw [rest.emitted, first.emitted, List.append_assoc]

theorem InClass.same {s s' : ParseState} {tokens others : List Token} {code other : List Instruction}
    (inside : InClass tokens code s s') (sameTokens : tokens = others) (sameCode : code = other) :
    InClass others other s s' := by
  subst sameTokens sameCode
  exact inside

theorem inClass_nothing (s : ParseState) : InClass [] [] s s :=
  ⟨rfl, rfl, rfl, rfl, (List.append_nil _).symm⟩

theorem StaysInClass.refl (s : ParseState) : StaysInClass s s :=
  ⟨[], [], inClass_nothing s⟩

instance : IsTrans ParseState StaysInClass :=
  ⟨fun _ _ _ ⟨_, _, first⟩ ⟨_, _, later⟩ => ⟨_, _, first.trans later⟩⟩

theorem classScope_declare (names : VariableTable) (declarations : List Declaration)
    (only : ∀ new ∈ declarations, new.kind.scope = .subroutineScope) :
    (names.declare declarations).classScope = names.classScope := by
  induction declarations generalizing names with
  | nil => rfl
  | cons new later ih =>
    have first : (names.define new.name new.type new.kind).classScope = names.classScope := by
      unfold VariableTable.define
      rw [only new (by simp)]
    rw [← first]
    exact ih _ fun other member => only other (List.mem_cons_of_mem _ member)

theorem Reads.inClass {s s' : ParseState} {passage : Passage} (reads : s.Reads passage s')
    (only : ∀ new ∈ passage.declared, new.kind.scope = .subroutineScope) :
    InClass passage.tokens passage.code s s' := by
  refine ⟨reads.ahead, reads.behind, reads.className, ?_, reads.emitted⟩
  rw [reads.names, classScope_declare _ _ only]

theorem Passes.inClass {s s' : ParseState} (passes : Passes (some .subroutineScope) s s') :
    StaysInClass s s' := by
  obtain ⟨passage, only, reads⟩ := passes
  exact ⟨_, _, reads.inClass fun new member => (Option.some.inj (only new member)).symm⟩

theorem inClass_enterSubroutine (s : ParseState) (kind : SubroutineKind) :
    InClass [] [] s (s.enterSubroutine kind) := by
  cases kind <;> exact ⟨rfl, rfl, rfl, rfl, (List.append_nil _).symm⟩

theorem names_enterSubroutine (s : ParseState) (kind : SubroutineKind) :
    (s.enterSubroutine kind).names =
      s.names.startSubroutine.declare (kind.declared s.className) := by
  cases kind <;> rfl

theorem startSubroutine_congr {names others : VariableTable}
    (same : names.classScope = others.classScope) : names.startSubroutine = others.startSubroutine := by
  simp [VariableTable.startSubroutine, same]

theorem nextLabel_enterSubroutine (s : ParseState) (kind : SubroutineKind) :
    (s.enterSubroutine kind).nextLabel = 0 := by
  cases kind <;> rfl

theorem scope_of_locals {locals : List VariableDec} {new : Declaration}
    (member : new ∈ locals.flatMap (VariableDec.declaredBy VariableKind.ofLocalKeyword?)) :
    new.kind = .localVar := by
  simp only [List.mem_flatMap, VariableDec.declaredBy, VariableDec.declared, declaredNames,
    List.mem_map, Option.mem_toList] at member
  obtain ⟨declaration, _, kind, same, name, _, rfl⟩ := member
  exact ofLocalKeyword?_eq same

def YieldsSubroutine (subroutine : Subroutine) (s s' : ParseState) : Prop :=
  subroutine.Grammatical ∧ subroutine.Resolved s.className s.names ∧
    InClass subroutine.tokens (subroutine.codeIn s.className s.names) s s'

theorem subroutine_reads (s : ParseState) {kind : SubroutineKind} {next : Token} {rest : List Token}
    (ahead : s.cursor.ahead = next :: rest) (selected : SubroutineKind.ofKind? next.kind = some kind) :
    (s.subroutine kind).Keeps StaysInClass s fun subroutine s' => YieldsSubroutine subroutine s s' := by
  unfold subroutine
  refine .andThen (.refl _) ((advance_reads s).wider fun _ _ => Passes.inClass) ?_
  intro keyword s₁ h₁ seen
  obtain ⟨read₁, _⟩ := seen
  have same : keyword = next := by
    have seen := read₁.ahead
    rw [ahead] at seen
    exact (List.cons.inj seen).1.symm
  subst same
  have begins := (read₁.inClass (by simp)).trans (inClass_enterSubroutine s₁ kind)
  -- A method declares its object before any parameter, in a table that the last subroutine left empty.
  have object : (s₁.enterSubroutine kind).names =
      s.names.startSubroutine.declare (kind.declared s.className) := by
    rw [names_enterSubroutine, read₁.names, read₁.className]
    rfl
  refine .andThen ⟨_, _, inClass_enterSubroutine s₁ kind⟩
    ((returnType_reads (s₁.enterSubroutine kind)).wider fun _ _ => Passes.inClass) ?_
  intro type s₂ h₂ yields₂
  refine .andThen (.refl _) ((expectIdentifier_reads s₂).wider fun _ _ => Passes.inClass) ?_
  intro name s₃ h₃ seen
  obtain ⟨isName, read₃⟩ := seen
  refine .andThen (.refl _) ((expectSymbol_reads s₃ '(').wider fun _ _ => Passes.inClass) ?_
  intro opening s₄ h₄ seen
  obtain ⟨opens, read₄⟩ := seen
  have upto₄ := yields₂.reads.trans (read₃.trans read₄)
  have sameNames : s₄.names = (s₁.enterSubroutine kind).names := upto₄.names
  refine .andThen (.refl _) ((parameters_reads s₄).wider fun _ _ => Passes.inClass) ?_
  intro parameters s₅ h₅ yields₅
  refine .andThen (.refl _) ((expectSymbol_reads s₅ ')').wider fun _ _ => Passes.inClass) ?_
  intro closing s₆ h₆ seen
  obtain ⟨closes, read₆⟩ := seen
  have upto₆ := upto₄.trans (yields₅.reads.trans read₆)
  have named : s₆.names = (s.names.startSubroutine.declare (kind.declared s.className)).declare
      (parameters.map Parameter.declared) := by
    rw [upto₆.names, object]
    simp
  have called : s₆.className = s.className := by
    rw [upto₆.className, begins.className]
  have called₃ : s₃.className = s.className := by
    rw [read₃.className, yields₂.reads.className, begins.className]
  -- The numbers of labels begin again here, so the code does not depend on the subroutines before.
  have fresh : s₆.nextLabel = 0 := by
    rw [upto₆.nextLabel, nextLabel_enterSubroutine]
    simp
  refine .andThen (.refl _)
    ((subroutineBody_reads s₆ kind (s₃.className ++ "." ++ name.text) fresh).wider
      fun _ _ => Passes.inClass) ?_
  intro body s₇ h₇ yields₇
  have table : (s₆.names.declare (body.locals.flatMap
      (VariableDec.declaredBy VariableKind.ofLocalKeyword?))) =
      s.names.startSubroutine.declare (kind.declared s.className ++
        (parameters.map Parameter.declared ++
          body.locals.flatMap (VariableDec.declaredBy VariableKind.ofLocalKeyword?))) := by
    rw [named]
    simp
  obtain ⟨locals, statements⟩ := yields₇.resolved
  refine .done (.refl _) ⟨⟨selected, yields₂.grammatical, isName, opens, yields₅.grammatical, closes,
    yields₇.grammatical⟩, ⟨yields₂.resolved, rfl, ?_, ?_, ?_⟩, ?_⟩
  · rw [← object, ← sameNames]
    exact yields₅.resolved
  · rw [← named]
    exact locals
  · rw [table] at statements
    exact statements
  · have inside := begins.trans ((upto₆.trans yields₇.reads).inClass ?_)
    · refine inside.same ?_ ?_
      · simp [Subroutine.tokens]
      · simp [Subroutine.codeIn, Subroutine.table, Subroutine.declared, named, called, called₃]
    · intro new member
      simp only [Passage.declared_append, Passage.ofToken, List.nil_append, List.append_nil] at member
      rcases List.mem_append.mp member with member | member
      · obtain ⟨parameter, _, rfl⟩ := List.mem_map.mp member
        rfl
      · rw [scope_of_locals member]
        rfl

/-- The subroutines see the class as it was at the first of them. -/
def YieldsSubroutines (subroutines : List Subroutine) (s s' : ParseState) : Prop :=
  (∀ subroutine ∈ subroutines,
    subroutine.Grammatical ∧ subroutine.Resolved s.className s.names) ∧
    InClass (subroutines.flatMap Subroutine.tokens)
      (subroutines.flatMap (Subroutine.codeIn s.className s.names)) s s'

theorem YieldsSubroutines.cons (subroutine : Subroutine) (subroutines : List Subroutine)
    (s s₁ s₂ : ParseState) (first : YieldsSubroutine subroutine s s₁)
    (later : YieldsSubroutines subroutines s₁ s₂) :
    YieldsSubroutines (subroutine :: subroutines) s s₂ := by
  obtain ⟨grammatical, resolved, inside⟩ := first
  obtain ⟨parts, inside'⟩ := later
  have fresh : s₁.names.startSubroutine = s.names.startSubroutine :=
    startSubroutine_congr inside.classScope
  have code : Subroutine.codeIn s₁.className s₁.names = Subroutine.codeIn s.className s.names := by
    funext other
    simp only [Subroutine.codeIn, Subroutine.table, fresh, inside.className]
  refine ⟨?_, (inside.trans inside').same (by simp) (by simp [code])⟩
  intro other member
  rcases List.mem_cons.mp member with rfl | member
  · exact ⟨grammatical, resolved⟩
  · obtain ⟨grammatical', resolved'⟩ := parts other member
    refine ⟨grammatical', ?_⟩
    simpa only [Subroutine.Resolved, Subroutine.table, fresh, inside.className] using resolved'

structure YieldsClass (s : ParseState) (declaration : ClassDec) (s' : ParseState) : Prop where
  grammatical : declaration.Grammatical
  resolved : declaration.Resolved
  ahead : s.cursor.ahead = declaration.tokens ++ s'.cursor.ahead
  behind : s'.cursor.behind = declaration.tokens.reverse ++ s.cursor.behind
  className : s'.className = declaration.name.token.text
  classScope : s'.names.classScope = declaration.table.classScope
  emitted : s'.instructions = s.instructions ++
    declaration.subroutines.flatMap (Subroutine.codeIn declaration.name.token.text declaration.table)

theorem classScope_ofClassKeyword? (word : LexemeKind) (kind : VariableKind)
    (same : VariableKind.ofClassKeyword? word = some kind) : kind.scope = .classScope := by
  unfold VariableKind.ofClassKeyword? at same
  split at same <;> cases same <;> rfl

def Anywhere (_ _ : ParseState) : Prop := True

instance : IsTrans ParseState Anywhere :=
  ⟨fun _ _ _ _ _ => trivial⟩

theorem anywhere {s s' : ParseState} (_ : Passes none s s') : Anywhere s s' :=
  trivial

theorem classDec_reads (s : ParseState) (start : s.names = .empty) :
    s.classDec.Keeps Anywhere s fun declaration s' => s.YieldsClass declaration s' := by
  unfold classDec
  refine .andThen trivial ((expectKeyword_reads s .classKw).wider fun _ _ => anywhere) ?_
  intro keyword s₁ h₁ seen
  obtain ⟨isClass, read₁⟩ := seen
  refine .andThen trivial ((expectIdentifier_reads s₁).wider fun _ _ => anywhere) ?_
  intro name s₂ h₂ seen
  obtain ⟨isName, read₂⟩ := seen
  refine .andThen trivial ((expectSymbol_reads (s₂.setClassName name.text) '{').wider
    fun _ _ => anywhere) ?_
  intro opening s₃ h₃ seen
  obtain ⟨opens, read₃⟩ := seen
  have empty : s₃.names = .empty := by
    have same : s₃.names = s.names := read₃.names.trans (read₂.names.trans read₁.names)
    rw [same, start]
  refine .andThen trivial
    ((variableDecs_reads s₃ classScope_ofClassKeyword?).wider fun _ _ _ => trivial) ?_
  intro declarations s₄ h₄ yields₄
  have table : s₄.names = VariableTable.empty.declare
      (declarations.flatMap (VariableDec.declaredBy VariableKind.ofClassKeyword?)) := by
    rw [yields₄.reads.names, empty]
  have called : s₄.className = name.text := by
    rw [yields₄.reads.className, read₃.className]
    rfl
  have nothing : ∀ s : ParseState, YieldsSubroutines [] s s :=
    fun s => ⟨by simp, inClass_nothing s⟩
  have reads : ∀ (s : ParseState) (kind : SubroutineKind) (token : Token) (rest : List Token), True →
      s.cursor.ahead = token :: rest → SubroutineKind.ofKind? token.kind = some kind →
      (s.subroutine kind).Keeps StaysInClass s fun subroutine s' => YieldsSubroutine subroutine s s' :=
    fun s kind token rest _ => subroutine_reads s
  refine .andThen trivial ((many_keeps (fun _ => True) _ _ StaysInClass.refl nothing
    YieldsSubroutines.cons (fun _ _ _ _ _ => trivial) reads s₄ [] trivial).wider fun _ _ _ => trivial) ?_
  intro all s₅ h₅ seen
  obtain ⟨subroutines, rfl, parts, inside⟩ := seen
  refine .andThen trivial ((expectSymbol_reads s₅ '}').wider fun _ _ => anywhere) ?_
  intro closing s₆ h₆ seen
  obtain ⟨closes, read₆⟩ := seen
  refine .done trivial ⟨⟨isClass, isName, opens, yields₄.grammatical, ?_, closes⟩,
    ⟨rfl, empty ▸ yields₄.resolved, ?_⟩, ?_, ?_, ?_, ?_, ?_⟩
  · exact fun subroutine member => (parts subroutine member).1
  · intro subroutine member
    have resolved := (parts subroutine member).2
    rw [called, table] at resolved
    exact resolved
  · have ahead₃ := read₃.ahead
    rw [show (s₂.setClassName name.text).cursor = s₂.cursor from rfl] at ahead₃
    rw [read₁.ahead, read₂.ahead, ahead₃, yields₄.reads.ahead, inside.ahead, read₆.ahead]
    simp [ClassDec.tokens]
  · have behind₃ := read₃.behind
    rw [show (s₂.setClassName name.text).cursor = s₂.cursor from rfl] at behind₃
    rw [read₆.behind, inside.behind, yields₄.reads.behind, behind₃, read₂.behind, read₁.behind]
    simp [ClassDec.tokens]
  · rw [read₆.className, inside.className, called]
  · have last : s₆.names = s₅.names := read₆.names
    rw [last, inside.classScope, table]
    rfl
  · have emitted₃ := read₃.emitted
    rw [show (s₂.setClassName name.text).instructions = s₂.instructions from rfl] at emitted₃
    rw [read₆.emitted, inside.emitted, yields₄.reads.emitted, emitted₃, read₂.emitted, read₁.emitted,
      called, table]
    simp
    rfl

theorem unit_reads (s : ParseState) (start : s.names = .empty) :
    s.unit.Keeps Anywhere s fun declaration s' =>
      s.YieldsClass declaration s' ∧ s'.cursor.ahead = [] := by
  unfold unit
  refine .bind (classDec_reads s start) ?_
  intro declaration s₁ h₁ stays yields
  split
  · rename_i ends
    exact .done trivial ⟨yields, ends⟩
  · exact .fail trivial

end ParseState

end Jack
