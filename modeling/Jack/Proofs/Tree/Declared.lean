import Jack.Proofs.Tree.Generated
import Jack.Proofs.Variable.Slot

namespace Jack

def Declaration.told (declaration : Declaration) : DeclaredName :=
  ⟨some (.ofVariable declaration.kind), declaration.name, declaration.type⟩

theorem Category.ofVariable_inj {kind other : VariableKind} :
    Category.ofVariable kind = .ofVariable other ↔ kind = other := by
  cases kind <;> cases other <;> decide

namespace Log

variable {log : Log} {kind : VariableKind} {name : String}

theorem type_latest? : (log.latest? kind name).map (·.type) =
    (log.find? fun new => new.kind = kind ∧ new.name = name).map (·.type) := by
  induction log with
  | nil => rfl
  | cons new older ih =>
    unfold latest?
    by_cases same : new.kind = kind ∧ new.name = name
    · simp [same]
    · rw [if_neg same, ih, List.find?_cons_of_neg (by simpa using same)]

end Log

namespace Node

theorem declares_name {name : Name} {kind : VariableKind} {index : UInt16}
    (told : name.resolution = .ofVariable kind true index) (type : String) :
    name.leaf.declaredAs type = Declaration.told ⟨name.token.text, type, kind⟩ := by
  rw [Leaf.declaredAs, Name.leaf, told]
  rfl

theorem declaredNames_cons {name : Name} {kind : VariableKind} {index : UInt16}
    (told : name.resolution = .ofVariable kind true index) (type : String) (separator : Token)
    (later : List Node) :
    declaredNames type (name.node :: .token separator :: later) =
      Declaration.told ⟨name.token.text, type, kind⟩ :: declaredNames type later := by
  rw [← declares_name told]
  obtain ⟨token, resolution⟩ := name
  subst told
  rfl

theorem declaredNames_eq {names : VariableTable} {type : String} {kind : VariableKind}
    {list : List (Name × Token)} (resolved : ResolvedNames type kind names list) :
    declaredNames type (list.flatMap fun (name, separator) => [name.node, .token separator]) =
      (Jack.declaredNames type kind list).map Declaration.told := by
  induction list generalizing names with
  | nil => rfl
  | cons pair later ih =>
    obtain ⟨told, resolved⟩ := resolved
    exact (declaredNames_cons told type pair.2 _).trans (congrArg _ (ih resolved))

theorem declaredBy_variableDec {names : VariableTable} {kind : VariableKind} {production : Production}
    (isDec : production = .classVarDec ∨ production = .varDec) {declaration : VariableDec}
    (resolved : declaration.Resolved kind names) :
    (declaration.node production).declaredBy = (declaration.declared kind).map Declaration.told := by
  obtain ⟨leaf, isLeaf, text⟩ : ∃ leaf, declaration.type.node = .leaf leaf ∧
      leaf.token.text = declaration.type.text := by
    cases declaration.type <;> exact ⟨_, rfl, rfl⟩
  rw [VariableDec.node, isLeaf, VariableDec.declared, ← declaredNames_eq resolved.2, ← text]
  rcases isDec with rfl | rfl <;> rfl

theorem declaredBy_variableDecs {ofKeyword? : LexemeKind → Option VariableKind}
    {names : VariableTable} {production : Production}
    (isDec : production = .classVarDec ∨ production = .varDec) {declarations : List VariableDec}
    (grammatical : ∀ declaration ∈ declarations, declaration.Grammatical ofKeyword?)
    (resolved : ResolvedDecs ofKeyword? names declarations) :
    (declarations.map (VariableDec.node production)).flatMap declaredBy =
      (declarations.flatMap (VariableDec.declaredBy ofKeyword?)).map Declaration.told := by
  induction declarations generalizing names with
  | nil => rfl
  | cons declaration later ih =>
    obtain ⟨kind, same⟩ := Option.isSome_iff_exists.mp (grammatical declaration (by simp)).1
    rw [List.map_cons, List.flatMap_cons, List.flatMap_cons, List.map_append,
      declaredBy_variableDec isDec (resolved.1 kind same), VariableDec.declaredBy_eq same,
      ih (fun other member => grammatical other (List.mem_cons_of_mem _ member)) resolved.2]

theorem declaredParameters_eq {names : VariableTable} {parameters : List Parameter}
    (grammatical : GrammaticalParameters parameters) (resolved : ResolvedParameters names parameters) :
    declaredParameters (parameters.flatMap Parameter.nodes) =
      (parameters.map Parameter.declared).map Declaration.told := by
  induction parameters generalizing names with
  | nil => rfl
  | cons parameter later ih =>
    obtain ⟨_, told, resolved⟩ := resolved
    obtain ⟨leaf, isLeaf, text⟩ : ∃ leaf, parameter.type.node = .leaf leaf ∧
        leaf.token.text = parameter.type.text := by
      cases parameter.type <;> exact ⟨_, rfl, rfl⟩
    have first : parameter.name.leaf.declaredAs leaf.token.text = parameter.declared.told := by
      rw [declares_name told, text]
      rfl
    cases later with
    | nil =>
      obtain ⟨_, _, alone⟩ := grammatical
      simp [Parameter.nodes, Name.node_eq, alone, isLeaf, declaredParameters, first]
    | cons next later =>
      obtain ⟨_, _, ⟨comma, between, _⟩, grammatical⟩ := grammatical
      rw [List.flatMap_cons, Parameter.nodes, between, isLeaf, List.map_cons, List.map_cons,
        ← ih grammatical resolved, ← first]
      rfl

end Node

theorem SubroutineBody.children_node (body : SubroutineBody) :
    body.node.children = .token body.opening :: (body.locals.map (VariableDec.node .varDec) ++
      [.branch .statements (statementNodes body.statements), .token body.closing]) := rfl

namespace Node

theorem declaredBy_body {names : VariableTable} {body : SubroutineBody}
    (grammatical : body.Grammatical)
    (resolved : ResolvedDecs VariableKind.ofLocalKeyword? names body.locals) :
    body.node.children.flatMap declaredBy =
      (body.locals.flatMap (VariableDec.declaredBy VariableKind.ofLocalKeyword?)).map
        Declaration.told := by
  rw [body.children_node, List.flatMap_cons, List.flatMap_append,
    declaredBy_variableDecs (.inr rfl) grammatical.2.1 resolved]
  exact List.append_nil _

theorem code_body {around : Surroundings} {context : Context} {names : VariableTable}
    (suits : around.Suits context names) {body : SubroutineBody} (grammatical : body.Grammatical)
    (resolved : ResolvedAll names body.statements) :
    body.node.children.flatMap (code around 0) = codeOfAll context 0 body.statements := by
  have locals : (body.locals.map (VariableDec.node .varDec)).flatMap (code around 0) = [] := by
    simp [VariableDec.node, code]
  rw [← code_statements suits 0 _ grammatical.2.2.1 resolved, body.children_node, List.flatMap_cons,
    List.flatMap_append, locals]
  simp [code]

end Node

/-- What the text of a subroutine declares, which leaves out the object of a method. -/
def Subroutine.written (subroutine : Subroutine) : List Declaration :=
  subroutine.parameters.map Parameter.declared ++
    subroutine.body.locals.flatMap (VariableDec.declaredBy VariableKind.ofLocalKeyword?)

namespace Surroundings

theorem count_told (className : String) (declarations : List Declaration) (kind : VariableKind) :
    count ⟨className, declarations.map Declaration.told⟩ (.ofVariable kind) =
      Log.count declarations.reverse kind := by
  have names : ((declarations.map Declaration.told).filter
      (·.category? = some (.ofVariable kind))).map (·.name) = Log.names declarations kind := by
    rw [List.filter_map, List.map_map]
    simp only [Function.comp_def, Declaration.told, Option.some.injEq, Category.ofVariable_inj]
    rfl
  rw [count, names, Log.count, Log.names_reverse, List.toFinset_reverse, List.card_toFinset]

theorem typeOf_told (className : String) (declarations : List Declaration) {name : Name}
    {entry : Variable} (same : name = .use name.token entry) :
    typeOf ⟨className, declarations.map Declaration.told⟩ name.leaf =
      ((declarations.reverse.find? fun new =>
        new.kind = entry.kind ∧ new.name = name.token.text).map (·.type)).getD "" := by
  have category : name.leaf.category? = some (.ofVariable entry.kind) := by
    rw [same]
    rfl
  rw [typeOf, category, ← List.map_reverse, List.find?_map, Option.map_map]
  simp only [Function.comp_def, Declaration.told, Option.some.injEq, Category.ofVariable_inj]
  rfl

end Surroundings

namespace Node

@[simp] theorem branching_type (type : TypeName) : type.node.branching = [] := by
  cases type <;> rfl

theorem branching_names (names : List (Name × Token)) :
    branchingOfAll (names.flatMap fun (name, separator) => [name.node, .token separator]) = [] := by
  induction names with
  | nil => rfl
  | cons pair later ih => exact ih

theorem branching_variableDecs (declarations : List VariableDec) :
    branchingOfAll (declarations.map (VariableDec.node .varDec)) = [] := by
  induction declarations with
  | nil => rfl
  | cons declaration later ih =>
    have names := branching_names declaration.names
    simp only [List.map_cons, VariableDec.node, branchingOfAll, branching, branching_token,
      branching_type, names, List.append_nil, List.nil_append]
    exact ih

theorem branching_parameters (parameters : List Parameter) :
    branchingOfAll (parameters.flatMap Parameter.nodes) = [] := by
  induction parameters with
  | nil => rfl
  | cons parameter later ih =>
    have comma : branchingOfAll (parameter.comma?.map Node.token).toList = [] := by
      cases parameter.comma? <;> rfl
    rw [List.flatMap_cons, branchingOfAll_append, ih, List.append_nil]
    simp [Parameter.nodes, branchingOfAll, comma]

theorem branching_subroutine (subroutine : Subroutine) :
    subroutine.node.branching = branchingOfAll (statementNodes subroutine.body.statements) := by
  simp [Subroutine.node, SubroutineBody.node, branching, branchingOfAll, branchingOfAll_append,
    branching_parameters, branching_variableDecs]

end Node

end Jack
