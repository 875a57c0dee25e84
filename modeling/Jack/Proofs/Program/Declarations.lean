import Jack.Proofs.Accepted
import Jack.Proofs.Program.Fit

namespace Jack

variable {later : List Node} {annotated : List Annotated} {declaring : List Token}

namespace TypeName

variable {type : TypeName}

theorem fit (grammatical : type.Grammatical) (resolved : type.Resolved)
    (rest : Fit later annotated declaring) :
    Fit (type.node :: later) (type.annotated :: annotated) declaring := by
  cases type with
  | builtin token => exact .other grammatical nofun rest
  | className name => exact .className grammatical resolved rest

theorem fit_return (returns : type.IsReturn) (resolved : type.Resolved)
    (rest : Fit later annotated declaring) :
    Fit (type.node :: later) (type.annotated :: annotated) declaring := by
  cases type with
  | builtin token =>
    rcases returns with isVoid | isType
    · exact .keyword isVoid rest
    · exact .other isType nofun rest
  | className name => exact .className returns resolved rest

end TypeName

section

variable {group : Group} {log : Log} {hidden : List String} {names : VariableTable} {name : Name}

theorem Group.Within.declare (within : group.Within log hidden) (isName : name.token.isIdentifier)
    (type : String) :
    (group.declare name.token.text).Within (⟨name.token.text, type, group.kind⟩ :: log) hidden := by
  refine ⟨?_, within.offset, within.object, ?_⟩
  · rw [Group.declare, Log.names_cons_same, within.names, List.cons_append]
  · intro member
    rcases List.mem_cons.mp member with same | member
    · exact Token.text_ne_this isName same.symm
    · exact within.written member

theorem Group.Within.toNat_count (within : group.Within log hidden) (records : names.Records log)
    (few : group.names.length < 65535) : (names.count group.kind).toNat = group.next := by
  have small : group.next < 65536 := within.next_lt few
  rw [records.count, within.count]
  exact UInt16.toNat_ofNat_of_lt small

theorem Fit.declares (within : group.Within log hidden) (records : names.Records log)
    (few : group.names.length < 65535) (isName : name.token.isIdentifier)
    (told : name.resolution = .ofVariable group.kind true (names.count group.kind))
    (rest : Fit later annotated declaring) :
    Fit (name.node :: later) (name.token.named (.ofVariable group.kind true group.next) :: annotated)
      (name.token :: declaring) := by
  rw [← within.toNat_count records few]
  exact .ofVariable isName told rest

end

theorem GrammaticalNames.of_cons {name : Name} {separator : Token} {later : List (Name × Token)}
    (grammatical : GrammaticalNames ((name, separator) :: later)) :
    name.token.isIdentifier ∧ (∃ mark, separator.isSymbol mark) ∧
      (later = [] ∨ GrammaticalNames later) := by
  cases later with
  | nil => exact ⟨grammatical.1, ⟨';', grammatical.2⟩, .inl rfl⟩
  | cons next later => exact ⟨grammatical.1, ⟨',', grammatical.2.1⟩, .inr grammatical.2.2⟩

theorem fit_names {list : List (Name × Token)} {type : String} {group : Group} {log : Log}
    {hidden : List String} {names : VariableTable} (within : group.Within log hidden)
    (records : names.Records log) (few : group.names.length + list.length < 65536)
    (grammatical : list = [] ∨ GrammaticalNames list)
    (resolved : ResolvedNames type group.kind names list) :
    Fit (list.flatMap fun (name, separator) => [name.node, .token separator])
      (annotatedNames group list) (list.map (·.1.token)) := by
  induction list generalizing group log names with
  | nil => exact .nil
  | cons pair list ih =>
    obtain ⟨name, separator⟩ := pair
    obtain ⟨isName, ⟨mark, separates⟩, grammatical⟩ := (grammatical.resolve_left nofun).of_cons
    rw [List.length_cons] at few
    have rest := ih (within.declare isName type) (records.define _ type _)
      (by rw [Group.declare, List.length_cons]; omega) grammatical resolved.2
    exact .declares within records (by omega) isName resolved.1 (.symbol separates rest)

theorem GrammaticalParameters.of_cons {parameter : Parameter} {later : List Parameter}
    (grammatical : GrammaticalParameters (parameter :: later)) :
    parameter.type.Grammatical ∧ parameter.name.token.isIdentifier ∧
      (∀ comma ∈ parameter.comma?, comma.isSymbol ',') ∧ GrammaticalParameters later := by
  cases later with
  | nil =>
    obtain ⟨isType, isName, noComma⟩ := grammatical
    exact ⟨isType, isName, by simp [noComma], trivial⟩
  | cons next later =>
    obtain ⟨isType, isName, ⟨comma, spelled, separates⟩, rest⟩ := grammatical
    refine ⟨isType, isName, ?_, rest⟩
    rw [spelled]
    rintro _ ⟨⟩
    exact separates

theorem fit_parameters {parameters : List Parameter} {group : Group} {log : Log}
    {hidden : List String} {names : VariableTable} (within : group.Within log hidden)
    (records : names.Records log) (isArgument : group.kind = .argument)
    (few : group.names.length + parameters.length < 65536)
    (grammatical : GrammaticalParameters parameters)
    (resolved : ResolvedParameters names parameters) :
    Fit (parameters.flatMap Parameter.nodes) (annotatedParameters group parameters)
      (parameters.map (·.name.token)) := by
  induction parameters generalizing group log names with
  | nil => exact .nil
  | cons parameter parameters ih =>
    obtain ⟨isType, isName, separates, grammatical⟩ := grammatical.of_cons
    obtain ⟨resolvedType, told, resolved⟩ := resolved
    rw [List.length_cons] at few
    have declared : names.declare [parameter.declared] =
        names.define parameter.name.token.text parameter.type.text group.kind := by
      rw [isArgument]
      rfl
    rw [declared] at resolved
    have rest := ih (within.declare isName parameter.type.text) (records.define _ _ _) isArgument
      (by rw [Group.declare, List.length_cons]; omega) grammatical resolved
    have comma : Fit ((parameter.comma?.map Node.token).toList ++ parameters.flatMap Parameter.nodes)
        (parameter.comma?.toList.map Token.plain ++
          annotatedParameters (group.declare parameter.name.token.text) parameters)
        (parameters.map (·.name.token)) := by
      cases same : parameter.comma? with
      | none => exact rest
      | some comma => exact .symbol (separates comma same) rest
    rw [← isArgument] at told
    have named := Fit.declares within records (by omega) isName told comma
    exact TypeName.fit isType resolvedType named

theorem Log.this_notMem_names {log : Log} {kind : VariableKind}
    (written : ∀ new ∈ log, new.name ≠ "this") : "this" ∉ log.names kind := by
  intro member
  obtain ⟨new, member, _, text⟩ := Log.mem_names.mp member
  exact written new member text

theorem GrammaticalNames.isIdentifier {list : List (Name × Token)}
    (grammatical : GrammaticalNames list) {pair : Name × Token} (member : pair ∈ list) :
    pair.1.token.isIdentifier := by
  induction list with
  | nil => cases member
  | cons first list ih =>
    obtain ⟨isName, _, rest⟩ := grammatical.of_cons
    rcases List.mem_cons.mp member with rfl | member
    · exact isName
    · rcases rest with rfl | rest
      · cases member
      · exact ih rest member

theorem GrammaticalParameters.isIdentifier {parameters : List Parameter}
    (grammatical : GrammaticalParameters parameters) {parameter : Parameter}
    (member : parameter ∈ parameters) : parameter.name.token.isIdentifier := by
  induction parameters with
  | nil => cases member
  | cons first parameters ih =>
    obtain ⟨_, isName, _, rest⟩ := grammatical.of_cons
    rcases List.mem_cons.mp member with rfl | member
    · exact isName
    · exact ih rest member

section

variable {ofKeyword? : LexemeKind → Option VariableKind} {kind : VariableKind}

namespace VariableDec

variable {declaration : VariableDec}

theorem names_declaredBy_same (same : ofKeyword? declaration.keyword.kind = some kind) :
    Log.names (declaration.declaredBy ofKeyword?) kind = declaration.texts := by
  rw [Log.names_eq_map, names_declaredBy (by simp [same]), texts]
  intro new member
  rw [declaredBy_eq same] at member
  obtain ⟨pair, _, rfl⟩ := List.mem_map.mp member
  rfl

theorem written_declaredBy (grammatical : declaration.Grammatical ofKeyword?) :
    ∀ new ∈ declaration.declaredBy ofKeyword?, new.name ≠ "this" := by
  intro new member
  have seen : new.name ∈ (declaration.declaredBy ofKeyword?).map (·.name) :=
    List.mem_map_of_mem member
  rw [names_declaredBy grammatical.1] at seen
  obtain ⟨pair, member, same⟩ := List.mem_map.mp seen
  rw [← same]
  exact Token.text_ne_this (grammatical.2.2.isIdentifier member)

theorem fit {production : Production} {names : VariableTable} {log before : Log}
    (grammatical : declaration.Grammatical ofKeyword?)
    (same : ofKeyword? declaration.keyword.kind = some kind)
    (notName : ofKeyword? .identifier = none) (resolved : declaration.Resolved kind names)
    (records : names.Records log) (known : log.names kind = before.names kind)
    (written : ∀ new ∈ before, new.name ≠ "this")
    (few : (before.names kind).length + declaration.names.length < 65536) :
    Fit [declaration.node production] (declaration.annotated kind before) declaration.declaring := by
  have within : Group.Within ⟨kind, 0, before.names kind⟩ log [] :=
    .of_names known (Log.this_notMem_names written)
  have differs : ofKeyword? .identifier ≠ some kind := by
    rw [notName]
    exact nofun
  have listed := fit_names within records few (.inr grammatical.2.2) resolved.2
  exact .branch (.other same differs (TypeName.fit grammatical.2.1 resolved.1 listed))

end VariableDec

theorem written_declarations {declarations : List VariableDec}
    (grammatical : ∀ declaration ∈ declarations, declaration.Grammatical ofKeyword?) :
    ∀ new ∈ declarations.flatMap (VariableDec.declaredBy ofKeyword?), new.name ≠ "this" := by
  intro new member
  obtain ⟨declaration, own, member⟩ := List.mem_flatMap.mp member
  exact VariableDec.written_declaredBy (grammatical declaration own) new member

/-- `before` has the names that the log has for the kinds to be declared, and there is room for the
declarations that follow. -/
structure Precedes (ofKeyword? : LexemeKind → Option VariableKind) (before log : Log)
    (declarations : List VariableDec) : Prop where
  known : ∀ word kind, ofKeyword? word = some kind → log.names kind = before.names kind
  written : ∀ new ∈ before, new.name ≠ "this"
  few : ∀ word kind, ofKeyword? word = some kind →
    (before.names kind).length +
      (Log.names (declarations.flatMap (VariableDec.declaredBy ofKeyword?)) kind).length < 65536

namespace Precedes

variable {before log : Log} {declaration : VariableDec} {declarations : List VariableDec}

theorem few_names (precedes : Precedes ofKeyword? before log (declaration :: declarations))
    (same : ofKeyword? declaration.keyword.kind = some kind) :
    (before.names kind).length + declaration.names.length < 65536 := by
  have all := precedes.few _ kind same
  rw [List.flatMap_cons, Log.names_append, List.length_append,
    VariableDec.names_declaredBy_same same, VariableDec.texts, List.length_map] at all
  omega

theorem next (precedes : Precedes ofKeyword? before log (declaration :: declarations))
    (grammatical : declaration.Grammatical ofKeyword?) :
    Precedes ofKeyword? ((declaration.declaredBy ofKeyword?).reverse ++ before)
      ((declaration.declaredBy ofKeyword?).reverse ++ log) declarations := by
  refine ⟨?_, ?_, ?_⟩
  · intro word kind selected
    rw [Log.names_append, Log.names_append, precedes.known word kind selected]
  · intro new member
    rcases List.mem_append.mp member with member | member
    · exact VariableDec.written_declaredBy grammatical new (List.mem_reverse.mp member)
    · exact precedes.written new member
  · intro word kind selected
    have all := precedes.few word kind selected
    rw [List.flatMap_cons, Log.names_append, List.length_append] at all
    rw [Log.names_append, Log.names_reverse, List.length_append, List.length_reverse]
    omega

end Precedes

theorem fit_decs {production : Production} {declarations : List VariableDec} {names : VariableTable}
    {log before : Log} (notName : ofKeyword? .identifier = none)
    (grammatical : ∀ declaration ∈ declarations, declaration.Grammatical ofKeyword?)
    (resolved : ResolvedDecs ofKeyword? names declarations) (records : names.Records log)
    (precedes : Precedes ofKeyword? before log declarations) :
    Fit (declarations.map (VariableDec.node production))
      (annotatedDecs ofKeyword? before declarations)
      (declarations.flatMap VariableDec.declaring) := by
  -- The table and both logs grow by one declaration at a time, and stay related.
  induction declarations generalizing log before names with
  | nil => exact .nil
  | cons declaration declarations ih =>
    have first : declaration.Grammatical ofKeyword? := grammatical declaration List.mem_cons_self
    have others : ∀ other ∈ declarations, other.Grammatical ofKeyword? :=
      fun other member => grammatical other (List.mem_cons_of_mem _ member)
    obtain ⟨kind, same⟩ := Option.isSome_iff_exists.mp first.1
    have here : Fit [declaration.node production] (declaration.annotated kind before)
        declaration.declaring :=
      declaration.fit first same notName (resolved.1 kind same) records (precedes.known _ kind same)
        precedes.written (precedes.few_names same)
    have rest := ih others resolved.2 (records.declare _) (precedes.next first)
    simp only [annotatedDecs, same, Option.toList_some, List.flatMap_cons, List.flatMap_nil,
      List.append_nil]
    exact here.append rest

end

end Jack
