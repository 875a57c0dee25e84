import Jack.Proofs.Program.Declarations

namespace Jack

/-- Each scope of the class has few enough declarations of each kind for its slots to be numbered. -/
structure ClassDec.FewDeclared (declaration : ClassDec) : Prop where
  ofClass : ∀ kind, (Log.names declaration.declared kind).length < 65536
  parameters : ∀ subroutine ∈ declaration.subroutines, subroutine.parameterTexts.length < 65536
  locals : ∀ subroutine ∈ declaration.subroutines, subroutine.localTexts.length < 65536

/-- What a subroutine declares before its parameters, for which there is no token. -/
def SubroutineKind.hidden : SubroutineKind → List String
  | method => ["this"]
  | ctor | function => []

theorem SubroutineKind.names_declared (kind : SubroutineKind) (className : String) :
    Log.names (kind.declared className) .argument = kind.hidden := by
  cases kind <;> rfl

namespace Subroutine

variable {subroutine : Subroutine}

theorem names_parameters :
    Log.names (subroutine.parameters.map Parameter.declared) .argument =
      subroutine.parameterTexts := by
  rw [Log.names_eq_map, List.map_map, parameterTexts]
  · rfl
  · intro new member
    obtain ⟨parameter, _, rfl⟩ := List.mem_map.mp member
    rfl

theorem names_locals (grammatical : subroutine.body.Grammatical) :
    Log.names (subroutine.body.locals.flatMap
      (VariableDec.declaredBy VariableKind.ofLocalKeyword?)) .localVar = subroutine.localTexts := by
  rw [Log.names_eq_map fun new member => ParseState.scope_of_locals member, List.map_flatMap,
    localTexts]
  apply List.flatMap_congr
  intro group member
  exact VariableDec.names_declaredBy (grammatical.2.1 group member).1

end Subroutine

namespace ClassDec

variable {declaration : ClassDec} {subroutine : Subroutine}

theorem names_declared_short {kind : VariableKind} (short : kind.scope = .subroutineScope) :
    Log.names declaration.declared.reverse kind = [] := by
  apply Log.names_eq_nil
  intro new member same
  have scope := declaration.scope_of_declared (List.mem_reverse.mp member)
  rw [same, short] at scope
  cases scope

def objectLog (declaration : ClassDec) (subroutine : Subroutine) : Log :=
  (subroutine.kind.declared declaration.name.token.text).reverse ++ declaration.declared.reverse

theorem within_objectLog :
    Group.Within ⟨.argument, subroutine.kind.objects, []⟩ (declaration.objectLog subroutine)
      subroutine.kind.hidden := by
  have before : Log.names (declaration.objectLog subroutine) .argument = subroutine.kind.hidden := by
    rw [objectLog, Log.names_append, Log.names_reverse, SubroutineKind.names_declared,
      names_declared_short rfl, List.append_nil]
    cases subroutine.kind <;> rfl
  refine ⟨before, ?_, ?_, by simp⟩
  · cases subroutine.kind <;> rfl
  · cases subroutine.kind <;> simp [SubroutineKind.hidden]

theorem log_eq : declaration.log subroutine =
    (subroutine.body.locals.flatMap
      (VariableDec.declaredBy VariableKind.ofLocalKeyword?)).reverse ++
      ((subroutine.parameters.map Parameter.declared).reverse ++ declaration.objectLog subroutine) := by
  simp [log, Subroutine.declared, objectLog]

theorem names_before_locals :
    Log.names ((subroutine.parameters.map Parameter.declared).reverse ++
      declaration.objectLog subroutine) .localVar = [] := by
  have noNames : Log.names (subroutine.parameters.map Parameter.declared) .localVar = [] := by
    apply Log.names_eq_nil
    intro new member same
    obtain ⟨parameter, _, rfl⟩ := List.mem_map.mp member
    cases same
  have object : Log.names (subroutine.kind.declared declaration.name.token.text) .localVar = [] := by
    cases subroutine.kind <;> rfl
  rw [Log.names_append, Log.names_reverse, noNames, objectLog, Log.names_append, Log.names_reverse, object,
    names_declared_short rfl]
  rfl

theorem within_parameters (grammatical : subroutine.Grammatical) :
    Group.Within ⟨.argument, subroutine.kind.objects, subroutine.parameterTexts.reverse⟩
      (declaration.log subroutine) subroutine.kind.hidden := by
  have object : Group.Within ⟨.argument, subroutine.kind.objects, []⟩
      (declaration.objectLog subroutine) subroutine.kind.hidden := within_objectLog
  have noLocals : Log.names (subroutine.body.locals.flatMap
      (VariableDec.declaredBy VariableKind.ofLocalKeyword?)) .argument = [] := by
    apply Log.names_eq_nil
    intro new member same
    rw [ParseState.scope_of_locals member] at same
    cases same
  refine ⟨?_, object.offset, object.object, ?_⟩
  · rw [log_eq, Log.names_append, Log.names_append, Log.names_reverse, Log.names_reverse, noLocals,
      subroutine.names_parameters, object.names]
    rfl
  · obtain ⟨_, _, _, _, parameters, _, _⟩ := grammatical
    intro member
    obtain ⟨parameter, member, text⟩ := List.mem_map.mp (List.mem_reverse.mp member)
    exact Token.text_ne_this (parameters.isIdentifier member) text

theorem within_locals (grammatical : subroutine.Grammatical) :
    Group.Within ⟨.localVar, 0, subroutine.localTexts.reverse⟩ (declaration.log subroutine) [] := by
  obtain ⟨_, _, _, _, _, _, body⟩ := grammatical
  apply Group.Within.of_names
  · rw [log_eq, Log.names_append, Log.names_reverse, subroutine.names_locals body,
      names_before_locals, List.append_nil]
  · rw [← subroutine.names_locals body, ← Log.names_reverse]
    apply Log.this_notMem_names
    intro new member
    exact written_declarations body.2.1 new (List.mem_reverse.mp member)

theorem within_ofClass (grammatical : declaration.Grammatical) {kind : VariableKind}
    (lasting : kind.scope = .classScope) :
    Group.Within ⟨kind, 0, Log.names declaration.declared.reverse kind⟩ (declaration.log subroutine)
      [] := by
  obtain ⟨_, _, _, declarations, _, _⟩ := grammatical
  apply Group.Within.of_names (declaration.names_log subroutine lasting)
  apply Log.this_notMem_names
  intro new member
  exact written_declarations declarations new (List.mem_reverse.mp member)

theorem shows_groups (few : declaration.FewDeclared) (own : subroutine ∈ declaration.subroutines)
    (grammatical : declaration.Grammatical) :
    (declaration.tableIn subroutine).Shows (subroutine.groups declaration.declared.reverse) := by
  have written := grammatical.2.2.2.2.1 subroutine own
  have ofClass : ∀ kind, (Log.names declaration.declared.reverse kind).length < 65536 := by
    intro kind
    rw [Log.names_reverse, List.length_reverse]
    exact few.ofClass kind
  -- The groups are in the order in which the table looks for a name.
  apply (declaration.tableIn_records subroutine).shows rfl
  · intro group member
    simp only [Subroutine.groups, List.mem_cons, List.not_mem_nil, or_false] at member
    rcases member with rfl | rfl | rfl | rfl
    · exact ⟨_, within_parameters written⟩
    · exact ⟨_, within_locals written⟩
    · exact ⟨_, within_ofClass grammatical rfl⟩
    · exact ⟨_, within_ofClass grammatical rfl⟩
  · simp [Subroutine.groups, ofClass, few.parameters subroutine own, few.locals subroutine own]

theorem objectLog_records : (declaration.table.startSubroutine.declare
    (subroutine.kind.declared declaration.name.token.text)).Records
      (declaration.objectLog subroutine) :=
  declaration.startSubroutine_records.declare _

theorem fit_parameterList (few : declaration.FewDeclared)
    (own : subroutine ∈ declaration.subroutines) (grammatical : subroutine.Grammatical)
    (resolved : subroutine.Resolved declaration.name.token.text declaration.table) :
    Fit [.branch .parameterList (subroutine.parameters.flatMap Parameter.nodes)]
      (annotatedParameters ⟨.argument, subroutine.kind.objects, []⟩ subroutine.parameters)
      (subroutine.parameters.map (·.name.token)) := by
  obtain ⟨_, _, _, _, parameters, _, _⟩ := grammatical
  obtain ⟨_, _, resolved, _, _⟩ := resolved
  have room : subroutine.parameters.length < 65536 := by
    have few := few.parameters subroutine own
    rwa [Subroutine.parameterTexts, List.length_map] at few
  have small : ([] : List String).length + subroutine.parameters.length < 65536 := by
    rwa [List.length_nil, Nat.zero_add]
  exact .branch (fit_parameters within_objectLog objectLog_records rfl small parameters resolved)

theorem precedes_locals (few : declaration.FewDeclared) (own : subroutine ∈ declaration.subroutines)
    (grammatical : subroutine.body.Grammatical) :
    Precedes VariableKind.ofLocalKeyword? []
      ((subroutine.parameters.map Parameter.declared).reverse ++ declaration.objectLog subroutine)
      subroutine.body.locals := by
  refine ⟨?_, by simp, ?_⟩
  · intro word kind selected
    rw [ofLocalKeyword?_eq selected]
    exact names_before_locals
  · intro word kind selected
    rw [ofLocalKeyword?_eq selected, subroutine.names_locals grammatical]
    have room := few.locals subroutine own
    simpa [Log.names] using room

theorem fit_body (few : declaration.FewDeclared) (own : subroutine ∈ declaration.subroutines)
    (shows : (declaration.tableIn subroutine).Shows (subroutine.groups declaration.declared.reverse))
    (grammatical : subroutine.body.Grammatical)
    (resolved : subroutine.Resolved declaration.name.token.text declaration.table) :
    Fit [subroutine.body.node]
      (subroutine.body.opening.plain ::
        (annotatedDecs VariableKind.ofLocalKeyword? [] subroutine.body.locals ++
          (annotatedAll (subroutine.groups declaration.declared.reverse) subroutine.body.statements ++
            [subroutine.body.closing.plain])))
      (subroutine.body.locals.flatMap VariableDec.declaring) := by
  have precedes := precedes_locals few own grammatical
  obtain ⟨starts, locals, statements, ends⟩ := grammatical
  obtain ⟨_, _, _, resolvedLocals, resolvedStatements⟩ := resolved
  have inside : Fit [.branch .statements (statementNodes subroutine.body.statements)] _ [] :=
    .branch (fit_statementNodes shows subroutine.body.statements statements resolvedStatements)
  have declared : Fit (subroutine.body.locals.map (VariableDec.node .varDec)) _ _ :=
    fit_decs rfl locals resolvedLocals (objectLog_records.declare _) precedes
  have all := declared.append (inside.append (.symbol ends .nil))
  rw [List.append_nil, List.append_nil] at all
  exact .branch (.symbol starts all)

theorem fit_subroutine (few : declaration.FewDeclared) (own : subroutine ∈ declaration.subroutines)
    (grammatical : declaration.Grammatical) (resolved : declaration.Resolved) :
    Fit [subroutine.node] (subroutine.annotated declaration.declared.reverse)
      subroutine.declaring := by
  have shows := shows_groups few own grammatical
  have written : subroutine.Grammatical := grammatical.2.2.2.2.1 subroutine own
  have told := resolved.2.2 subroutine own
  have parameters := fit_parameterList few own written told
  obtain ⟨begins, returns, isName, opens, _, closes, body⟩ := written
  have inside := fit_body few own shows body told
  have later := Fit.symbol opens (parameters.append (.symbol closes inside))
  exact .branch (.other begins nofun (TypeName.fit_return returns told.1
    (.subroutine isName told.2.1 later)))

theorem fit_subroutines (few : declaration.FewDeclared) (grammatical : declaration.Grammatical)
    (resolved : declaration.Resolved) {subroutines : List Subroutine}
    (own : ∀ subroutine ∈ subroutines, subroutine ∈ declaration.subroutines) :
    Fit (subroutines.map Subroutine.node)
      (subroutines.flatMap (Subroutine.annotated declaration.declared.reverse))
      (subroutines.flatMap Subroutine.declaring) := by
  induction subroutines with
  | nil => exact .nil
  | cons subroutine subroutines ih =>
    obtain ⟨first, rest⟩ := List.forall_mem_cons.mp own
    exact (fit_subroutine few first grammatical resolved).append (ih rest)

theorem fit (few : declaration.FewDeclared) (grammatical : declaration.Grammatical)
    (resolved : declaration.Resolved) :
    Fit [declaration.node] declaration.annotated declaration.declaring := by
  have subroutines := fit_subroutines few grammatical resolved fun _ own => own
  obtain ⟨isClass, isName, opens, declarations, _, closes⟩ := grammatical
  obtain ⟨told, resolvedDecs, _⟩ := resolved
  have precedes : Precedes VariableKind.ofClassKeyword? [] [] declaration.declarations := by
    refine ⟨fun _ _ _ => rfl, by simp, ?_⟩
    intro word kind _
    have room : (Log.names declaration.declared kind).length < 65536 := few.ofClass kind
    simpa [Log.names, ClassDec.declared] using room
  have declared : Fit (declaration.declarations.map (VariableDec.node .classVarDec)) _ _ :=
    fit_decs rfl declarations resolvedDecs VariableTable.empty_records precedes
  have all := declared.append (subroutines.append (.symbol closes .nil))
  rw [List.append_nil] at all
  exact .branch (.keyword isClass (.className isName told (.symbol opens all)))

end ClassDec

/-- Every leaf of an accepted class says what its place and the declarations in force ask for, just the
declaring names are marked as declarations, and just the names are marked at all. -/
theorem annotations_follow_scopes {tokens : List Token} {declaration : ClassDec} {s : ParseState}
    (accepted : parse tokens = .ok declaration s) (few : declaration.FewDeclared) :
    declaration.node.leaves.map Leaf.annotated = declaration.annotated ∧
      (declaration.node.leaves.filter Leaf.declares).map (·.token) = declaration.declaring ∧
      ∀ leaf ∈ declaration.node.leaves, leaf.Sound := by
  obtain ⟨yields, _⟩ := parse_reads accepted
  have fits := ClassDec.fit few yields.grammatical yields.resolved
  have whole : Node.leavesOfAll [declaration.node] = declaration.node.leaves := by
    simp [Node.leavesOfAll]
  rw [← whole]
  exact ⟨fits.annotated, fits.declaring, fits.sound⟩

/-- One name in every kind, declared more than once, and a field that looks like a class. -/
def shapeTexts : List String :=
  ["class", "Shape", "\x7b", "static", "int", "x", ",", "y", ",", "x", ";",
    "field", "int", "x", ",", "Size", ";",
    "method", "int", "f", "(", "int", "x", ",", "Shape", "s", ",", "int", "x", ")", "\x7b",
      "var", "int", "y", ",", "z", ";",
      "let", "z", "=", "x", "+", "y", ";",
      "do", "s", ".", "f", "(", "z", ",", "s", ",", "x", ")", ";",
      "do", "Size", ".", "f", "(", ")", ";", "do", "t", ".", "f", "(", ")", ";",
      "return", "Size", ";", "\x7d",
    "function", "void", "g", "(", ")", "\x7b", "let", "y", "=", "x", ";", "return", ";", "\x7d", "\x7d"]

def ClassDec.said (declaration : ClassDec) (text : String) : List (Option Meaning) :=
  (declaration.node.leaves.filter (·.token.text = text)).map (·.annotated.2)

def ClassDec.hasFew (declaration : ClassDec) : Bool :=
  [.static, .field, .argument, .localVar].all
      (fun kind => (Log.names declaration.declared kind).length < 65536) &&
    declaration.subroutines.all fun subroutine =>
      subroutine.parameterTexts.length < 65536 && subroutine.localTexts.length < 65536

theorem ClassDec.FewDeclared.of_hasFew {declaration : ClassDec} (few : declaration.hasFew) :
    declaration.FewDeclared := by
  obtain ⟨ofClass, ofSubroutines⟩ := Bool.and_eq_true_iff.mp few
  have small : ∀ subroutine ∈ declaration.subroutines,
      subroutine.parameterTexts.length < 65536 ∧ subroutine.localTexts.length < 65536 := by
    intro subroutine own
    simpa using List.all_eq_true.mp ofSubroutines subroutine own
  refine ⟨?_, fun subroutine own => (small subroutine own).1,
    fun subroutine own => (small subroutine own).2⟩
  intro kind
  have listed : kind ∈ [VariableKind.static, .field, .argument, .localVar] := by
    cases kind <;> simp
  exact of_decide_eq_true (List.all_eq_true.mp ofClass kind listed)

theorem annotations_of_shape :
    ∃ declaration s, parse (lexemes shapeTexts) = .ok declaration s ∧ declaration.FewDeclared ∧
      declaration.said "x" =
        [some (.ofVariable .static true 0), some (.ofVariable .static true 2),
          some (.ofVariable .field true 0), some (.ofVariable .argument true 1),
          some (.ofVariable .argument true 3), some (.ofVariable .argument false 3),
          some (.ofVariable .argument false 3), some (.ofVariable .static false 2)] ∧
      declaration.said "Size" =
        [some (.ofVariable .field true 1), some (.className false),
          some (.ofVariable .field false 1)] ∧
      declaration.node.leaves.map Leaf.annotated = declaration.annotated ∧
      (declaration.node.leaves.filter Leaf.declares).map (·.token) = declaration.declaring ∧
      ∀ leaf ∈ declaration.node.leaves, leaf.Sound := by
  have passes : acceptsWith (fun declaration => declaration.hasFew &&
      (decide (declaration.said "x" =
        [some (.ofVariable .static true 0), some (.ofVariable .static true 2),
          some (.ofVariable .field true 0), some (.ofVariable .argument true 1),
          some (.ofVariable .argument true 3), some (.ofVariable .argument false 3),
          some (.ofVariable .argument false 3), some (.ofVariable .static false 2)]) &&
      decide (declaration.said "Size" =
        [some (.ofVariable .field true 1), some (.className false),
          some (.ofVariable .field false 1)]))) (lexemes shapeTexts) := by
    decide +kernel
  obtain ⟨declaration, s, accepted, tested⟩ := exists_of_acceptsWith passes
  obtain ⟨few, tested⟩ := Bool.and_eq_true_iff.mp tested
  obtain ⟨saidX, saidSize⟩ := Bool.and_eq_true_iff.mp tested
  have declared := ClassDec.FewDeclared.of_hasFew few
  exact ⟨declaration, s, accepted, declared, of_decide_eq_true saidX, of_decide_eq_true saidSize,
    annotations_follow_scopes accepted declared⟩

end Jack
