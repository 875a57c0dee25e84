import Jack.Compile
import Jack.Proofs.Parse.ClassDec

namespace Jack

namespace ClassDec

variable (declaration : ClassDec) (subroutine : Subroutine)

theorem scope_of_declared {new : Declaration} (member : new ∈ declaration.declared) :
    new.kind.scope = .classScope := by
  simp only [declared, List.mem_flatMap, VariableDec.declaredBy, VariableDec.declared, declaredNames,
    List.mem_map, Option.mem_toList] at member
  obtain ⟨group, _, kind, same, name, _, rfl⟩ := member
  exact ParseState.classScope_ofClassKeyword? _ _ same

theorem table_records : declaration.table.Records declaration.declared.reverse := by
  have records := VariableTable.empty_records.declare declaration.declared
  rwa [List.append_nil] at records

theorem ofClass_declared :
    Log.ofClass declaration.declared.reverse = declaration.declared.reverse := by
  apply List.filter_eq_self.mpr
  intro new member
  simpa using declaration.scope_of_declared (List.mem_reverse.mp member)

theorem startSubroutine_records :
    declaration.table.startSubroutine.Records declaration.declared.reverse := by
  have records := declaration.table_records.startSubroutine
  rwa [ofClass_declared] at records

theorem tableIn_records : (declaration.tableIn subroutine).Records (declaration.log subroutine) :=
  declaration.startSubroutine_records.declare (subroutine.declared declaration.name.token.text)

end ClassDec

theorem Subroutine.scope_of_declared {className : String} {subroutine : Subroutine}
    {new : Declaration} (member : new ∈ subroutine.declared className) :
    new.kind.scope = .subroutineScope := by
  rcases List.mem_append.mp member with member | member
  · cases same : subroutine.kind <;> simp_all [SubroutineKind.declared, VariableKind.scope]
  · rcases List.mem_append.mp member with member | member
    · obtain ⟨parameter, _, rfl⟩ := List.mem_map.mp member
      rfl
    · rw [ParseState.scope_of_locals member]
      rfl

namespace ClassDec

variable (declaration : ClassDec) (subroutine : Subroutine)

theorem names_log {kind : VariableKind} (lasting : kind.scope = .classScope) :
    (declaration.log subroutine).names kind = Log.names declaration.declared.reverse kind := by
  have noNames : Log.names (subroutine.declared declaration.name.token.text).reverse kind = [] := by
    apply Log.names_eq_nil
    intro new member same
    have scope := Subroutine.scope_of_declared (List.mem_reverse.mp member)
    rw [same, lasting] at scope
    cases scope
  rw [log, Log.names_append, noNames, List.nil_append]

theorem names_log_field :
    (declaration.log subroutine).names .field = Log.names declaration.declared.reverse .field :=
  declaration.names_log subroutine rfl

theorem context_eq : declaration.context subroutine =
    (declaration.tableIn subroutine).context declaration.name.token.text := by
  unfold context VariableTable.context
  congr 1
  funext name
  rw [VariableTable.typeIn, (declaration.tableIn_records subroutine).lookup?]

theorem subroutineCode_eq : declaration.subroutineCode subroutine =
    subroutine.codeIn declaration.name.token.text declaration.table := by
  have records := declaration.tableIn_records subroutine
  unfold subroutineCode bodyCode localCount fieldCount Subroutine.codeIn codeUnder
  rw [context_eq, show subroutine.table declaration.name.token.text declaration.table =
    declaration.tableIn subroutine from rfl, records.count, records.count, Log.count, Log.count,
    Log.count, names_log_field]
  rfl

theorem code_eq : declaration.code =
    declaration.subroutines.flatMap (Subroutine.codeIn declaration.name.token.text declaration.table) := by
  unfold code
  congr 1
  funext subroutine
  exact declaration.subroutineCode_eq subroutine

end ClassDec

theorem parse_reads {tokens : List Token} {declaration : ClassDec} {s : ParseState}
    (accepted : parse tokens = .ok declaration s) :
    (ParseState.start tokens).YieldsClass declaration s ∧ s.cursor.ahead = [] :=
  (ParseState.unit_reads (.start tokens) rfl).of_ok accepted

theorem tokens_of_parse {tokens : List Token} {declaration : ClassDec} {s : ParseState}
    (accepted : parse tokens = .ok declaration s) : tokens = declaration.tokens := by
  obtain ⟨yields, ended⟩ := parse_reads accepted
  have ahead := yields.ahead
  rwa [ended, List.append_nil] at ahead

theorem instructions_of_parse {tokens : List Token} {declaration : ClassDec} {s : ParseState}
    (accepted : parse tokens = .ok declaration s) : s.instructions = declaration.code := by
  rw [(parse_reads accepted).1.emitted, declaration.code_eq]
  rfl

theorem infix_instructions {tokens : List Token} {declaration : ClassDec} {s : ParseState}
    (accepted : parse tokens = .ok declaration s) {subroutine : Subroutine}
    (own : subroutine ∈ declaration.subroutines) :
    declaration.subroutineCode subroutine <:+: s.instructions := by
  rw [instructions_of_parse accepted, ClassDec.code, List.flatMap_def]
  exact List.infix_of_mem_flatten (List.mem_map_of_mem own)

theorem resolved_statements {tokens : List Token} {declaration : ClassDec} {s : ParseState}
    (accepted : parse tokens = .ok declaration s) {subroutine : Subroutine}
    (own : subroutine ∈ declaration.subroutines) :
    ResolvedAll (declaration.tableIn subroutine) subroutine.body.statements := by
  obtain ⟨_, _, _, _, statements⟩ := (parse_reads accepted).1.resolved.2.2 subroutine own
  exact statements

/-- The tokens with the given texts, as if they all stood at the start of a source. -/
def lexemes (texts : List String) : List Token :=
  texts.filterMap (Token.ofText? · 0 0)

def acceptsWith (test : ClassDec → Bool) (tokens : List Token) : Bool :=
  match parse tokens with
  | .ok declaration _ => test declaration
  | .error _ _ => false

theorem exists_of_acceptsWith {test : ClassDec → Bool} {tokens : List Token}
    (accepted : acceptsWith test tokens) :
    ∃ declaration s, parse tokens = .ok declaration s ∧ test declaration := by
  unfold acceptsWith at accepted
  split at accepted
  · rename_i declaration s same
    exact ⟨declaration, s, same, accepted⟩
  · cases accepted

end Jack
