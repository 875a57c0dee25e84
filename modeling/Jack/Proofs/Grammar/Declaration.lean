import Jack.Parse.ClassDec
import Jack.Proofs.Grammar.Statement
import Jack.Proofs.Variable.Log

namespace Jack

open Grammar ParseState Step

/-- The table knows names of a class, and names of the subroutine at hand. -/
def VariableTable.Holds (table : VariableTable) (ofClass own : List String) : Prop :=
  ∃ log, table.Records log ∧ (∀ name ∈ ofClass, name ∈ log.ofClass.map (·.name)) ∧
    ∀ name ∈ own, name ∈ log.map (·.name)

namespace VariableTable.Holds

variable {table : VariableTable} {ofClass own : List String}

theorem empty : VariableTable.empty.Holds [] [] :=
  ⟨[], empty_records, by simp, by simp⟩

theorem knows (holds : table.Holds ofClass own) {name : String} (member : name ∈ own ++ ofClass) :
    table.Knows name := by
  obtain ⟨log, records, lasting, all⟩ := holds
  rw [Knows, records.lookup?, Log.lookup?_isSome]
  rcases List.mem_append.mp member with member | member
  · exact all name member
  · obtain ⟨declaration, kept, same⟩ := List.mem_map.mp (lasting name member)
    exact List.mem_map.mpr ⟨declaration, List.mem_of_mem_filter kept, same⟩

theorem forget (holds : table.Holds ofClass own) : table.Holds ofClass [] := by
  obtain ⟨log, records, lasting, _⟩ := holds
  exact ⟨log, records, lasting, by simp⟩

theorem startSubroutine (holds : table.Holds ofClass own) :
    table.startSubroutine.Holds ofClass [] := by
  obtain ⟨log, records, lasting, _⟩ := holds
  refine ⟨log.ofClass, records.startSubroutine, ?_, by simp⟩
  have same : log.ofClass.ofClass = log.ofClass := by
    simp [Log.ofClass]
  rwa [same]

theorem define (holds : table.Holds ofClass own) (name type : String) (kind : VariableKind) :
    (table.define name type kind).Holds ofClass (own ++ [name]) := by
  obtain ⟨log, records, lasting, all⟩ := holds
  refine ⟨_, records.define name type kind, ?_, ?_⟩
  · intro other member
    obtain ⟨declaration, kept, same⟩ := List.mem_map.mp (lasting other member)
    obtain ⟨inside, isClass⟩ := List.mem_filter.mp kept
    exact List.mem_map.mpr ⟨declaration,
      List.mem_filter.mpr ⟨List.mem_cons_of_mem _ inside, isClass⟩, same⟩
  · intro other member
    rcases List.mem_append.mp member with member | member
    · exact List.mem_cons_of_mem _ (all other member)
    · simp_all

theorem defineOfClass (holds : table.Holds ofClass own) (name type : String) {kind : VariableKind}
    (isClass : kind.scope = .classScope) :
    (table.define name type kind).Holds (ofClass ++ [name]) own := by
  obtain ⟨log, records, lasting, all⟩ := holds
  have kept : Log.ofClass (⟨name, type, kind⟩ :: log) = ⟨name, type, kind⟩ :: log.ofClass := by
    simp [Log.ofClass, isClass]
  refine ⟨_, records.define name type kind, ?_, ?_⟩
  · rw [kept]
    intro other member
    rcases List.mem_append.mp member with member | member
    · exact List.mem_cons_of_mem _ (lasting other member)
    · simp_all
  · exact fun other member => List.mem_cons_of_mem _ (all other member)

end VariableTable.Holds

def Follows (holds : List String → VariableTable → Prop) (isKind : VariableKind → Prop) : Prop :=
  ∀ kind, isKind kind → ∀ declared table name type, holds declared table →
    holds (declared ++ [name]) (table.define name type kind)

namespace ParseState

def Arrives (holds : VariableTable → Prop) (rest : List Token) (s : ParseState) : Prop :=
  s.cursor.ahead = rest ∧ holds s.names

theorem Left.arrives {s s' : ParseState} {rest : List Token} {holds : VariableTable → Prop}
    (left : s.Left rest s') (known : holds s.names) : s'.Arrives holds rest := by
  refine ⟨left.ahead, ?_⟩
  rw [left.names]
  exact known

variable {holds : List String → VariableTable → Prop} {isKind : VariableKind → Prop}
  {kind : VariableKind} {s : ParseState} {known declared : List String} {tokens rest : List Token}
  {bad : Fault → ParseState → Prop}

theorem typeName_left {type : Token} (isType : IsType type)
    (ahead : s.cursor.ahead = type :: rest) : s.typeName.Meets (fun _ s' => s.Left rest s') bad := by
  unfold typeName
  apply Meets.andThen (advance_left ahead)
  intro token s₁ h₁ seen
  obtain ⟨rfl, left, _⟩ := seen
  split
  · exact left
  · rename_i noBuiltin
    split
    · exact left
    · rename_i noName
      rcases isType with isWord | isWord | isWord | isName
      · simp [Token.kind_of_isKeyword isWord, isBuiltinType] at noBuiltin
      · simp [Token.kind_of_isKeyword isWord, isBuiltinType] at noBuiltin
      · simp [Token.kind_of_isKeyword isWord, isBuiltinType] at noBuiltin
      · exact absurd isName noName

theorem returnType_left {type : Token} (isType : type.isKeyword .voidKw ∨ IsType type)
    (ahead : s.cursor.ahead = type :: rest) :
    s.returnType.Meets (fun _ s' => s.Left rest s') bad := by
  unfold returnType
  apply sight_left ahead
  by_cases isVoid : type.isKeyword .voidKw
  · rw [if_pos isVoid]
    apply Meets.andThen (advance_left ahead)
    intro token s₁ h₁ seen
    obtain ⟨_, left, _⟩ := seen
    exact left
  · rw [if_neg isVoid]
    exact typeName_left (isType.resolve_left isVoid) ahead

theorem newVariable_arrives (follows : Follows holds isKind) (isOne : isKind kind) {name : Token}
    (isName : name.isIdentifier) (ahead : s.cursor.ahead = name :: rest) (start : holds known s.names)
    (type : String) :
    (s.newVariable type kind).Meets (fun _ s' => s'.Arrives (holds (known ++ [name.text])) rest)
      bad := by
  unfold newVariable
  apply Meets.andThen (expectIdentifier_left ahead isName)
  intro token s₁ h₁ seen
  obtain ⟨rfl, left⟩ := seen
  refine ⟨left.ahead, ?_⟩
  apply follows kind isOne
  rw [left.names]
  exact start

theorem newVariables_arrives (follows : Follows holds isKind) (isOne : isKind kind)
    (derived : DerivesNames tokens declared) (ahead : s.cursor.ahead = tokens ++ rest)
    (start : holds known s.names) (type : String) (found : List (Name × Token)) :
    (s.newVariables type kind found).Meets
      (fun _ s' => s'.Arrives (holds (known ++ declared)) rest) bad := by
  induction derived generalizing s known found with
  | last isName ends =>
    rw [newVariables]
    apply Meets.andThen (newVariable_arrives follows isOne isName ahead start type)
    intro name s₁ h₁ seen
    obtain ⟨ahead₁, holds₁⟩ := seen
    apply Meets.andThen (advance_left ahead₁)
    intro semicolon s₂ h₂ seen
    obtain ⟨rfl, left, _⟩ := seen
    rw [if_neg (by simp [Token.isSymbol_eq_false ends]), if_pos ends]
    exact left.arrives holds₁
  | more isName separates rest ih =>
    rw [newVariables]
    apply Meets.andThen (newVariable_arrives follows isOne isName ahead start type)
    intro name s₁ h₁ seen
    obtain ⟨ahead₁, holds₁⟩ := seen
    apply Meets.andThen (advance_left ahead₁)
    intro comma s₂ h₂ seen
    obtain ⟨rfl, left, _⟩ := seen
    rw [if_pos separates]
    obtain ⟨ahead₂, holds₂⟩ := left.arrives holds₁
    have later := ih ahead₂ holds₂ ((name, comma) :: found)
    rw [List.append_assoc] at later
    exact later.weaken

theorem variableDec_arrives (follows : Follows holds isKind) (isOne : isKind kind)
    {keyword type : Token} (isType : IsType type) (derived : DerivesNames tokens declared)
    (ahead : s.cursor.ahead = keyword :: type :: (tokens ++ rest)) (start : holds known s.names) :
    (s.variableDec kind).Meets (fun _ s' => s'.Arrives (holds (known ++ declared)) rest) bad := by
  unfold variableDec
  apply Meets.andThen (advance_left ahead)
  intro keyword s₁ h₁ seen
  obtain ⟨_, left, _⟩ := seen
  obtain ⟨ahead₁, holds₁⟩ := left.arrives start
  apply Meets.andThen (typeName_left isType ahead₁)
  intro type s₂ h₂ left₂
  obtain ⟨ahead₂, holds₂⟩ := left₂.arrives holds₁
  apply Meets.andThen (newVariables_arrives follows isOne derived ahead₂ holds₂ type.text [])
  intro names s₃ h₃ arrives
  exact arrives

section

variable {α β κ : Type} {part : List Token → List α → Prop} {select : LexemeKind → Option κ}
  {item : (s : ParseState) → κ → Step β s.remaining} {holds : List α → VariableTable → Prop}
  {bad : List α → Fault → Prop}

def ReadsPart (part : List Token → List α → Prop) (select : LexemeKind → Option κ)
    (item : (s : ParseState) → κ → Step β s.remaining) (holds : List α → VariableTable → Prop)
    (bad : List α → Fault → Prop) : Prop :=
  ∀ tokens found, part tokens found → ∀ (s : ParseState) known rest, holds known s.names →
    s.cursor.ahead = tokens ++ rest →
    ∃ token later choice, tokens = token :: later ∧ select token.kind = some choice ∧
      (item s choice).Meets (fun _ s' => s'.Arrives (holds (known ++ found)) rest)
        (fun fault _ => bad found fault)

theorem many_arrives (reads : ReadsPart part select item holds bad)
    (grows : ∀ first later fault, bad first fault ∨ bad later fault → bad (first ++ later) fault)
    {tokens rest : List Token} {found : List α} (known : List α) {next : Token}
    (derived : Repeated part tokens found) {s : ParseState} (start : holds known s.names)
    (ahead : s.cursor.ahead = tokens ++ next :: rest) (ends : select next.kind = none)
    (values : List β) :
    (many select item s values).Meets
      (fun _ s' => s'.Arrives (holds (known ++ found)) (next :: rest))
      (fun fault _ => bad found fault) := by
  induction derived generalizing s known values with
  | none =>
    rw [many]
    apply sight_left ahead
    rw [ends, List.append_nil]
    exact ⟨ahead, start⟩
  | next derived _ ih =>
    rw [List.append_assoc] at ahead
    obtain ⟨token, later, choice, rfl, selected, meets⟩ := reads _ _ derived s known _ start ahead
    rw [many]
    apply sight_left ahead
    rw [selected]
    apply Meets.andThen (meets.mono (fun _ _ arrives => arrives)
      fun fault _ failed => grows _ _ fault (.inl failed))
    intro value s₁ h₁ seen
    obtain ⟨ahead₁, holds₁⟩ := seen
    have rest := ih _ holds₁ ahead₁ (value :: values)
    rw [List.append_assoc] at rest
    exact (rest.mono (fun _ _ arrives => arrives)
      fun fault _ failed => grows _ _ fault (.inr failed)).weaken

end

theorem readsPart_classVarDec (follows : Follows holds fun kind => kind.scope = .classScope) :
    ReadsPart DerivesClassVarDec VariableKind.ofClassKeyword? variableDec holds
      fun _ _ => False := by
  intro tokens declared derived s known rest start ahead
  cases derived with
  | ofClass begins isType derived =>
    rcases begins with isStatic | isField
    · exact ⟨_, _, .static, rfl, by rw [Token.kind_of_isKeyword isStatic]; rfl,
        variableDec_arrives follows rfl isType derived ahead start⟩
    · exact ⟨_, _, .field, rfl, by rw [Token.kind_of_isKeyword isField]; rfl,
        variableDec_arrives follows rfl isType derived ahead start⟩

theorem readsPart_varDec (follows : Follows holds fun kind => kind.scope = .subroutineScope) :
    ReadsPart DerivesVarDec VariableKind.ofLocalKeyword? variableDec holds fun _ _ => False := by
  intro tokens declared derived s known rest start ahead
  cases derived with
  | locals isVar isType derived =>
    exact ⟨_, _, .localVar, rfl, by rw [Token.kind_of_isKeyword isVar]; rfl,
      variableDec_arrives follows rfl isType derived ahead start⟩

end ParseState

end Jack
