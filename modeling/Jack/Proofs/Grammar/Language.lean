import Jack.Proofs.Grammar.Declaration
import Jack.Proofs.Grammar.Soundness

namespace Jack

open Grammar ParseState Step

namespace ParseState

variable {s : ParseState} {tokens rest : List Token} {ofClass own declared : List String}
  {next : Token} {bad : Fault → ParseState → Prop}

theorem follows_own (ofClass : List String) :
    Follows (fun own table => table.Holds ofClass own) fun kind => kind.scope = .subroutineScope :=
  fun kind _ _ _ name type holds => holds.define name type kind

theorem follows_ofClass :
    Follows (fun ofClass table => table.Holds ofClass []) fun kind => kind.scope = .classScope :=
  fun _ isClass _ _ name type holds => holds.defineOfClass name type isClass

theorem Left.holds {s' : ParseState} (left : s.Left rest s') (holds : s.names.Holds ofClass own) :
    s'.names.Holds ofClass own := by
  rw [left.names]
  exact holds

theorem moreParameters_arrives (derived : DerivesParameters tokens declared)
    (start : s.names.Holds ofClass own) (ahead : s.cursor.ahead = tokens ++ next :: rest)
    (closes : next.isSymbol ')') (found : List Parameter) :
    (s.moreParameters found).Meets
      (fun _ s' => s'.Arrives (·.Holds ofClass (own ++ declared)) (next :: rest)) bad := by
  induction derived generalizing s own found with
  | last isType isName =>
    rw [moreParameters]
    apply Meets.andThen (typeName_left isType ahead)
    intro type s₁ h₁ left₁
    have ahead₁ := left₁.ahead
    have holds₁ := left₁.holds start
    apply Meets.andThen (newVariable_arrives (follows_own ofClass) rfl isName ahead₁ holds₁ type.text)
    intro name s₂ h₂ seen
    obtain ⟨ahead₂, holds₂⟩ := seen
    apply sight_left ahead₂
    rw [if_neg (by simp [Token.isSymbol_eq_false closes])]
    exact ⟨ahead₂, holds₂⟩
  | more isType isName separates rest ih =>
    rw [moreParameters]
    apply Meets.andThen (typeName_left isType ahead)
    intro type s₁ h₁ left₁
    have ahead₁ := left₁.ahead
    have holds₁ := left₁.holds start
    apply Meets.andThen (newVariable_arrives (follows_own ofClass) rfl isName ahead₁ holds₁ type.text)
    intro name s₂ h₂ seen
    obtain ⟨ahead₂, holds₂⟩ := seen
    apply sight_left ahead₂
    rw [if_pos separates]
    apply Meets.andThen (advance_left ahead₂)
    intro comma s₃ h₃ seen
    obtain ⟨rfl, left, _⟩ := seen
    have later := ih (left.holds holds₂) left.ahead (⟨type, name, some comma⟩ :: found)
    rw [List.append_assoc] at later
    exact later.weaken

theorem IsType.noClose {type : Token} (isType : IsType type) : type.isSymbol ')' = false := by
  rcases isType with isWord | isWord | isWord | isName
  · simp [Token.isSymbol, Token.kind_of_isKeyword isWord]
  · simp [Token.isSymbol, Token.kind_of_isKeyword isWord]
  · simp [Token.isSymbol, Token.kind_of_isKeyword isWord]
  · simp [Token.isSymbol, Token.kind_of_isIdentifier isName]

theorem parameters_arrives (derived : DerivesParameterList tokens declared)
    (start : s.names.Holds ofClass own) (ahead : s.cursor.ahead = tokens ++ next :: rest)
    (closes : next.isSymbol ')') :
    s.parameters.Meets
      (fun _ s' => s'.Arrives (·.Holds ofClass (own ++ declared)) (next :: rest)) bad := by
  unfold parameters
  cases derived with
  | none =>
    apply sight_left ahead
    rw [if_pos closes, List.append_nil]
    exact ⟨ahead, start⟩
  | some derived =>
    obtain ⟨type, later, same, isType⟩ : ∃ type later, tokens = type :: later ∧ IsType type := by
      cases derived with
      | last isType isName => exact ⟨_, _, rfl, isType⟩
      | more isType isName separates rest => exact ⟨_, _, rfl, isType⟩
    have begins := ahead
    rw [same] at begins
    apply sight_left begins
    rw [if_neg (by simp [IsType.noClose isType])]
    exact (moreParameters_arrives derived start ahead closes []).weaken

def Undeclared (ofClass : List String) (usage : Usage) (fault : Fault) : Prop :=
  ∃ token ∈ usage.used, token.text ∉ usage.declared ++ ofClass ∧
    fault = ⟨.undefinedSymbol token.text, token.start⟩

theorem Unknown.undeclared {names : VariableTable} {used : List Token} {fault : Fault}
    (unknown : Unknown names used fault) (holds : names.Holds ofClass own) :
    Undeclared ofClass ⟨own, used⟩ fault := by
  obtain ⟨token, member, missing, same⟩ := unknown
  exact ⟨token, member, fun declared => missing (holds.knows declared), same⟩

theorem subroutineBody_arrives {locals : List String} {used : List Token}
    (derived : DerivesSubroutineBody tokens locals used) (start : s.names.Holds ofClass own)
    (ahead : s.cursor.ahead = tokens ++ rest) (kind : SubroutineKind) (functionName : String) :
    (s.subroutineBody kind functionName).Meets (fun _ s' => s'.Arrives (·.Holds ofClass []) rest)
      (fun fault _ => Undeclared ofClass ⟨own ++ locals, used⟩ fault) := by
  cases derived with
  | @body opening closing locals statements _ _ opens declares derived closes =>
    unfold subroutineBody
    apply Meets.andThen (expectSymbol_left ahead opens)
    intro opening s₁ h₁ seen
    obtain ⟨_, left⟩ := seen
    have holds₁ := left.holds start
    obtain ⟨first, later, same, ends⟩ := Completes.first_statements rest derived closes
    have split : s₁.cursor.ahead = locals ++ first :: later := by
      rw [left.ahead, ← same]
      simp
    have declared := many_arrives (readsPart_varDec (follows_own ofClass)) (by simp) own declares holds₁
      split ends.noLocal []
    apply Meets.andThen (declared.mono (fun _ _ arrives => arrives) fun _ _ never => never.elim)
    intro names s₂ h₂ seen
    obtain ⟨ahead₂, holds₂⟩ := seen
    have reads : ∀ code, (s₂.emit code).Goes used (closing :: rest) (s₂.emit code).statements := by
      intro code
      rw [ParseState.statements]
      exact derived.completes (s₂.emit code) closing rest [] (by rw [same]; exact ahead₂) closes
    apply Meets.andThen ((reads _).mono (fun _ _ left => left) fun _ _ unknown =>
      unknown.undeclared holds₂)
    intro statements s₃ h₃ left₃
    have holds₃ := (left₃.holds holds₂).forget
    apply Meets.andThen (expectSymbol_left left₃.ahead closes)
    intro closing s₄ h₄ seen
    obtain ⟨_, left₄⟩ := seen
    exact ⟨left₄.ahead, left₄.holds holds₃⟩

theorem holds_enterSubroutine (start : s.names.Holds ofClass own) (kind : SubroutineKind) :
    (s.enterSubroutine kind).names.Holds ofClass [] := by
  have fresh := start.startSubroutine
  cases kind with
  | ctor => exact fresh
  | function => exact fresh
  | method => exact (fresh.define "this" s.className .argument).forget

theorem cursor_enterSubroutine (s : ParseState) (kind : SubroutineKind) :
    (s.enterSubroutine kind).cursor = s.cursor := by
  cases kind <;> rfl

theorem subroutine_arrives {usages : List Usage} (derived : DerivesSubroutine tokens usages)
    (start : s.names.Holds ofClass own) (ahead : s.cursor.ahead = tokens ++ rest)
    (kind : SubroutineKind) :
    (s.subroutine kind).Meets (fun _ s' => s'.Arrives (·.Holds ofClass []) rest)
      (fun fault _ => ∃ usage ∈ usages, Undeclared ofClass usage fault) := by
  cases derived with
  | subroutine begins isType isName opens declares closes derived =>
    unfold ParseState.subroutine
    apply Meets.andThen (advance_left ahead)
    intro keyword s₁ h₁ seen
    obtain ⟨_, left₁, _⟩ := seen
    have holds₁ := holds_enterSubroutine (left₁.holds start) kind
    apply Meets.andThen (returnType_left isType (by rw [cursor_enterSubroutine]; exact left₁.ahead))
    intro type s₂ h₂ left₂
    apply Meets.andThen (expectIdentifier_left left₂.ahead isName)
    intro name s₃ h₃ seen
    obtain ⟨_, left₃⟩ := seen
    apply Meets.andThen (expectSymbol_left left₃.ahead opens)
    intro opening s₄ h₄ seen
    obtain ⟨_, left₄⟩ := seen
    have holds₄ := left₄.holds (left₃.holds (left₂.holds holds₁))
    apply Meets.andThen (parameters_arrives declares holds₄ (by simpa using left₄.ahead) closes)
    intro parameters s₅ h₅ seen
    obtain ⟨ahead₅, holds₅⟩ := seen
    apply Meets.andThen (expectSymbol_left ahead₅ closes)
    intro closing s₆ h₆ seen
    obtain ⟨_, left₆⟩ := seen
    have body := subroutineBody_arrives derived (left₆.holds holds₅) left₆.ahead kind
    apply Meets.andThen ((body _).mono (fun _ _ arrives => arrives) fun fault _ undeclared =>
      ⟨_, List.mem_singleton_self _, undeclared⟩)
    intro body s₇ h₇ arrives
    exact arrives

theorem readsPart_subroutine (ofClass : List String) :
    ReadsPart DerivesSubroutine SubroutineKind.ofKind? ParseState.subroutine
      (fun _ table => table.Holds ofClass [])
      fun usages fault => ∃ usage ∈ usages, Undeclared ofClass usage fault := by
  intro tokens usages derived s known rest start ahead
  have meets := subroutine_arrives derived start ahead
  cases derived with
  | subroutine begins =>
    rcases begins with isWord | isWord | isWord
    · exact ⟨_, _, .ctor, rfl, by rw [Token.kind_of_isKeyword isWord]; rfl, meets .ctor⟩
    · exact ⟨_, _, .function, rfl, by rw [Token.kind_of_isKeyword isWord]; rfl, meets .function⟩
    · exact ⟨_, _, .method, rfl, by rw [Token.kind_of_isKeyword isWord]; rfl, meets .method⟩

theorem undeclared_append (ofClass : List String) (first later : List Usage) (fault : Fault)
    (undeclared : (∃ usage ∈ first, Undeclared ofClass usage fault) ∨
      ∃ usage ∈ later, Undeclared ofClass usage fault) :
    ∃ usage ∈ first ++ later, Undeclared ofClass usage fault := by
  rcases undeclared with ⟨usage, member, undeclared⟩ | ⟨usage, member, undeclared⟩
  · exact ⟨usage, List.mem_append_left _ member, undeclared⟩
  · exact ⟨usage, List.mem_append_right _ member, undeclared⟩

theorem first_subroutines {usages : List Usage} (derived : Repeated DerivesSubroutine tokens usages)
    (closes : next.isSymbol '}') (rest : List Token) :
    ∃ first later, tokens ++ next :: rest = first :: later ∧
      VariableKind.ofClassKeyword? first.kind = none := by
  cases derived with
  | none => exact ⟨next, rest, rfl, by rw [Token.kind_of_isSymbol closes]; rfl⟩
  | next derived later =>
    cases derived with
    | subroutine begins =>
      refine ⟨_, _, rfl, ?_⟩
      rcases begins with isWord | isWord | isWord <;> rw [Token.kind_of_isKeyword isWord] <;> rfl

theorem classDec_arrives {classNames : List String} {usages : List Usage}
    (derived : DerivesClass tokens classNames usages) (start : s.names.Holds [] [])
    (ahead : s.cursor.ahead = tokens ++ rest) :
    s.classDec.Meets (fun _ s' => s'.cursor.ahead = rest)
      (fun fault _ => ∃ usage ∈ usages, Undeclared classNames usage fault) := by
  cases derived with
  | @classDec _ _ _ closing declarations subroutines _ _ isClass isName opens declares derived closes =>
    unfold ParseState.classDec
    apply Meets.andThen (expectKeyword_left ahead isClass)
    intro keyword s₁ h₁ seen
    obtain ⟨_, left₁⟩ := seen
    apply Meets.andThen (expectIdentifier_left left₁.ahead isName)
    intro name s₂ h₂ seen
    obtain ⟨_, left₂⟩ := seen
    apply Meets.andThen (expectSymbol_left (s := s₂.setClassName name.text) left₂.ahead opens)
    intro opening s₃ h₃ seen
    obtain ⟨_, left₃⟩ := seen
    have holds₃ : s₃.names.Holds [] [] := left₃.holds (left₂.holds (left₁.holds start))
    obtain ⟨first, later, same, ends⟩ := first_subroutines derived closes rest
    have split : s₃.cursor.ahead = declarations ++ first :: later := by
      rw [left₃.ahead, ← same]
      simp
    have declared := many_arrives (readsPart_classVarDec follows_ofClass) (by simp) [] declares
      holds₃ split ends []
    apply Meets.andThen (declared.mono (fun _ _ arrives => arrives) fun _ _ never => never.elim)
    intro groups s₄ h₄ seen
    obtain ⟨ahead₄, holds₄⟩ := seen
    have noMore : SubroutineKind.ofKind? closing.kind = none := by
      rw [Token.kind_of_isSymbol closes]
      rfl
    have read := many_arrives (readsPart_subroutine _) (undeclared_append _) [] derived holds₄
      (ahead₄.trans same.symm) noMore []
    apply Meets.andThen read
    intro all s₅ h₅ seen
    obtain ⟨ahead₅, _⟩ := seen
    apply Meets.andThen (expectSymbol_left ahead₅ closes)
    intro closing s₆ h₆ seen
    obtain ⟨_, left₆⟩ := seen
    exact left₆.ahead

/-- What the grammar derives is accepted, unless a variable is used without a declaration. -/
theorem unit_arrives {classNames : List String} {usages : List Usage}
    (derived : DerivesClass tokens classNames usages) (start : s.names.Holds [] [])
    (ahead : s.cursor.ahead = tokens) :
    s.unit.Meets (fun _ _ => True)
      (fun fault _ => ∃ usage ∈ usages, Undeclared classNames usage fault) := by
  unfold ParseState.unit
  have classDec := classDec_arrives derived start (ahead.trans (List.append_nil tokens).symm)
  apply Meets.andThen classDec
  intro declaration s₁ h₁ done
  split
  · trivial
  · rename_i token later more
    rw [done] at more
    cases more

end ParseState

/-- A token sequence is accepted exactly if the grammar derives all of it with every used variable
declared, in the class or in the subroutine that uses it. -/
theorem accepts_iff_derives (tokens : List Token) :
    (∃ declaration s, parse tokens = .ok declaration s) ↔
      ∃ classNames usages, DerivesClass tokens classNames usages ∧
        ∀ usage ∈ usages, ∀ token ∈ usage.used, token.text ∈ usage.declared ++ classNames := by
  constructor
  · intro seen
    obtain ⟨declaration, s, accepted⟩ := seen
    obtain ⟨yields, nothing⟩ := parse_reads accepted
    have same : tokens = declaration.tokens := by
      have ahead := yields.ahead
      rwa [nothing, List.append_nil] at ahead
    rw [same]
    exact ClassDec.derivesClass yields.grammatical yields.resolved
  · intro seen
    obtain ⟨classNames, usages, derived, known⟩ := seen
    have meets : (ParseState.start tokens).unit.Meets _ _ :=
      unit_arrives derived VariableTable.Holds.empty rfl
    cases same : parse tokens with
    | ok declaration s => exact ⟨declaration, s, rfl⟩
    | error fault s =>
      obtain ⟨usage, member, token, used, undeclared, _⟩ := Meets.of_error meets same
      exact absurd (known usage member token used) undeclared

end Jack
