import Jack.Parse.ClassDec

namespace Jack

variable {α β ε δ : Type}

def Emitter.Along [Emitter ε] [Emitter δ] (f : ε → δ) : Prop :=
  ∀ emitter instruction, f (take emitter instruction) = take (f emitter) instruction

theorem Emitter.Along.takeAll [Emitter ε] [Emitter δ] {f : ε → δ} (along : Along f) (emitter : ε)
    (code : List Instruction) :
    f (Emitter.takeAll emitter code) = Emitter.takeAll (f emitter) code := by
  induction code generalizing emitter with
  | nil => rfl
  | cons instruction code ih => rw [takeAll_cons, ih, along, takeAll_cons]

theorem Emitter.along_replay [Emitter ε] (emitter : ε) :
    Along fun recorded : List Instruction => Emitter.takeAll emitter recorded.reverse := by
  intro recorded instruction
  show Emitter.takeAll emitter (instruction :: recorded).reverse = _
  rw [List.reverse_cons, takeAll_append]
  rfl

theorem Emitter.along_older (older : List Instruction) :
    Along fun recorded : List Instruction => recorded ++ older :=
  fun _ _ => rfl

namespace ParseState

def map (f : ε → δ) (s : ParseState ε) : ParseState δ :=
  { s with emitted := f s.emitted }

variable {f : ε → δ}

@[simp] theorem remaining_map (s : ParseState ε) : (s.map f).remaining = s.remaining := rfl

theorem map_emit [Emitter ε] [Emitter δ] (along : Emitter.Along f) (s : ParseState ε)
    (code : List Instruction) : (s.emit code).map f = (s.map f).emit code := by
  rw [map, emit, along.takeAll]
  rfl

theorem map_enterSubroutine (s : ParseState ε) (kind : SubroutineKind) :
    (s.enterSubroutine kind).map f = (s.map f).enterSubroutine kind := by
  cases kind <;> rfl

end ParseState

def Reply.map (f : ε → δ) : Reply α ε → Reply α δ
  | .ok value s => .ok value (s.map f)
  | .error fault s => .error fault (s.map f)

namespace Step

variable {m m' n n' : Nat} {f : ε → δ}

/-- The second step replies as the first one, with the emitter mapped. -/
def Maps (f : ε → δ) (step : Step α n ε) (mapped : Step α n' δ) : Prop :=
  mapped.reply = step.reply.map f

theorem maps_done (value : α) {s : ParseState ε} {t : ParseState δ} (same : t = s.map f)
    {fits : s.remaining < n} {fits' : t.remaining < n'} :
    (done value s fits).Maps f (done value t fits') := by
  subst same
  rfl

theorem maps_fail (fault : Fault) (s : ParseState ε) :
    (fail fault s : Step α n ε).Maps f (fail fault (s.map f) : Step α n' δ) := rfl

theorem Maps.weaken {step : Step α m ε} {mapped : Step α m' δ} {le : m ≤ n} {le' : m' ≤ n'}
    (maps : step.Maps f mapped) : (step.weaken le).Maps f (mapped.weaken le') := maps

theorem Maps.andThen {step : Step α m ε} {mapped : Step α m' δ}
    {next : (value : α) → (s : ParseState ε) → s.remaining < m → Step β n ε}
    {next' : (value : α) → (t : ParseState δ) → t.remaining < m' → Step β n' δ}
    (first : step.Maps f mapped)
    (rest : ∀ value s fits fits', (next value s fits).Maps f (next' value (s.map f) fits')) :
    (step.andThen next).Maps f (mapped.andThen next') := by
  obtain ⟨reply, fits⟩ := step
  obtain ⟨reply', fits'⟩ := mapped
  change reply' = reply.map f at first
  subst first
  cases reply with
  | ok value s => exact rest value s (fits value s rfl) (fits' value (s.map f) rfl)
  | error fault s => rfl

end Step

namespace ParseState

open Step

variable {n n' : Nat} {f : ε → δ}

theorem maps_attempt (s : ParseState ε) (result : Except Fault α) {next : α → Step β n ε}
    {next' : α → Step β n' δ} (rest : ∀ value, (next value).Maps f (next' value)) :
    (s.attempt result next).Maps f ((s.map f).attempt result next') := by
  cases result with
  | ok value => exact rest value
  | error fault => exact maps_fail fault s

theorem maps_sight (s : ParseState ε) {next : Token → Step β n ε} {next' : Token → Step β n' δ}
    (rest : ∀ token, (next token).Maps f (next' token)) :
    (s.sight next).Maps f ((s.map f).sight next') :=
  maps_attempt s s.cursor.peek rest

theorem maps_advance (s : ParseState ε) : s.advance.Maps f (s.map f).advance := by
  obtain ⟨⟨behind, ahead, returned⟩, names, className, nextLabel, emitted⟩ := s
  cases ahead <;> rfl

theorem maps_giveBack (s : ParseState ε) : s.giveBack.Maps f (s.map f).giveBack := by
  obtain ⟨⟨behind, ahead, returned⟩, names, className, nextLabel, emitted⟩ := s
  rcases behind with _ | ⟨token, behind⟩
  · rfl
  · cases returned <;> rfl

theorem maps_tested (s : ParseState ε) (test : Token → Bool) (fault : Token → Fault) :
    Maps f
      (s.advance.andThen fun token s₁ h₁ =>
        if test token then .done token s₁ h₁ else .fail (fault token) s₁ :
          Step Token s.remaining ε)
      ((s.map f).advance.andThen fun token s₁ h₁ =>
        if test token then .done token s₁ h₁ else .fail (fault token) s₁) := by
  apply Maps.andThen (maps_advance s)
  intro token s₁ h₁ _
  by_cases passes : test token
  · rw [if_pos passes, if_pos passes]
    exact maps_done token rfl
  · rw [if_neg passes, if_neg passes]
    exact maps_fail _ _

theorem maps_expectSymbol (s : ParseState ε) (mark : Char) :
    (s.expectSymbol mark).Maps f ((s.map f).expectSymbol mark) :=
  maps_tested s _ _

theorem maps_expectKeyword (s : ParseState ε) (word : Keyword) :
    (s.expectKeyword word).Maps f ((s.map f).expectKeyword word) :=
  maps_tested s _ _

theorem maps_expectIdentifier (s : ParseState ε) :
    s.expectIdentifier.Maps f (s.map f).expectIdentifier :=
  maps_tested s _ _

section

variable {κ : Type} {select : LexemeKind → Option κ}
  {item : (s : ParseState ε) → κ → Step α s.remaining ε}
  {item' : (s : ParseState δ) → κ → Step α s.remaining δ}

theorem maps_many (each : ∀ s choice, (item s choice).Maps f (item' (s.map f) choice))
    (s : ParseState ε) (found : List α) :
    (many select item s found).Maps f (many select item' (s.map f) found) := by
  rw [many, many]
  apply maps_sight
  intro next
  cases select next.kind with
  | none => exact maps_done _ rfl
  | some choice =>
    apply Maps.andThen (each s choice)
    intro value s₁ h₁ _
    exact (maps_many each s₁ (value :: found)).weaken
termination_by s.remaining

end

section

variable [Emitter ε] [Emitter δ]

mutual

theorem maps_term (along : Emitter.Along f) (s : ParseState ε) : s.term.Maps f (s.map f).term := by
  rw [term, term]
  apply Maps.andThen (maps_advance s)
  intro token s₁ h₁ _
  cases TermStart.ofKind? token.kind with
  | none => exact maps_fail _ _
  | some start =>
    cases start with
    | constant value => exact maps_done _ (map_emit along s₁ _).symm
    | group =>
      apply Maps.andThen (maps_expression along s₁)
      intro inner s₂ h₂ _
      apply Maps.andThen (maps_expectSymbol s₂ ')')
      intro closing s₃ h₃ _
      exact maps_done _ rfl
    | unary operator =>
      apply Maps.andThen (maps_term along s₁)
      intro operand s₂ h₂ _
      exact maps_done _ (map_emit along s₂ _).symm
    | name => exact (maps_nameTerm along s₁ token).weaken
termination_by 5 * s.remaining + 2
decreasing_by all_goals omega

theorem maps_nameTerm (along : Emitter.Along f) (s : ParseState ε) (token : Token) :
    (s.nameTerm token).Maps f ((s.map f).nameTerm token) := by
  rw [nameTerm, nameTerm]
  apply maps_sight
  intro next
  by_cases opens : next.isSymbol '['
  · rw [if_pos opens, if_pos opens]
    apply maps_attempt
    intro entry
    have opened := maps_advance (f := f) (s.emit [entry.push])
    rw [map_emit along] at opened
    apply Maps.andThen opened
    intro opening s₁ h₁ _
    apply Maps.andThen (maps_expression along s₁)
    intro index s₂ h₂ _
    apply Maps.andThen (maps_expectSymbol s₂ ']')
    intro closing s₃ h₃ _
    exact maps_done _ (map_emit along s₃ _).symm
  · rw [if_neg opens, if_neg opens]
    by_cases calls : next.isSymbol '(' || next.isSymbol '.'
    · rw [if_pos calls, if_pos calls]
      apply Maps.andThen (maps_giveBack s)
      intro _ s₁ h₁ _
      apply Maps.andThen (maps_call along s₁)
      intro call s₂ h₂ _
      exact maps_done _ rfl
    · rw [if_neg calls, if_neg calls]
      apply maps_attempt
      intro entry
      exact maps_done _ (map_emit along s _).symm
termination_by 5 * s.remaining + 6
decreasing_by all_goals grind

theorem maps_expression (along : Emitter.Along f) (s : ParseState ε) :
    s.expression.Maps f (s.map f).expression := by
  rw [expression, expression]
  apply Maps.andThen (maps_term along s)
  intro first s₁ h₁ _
  exact (maps_operations along s₁ _).weaken
termination_by 5 * s.remaining + 3
decreasing_by all_goals omega

theorem maps_operations (along : Emitter.Along f) (s : ParseState ε) (left : Expression) :
    (s.operations left).Maps f ((s.map f).operations left) := by
  rw [operations, operations]
  apply maps_sight
  intro next
  cases BinaryOperator.ofKind? next.kind with
  | none => exact maps_done _ rfl
  | some operator =>
    apply Maps.andThen (maps_advance s)
    intro token s₁ h₁ _
    apply Maps.andThen (maps_term along s₁)
    intro right s₂ h₂ _
    have later := maps_operations along (s₂.emit [operator.code])
      (.binary left token operator right)
    rw [map_emit along] at later
    exact later.weaken
termination_by 5 * s.remaining + 3
decreasing_by all_goals grind

theorem maps_call (along : Emitter.Along f) (s : ParseState ε) : s.call.Maps f (s.map f).call := by
  rw [call, call]
  apply Maps.andThen (maps_expectIdentifier s)
  intro first s₁ h₁ _
  apply maps_sight
  intro next
  by_cases dots : next.isSymbol '.'
  · rw [if_pos dots, if_pos dots]
    change Maps f _ (match s₁.qualifierVariable? first.text with | none => _ | some entry => _)
    cases s₁.qualifierVariable? first.text with
    | none => exact (maps_qualifiedCall along s₁ _ _ _).weaken
    | some entry =>
      have later := maps_qualifiedCall along (s₁.emit [entry.push]) (.use first entry) entry.type 1
      rw [map_emit along] at later
      exact later.weaken
  · rw [if_neg dots, if_neg dots]
    have opened := maps_expectSymbol (f := f) (s₁.emit [.push .pointer 0]) '('
    rw [map_emit along] at opened
    apply Maps.andThen opened
    intro opening s₂ h₂ _
    apply Maps.andThen (maps_arguments along s₂)
    intro arguments s₃ h₃ _
    apply Maps.andThen (maps_expectSymbol s₃ ')')
    intro closing s₄ h₄ _
    exact maps_done _ (map_emit along s₄ _).symm
termination_by 5 * s.remaining
decreasing_by all_goals grind

theorem maps_qualifiedCall (along : Emitter.Along f) (s : ParseState ε) (qualifier : Name)
    (target : String) (implicit : Nat) :
    (s.qualifiedCall qualifier target implicit).Maps f
      ((s.map f).qualifiedCall qualifier target implicit) := by
  rw [qualifiedCall, qualifiedCall]
  apply Maps.andThen (maps_advance s)
  intro dot s₁ h₁ _
  apply Maps.andThen (maps_expectIdentifier s₁)
  intro subroutine s₂ h₂ _
  apply Maps.andThen (maps_expectSymbol s₂ '(')
  intro opening s₃ h₃ _
  apply Maps.andThen (maps_arguments along s₃)
  intro arguments s₄ h₄ _
  apply Maps.andThen (maps_expectSymbol s₄ ')')
  intro closing s₅ h₅ _
  exact maps_done _ (map_emit along s₅ _).symm
termination_by 5 * s.remaining
decreasing_by all_goals omega

theorem maps_arguments (along : Emitter.Along f) (s : ParseState ε) :
    s.arguments.Maps f (s.map f).arguments := by
  rw [arguments, arguments]
  apply maps_sight
  intro next
  by_cases closes : next.isSymbol ')'
  · rw [if_pos closes, if_pos closes]
    exact maps_done _ rfl
  · rw [if_neg closes, if_neg closes]
    apply Maps.andThen (maps_expression along s)
    intro value s₁ h₁ _
    exact (maps_moreArguments along s₁ _).weaken
termination_by 5 * s.remaining + 4
decreasing_by all_goals omega

theorem maps_moreArguments (along : Emitter.Along f) (s : ParseState ε) (before : Arguments) :
    (s.moreArguments before).Maps f ((s.map f).moreArguments before) := by
  rw [moreArguments, moreArguments]
  apply maps_sight
  intro next
  by_cases separates : next.isSymbol ','
  · rw [if_pos separates, if_pos separates]
    apply Maps.andThen (maps_advance s)
    intro comma s₁ h₁ _
    apply Maps.andThen (maps_expression along s₁)
    intro value s₂ h₂ _
    exact (maps_moreArguments along s₂ _).weaken
  · rw [if_neg separates, if_neg separates]
    exact maps_done _ rfl
termination_by 5 * s.remaining + 4
decreasing_by all_goals omega

end

theorem maps_letStatement (along : Emitter.Along f) (s : ParseState ε) :
    s.letStatement.Maps f (s.map f).letStatement := by
  rw [letStatement, letStatement]
  apply Maps.andThen (maps_expectKeyword s .letKw)
  intro keyword s₁ h₁ _
  apply Maps.andThen (maps_expectIdentifier s₁)
  intro name s₂ h₂ _
  apply maps_attempt
  intro entry
  apply maps_sight
  intro next
  by_cases opens : next.isSymbol '['
  · rw [if_pos opens, if_pos opens]
    have opened := maps_advance (f := f) (s₂.emit [entry.push])
    rw [map_emit along] at opened
    apply Maps.andThen opened
    intro opening s₃ h₃ _
    apply Maps.andThen (maps_expression along s₃)
    intro index s₄ h₄ _
    apply Maps.andThen (maps_expectSymbol s₄ ']')
    intro closing s₅ h₅ _
    have assigns := maps_expectSymbol (f := f) (s₅.emit [.apply .add]) '='
    rw [map_emit along] at assigns
    apply Maps.andThen assigns
    intro equals s₆ h₆ _
    apply Maps.andThen (maps_expression along s₆)
    intro value s₇ h₇ _
    apply Maps.andThen (maps_expectSymbol s₇ ';')
    intro semicolon s₈ h₈ _
    exact maps_done _ (map_emit along s₈ _).symm
  · rw [if_neg opens, if_neg opens]
    apply Maps.andThen (maps_expectSymbol s₂ '=')
    intro equals s₃ h₃ _
    apply Maps.andThen (maps_expression along s₃)
    intro value s₄ h₄ _
    apply Maps.andThen (maps_expectSymbol s₄ ';')
    intro semicolon s₅ h₅ _
    exact maps_done _ (map_emit along s₅ _).symm

theorem maps_doStatement (along : Emitter.Along f) (s : ParseState ε) :
    s.doStatement.Maps f (s.map f).doStatement := by
  rw [doStatement, doStatement]
  apply Maps.andThen (maps_expectKeyword s .doKw)
  intro keyword s₁ h₁ _
  apply Maps.andThen (maps_call along s₁)
  intro call s₂ h₂ _
  apply Maps.andThen (maps_expectSymbol s₂ ';')
  intro semicolon s₃ h₃ _
  exact maps_done _ (map_emit along s₃ _).symm

theorem maps_returnStatement (along : Emitter.Along f) (s : ParseState ε) :
    s.returnStatement.Maps f (s.map f).returnStatement := by
  rw [returnStatement, returnStatement]
  apply Maps.andThen (maps_expectKeyword s .returnKw)
  intro keyword s₁ h₁ _
  apply maps_sight
  intro next
  by_cases ends : next.isSymbol ';'
  · rw [if_pos ends, if_pos ends]
    have ended := maps_expectSymbol (f := f) (s₁.emit [.push .constant 0]) ';'
    rw [map_emit along] at ended
    apply Maps.andThen ended
    intro semicolon s₂ h₂ _
    exact maps_done _ (map_emit along s₂ _).symm
  · rw [if_neg ends, if_neg ends]
    apply Maps.andThen (maps_expression along s₁)
    intro value s₂ h₂ _
    apply Maps.andThen (maps_expectSymbol s₂ ';')
    intro semicolon s₃ h₃ _
    exact maps_done _ (map_emit along s₃ _).symm

mutual

theorem maps_ifStatement (along : Emitter.Along f) (s : ParseState ε) :
    s.ifStatement.Maps f (s.map f).ifStatement := by
  rw [ifStatement, ifStatement]
  apply Maps.andThen (maps_expectKeyword s .ifKw)
  intro keyword s₁ h₁ _
  apply Maps.andThen (maps_expectSymbol s₁.useLabel '(')
  intro opening s₂ h₂ _
  apply Maps.andThen (maps_expression along s₂)
  intro condition s₃ h₃ _
  apply Maps.andThen (maps_expectSymbol s₃ ')')
  intro closing s₄ h₄ _
  have tested := maps_block along (s₄.emit [.jumpIfFalse (elseLabel s₁.nextLabel)])
  rw [map_emit along] at tested
  apply Maps.andThen tested
  intro body s₅ h₅ _
  apply maps_sight
  intro next
  by_cases otherwise : next.isKeyword .elseKw
  · rw [if_pos otherwise, if_pos otherwise]
    have word := maps_advance (f := f)
      (s₅.emit [.jump (endLabel s₁.nextLabel), .label (elseLabel s₁.nextLabel)])
    rw [map_emit along] at word
    apply Maps.andThen word
    intro elseKeyword s₆ h₆ _
    apply Maps.andThen (maps_block along s₆)
    intro alternative s₇ h₇ _
    exact maps_done _ (map_emit along s₇ _).symm
  · rw [if_neg otherwise, if_neg otherwise]
    exact maps_done _ (map_emit along s₅ _).symm
termination_by 4 * s.remaining
decreasing_by all_goals grind

theorem maps_whileStatement (along : Emitter.Along f) (s : ParseState ε) :
    s.whileStatement.Maps f (s.map f).whileStatement := by
  rw [whileStatement, whileStatement]
  apply Maps.andThen (maps_expectKeyword s .whileKw)
  intro keyword s₁ h₁ _
  have begins := maps_expectSymbol (f := f) (s₁.useLabel.emit [.label (testLabel s₁.nextLabel)]) '('
  rw [map_emit along] at begins
  apply Maps.andThen begins
  intro opening s₂ h₂ _
  apply Maps.andThen (maps_expression along s₂)
  intro condition s₃ h₃ _
  apply Maps.andThen (maps_expectSymbol s₃ ')')
  intro closing s₄ h₄ _
  have tested := maps_block along (s₄.emit [.jumpIfFalse (exitLabel s₁.nextLabel)])
  rw [map_emit along] at tested
  apply Maps.andThen tested
  intro body s₅ h₅ _
  exact maps_done _ (map_emit along s₅ _).symm
termination_by 4 * s.remaining
decreasing_by all_goals grind

theorem maps_statementOf (along : Emitter.Along f) (s : ParseState ε) (kind : StatementKind) :
    (s.statementOf kind).Maps f ((s.map f).statementOf kind) := by
  rw [statementOf.eq_def, statementOf.eq_def]
  cases kind with
  | letKind => exact maps_letStatement along s
  | ifKind => exact maps_ifStatement along s
  | whileKind => exact maps_whileStatement along s
  | doKind => exact maps_doStatement along s
  | returnKind => exact maps_returnStatement along s
termination_by 4 * s.remaining + 1
decreasing_by all_goals omega

theorem maps_block (along : Emitter.Along f) (s : ParseState ε) :
    s.block.Maps f (s.map f).block := by
  rw [block, block]
  apply Maps.andThen (maps_expectSymbol s '{')
  intro opening s₁ h₁ _
  apply Maps.andThen (maps_statements along s₁)
  intro statements s₂ h₂ _
  apply Maps.andThen (maps_expectSymbol s₂ '}')
  intro closing s₃ h₃ _
  exact maps_done _ rfl
termination_by 4 * s.remaining + 3
decreasing_by all_goals omega

theorem maps_statements (along : Emitter.Along f) (s : ParseState ε) :
    s.statements.Maps f (s.map f).statements := by
  rw [statements, statements]
  exact maps_moreStatements along s []
termination_by 4 * s.remaining + 3
decreasing_by all_goals omega

theorem maps_moreStatements (along : Emitter.Along f) (s : ParseState ε) (found : List Statement) :
    (s.moreStatements found).Maps f ((s.map f).moreStatements found) := by
  rw [moreStatements, moreStatements]
  apply maps_sight
  intro next
  cases StatementKind.ofKind? next.kind with
  | none => exact maps_done _ rfl
  | some kind =>
    apply Maps.andThen (maps_statementOf along s kind)
    intro statement s₁ h₁ _
    exact (maps_moreStatements along s₁ _).weaken
termination_by 4 * s.remaining + 2
decreasing_by all_goals omega

end

end

theorem maps_typeName (s : ParseState ε) : s.typeName.Maps f (s.map f).typeName := by
  apply Maps.andThen (maps_advance s)
  intro token s₁ h₁ _
  by_cases builtin : isBuiltinType token.kind
  · rw [if_pos builtin, if_pos builtin]
    exact maps_done _ rfl
  · rw [if_neg builtin, if_neg builtin]
    by_cases isName : token.isIdentifier
    · rw [if_pos isName, if_pos isName]
      exact maps_done _ rfl
    · rw [if_neg isName, if_neg isName]
      exact maps_fail _ _

theorem maps_returnType (s : ParseState ε) : s.returnType.Maps f (s.map f).returnType := by
  apply maps_sight
  intro next
  by_cases isVoid : next.isKeyword .voidKw
  · rw [if_pos isVoid, if_pos isVoid]
    apply Maps.andThen (maps_advance s)
    intro token s₁ h₁ _
    exact maps_done _ rfl
  · rw [if_neg isVoid, if_neg isVoid]
    exact maps_typeName s

theorem maps_newVariable (s : ParseState ε) (type : String) (kind : VariableKind) :
    (s.newVariable type kind).Maps f ((s.map f).newVariable type kind) := by
  apply Maps.andThen (maps_expectIdentifier s)
  intro token s₁ h₁ _
  exact maps_done _ rfl

theorem maps_newVariables (s : ParseState ε) (type : String) (kind : VariableKind)
    (found : List (Name × Token)) :
    (s.newVariables type kind found).Maps f ((s.map f).newVariables type kind found) := by
  rw [newVariables, newVariables]
  apply Maps.andThen (maps_newVariable s type kind)
  intro name s₁ h₁ _
  apply Maps.andThen (maps_advance s₁)
  intro separator s₂ h₂ _
  by_cases more : separator.isSymbol ','
  · rw [if_pos more, if_pos more]
    exact (maps_newVariables s₂ type kind _).weaken
  · rw [if_neg more, if_neg more]
    by_cases ends : separator.isSymbol ';'
    · rw [if_pos ends, if_pos ends]
      exact maps_done _ rfl
    · rw [if_neg ends, if_neg ends]
      exact maps_fail _ _
termination_by s.remaining

theorem maps_variableDec (s : ParseState ε) (kind : VariableKind) :
    (s.variableDec kind).Maps f ((s.map f).variableDec kind) := by
  apply Maps.andThen (maps_advance s)
  intro keyword s₁ h₁ _
  apply Maps.andThen (maps_typeName s₁)
  intro type s₂ h₂ _
  apply Maps.andThen (maps_newVariables s₂ type.text kind [])
  intro names s₃ h₃ _
  exact maps_done _ rfl

theorem maps_moreParameters (s : ParseState ε) (found : List Parameter) :
    (s.moreParameters found).Maps f ((s.map f).moreParameters found) := by
  rw [moreParameters, moreParameters]
  apply Maps.andThen (maps_typeName s)
  intro type s₁ h₁ _
  apply Maps.andThen (maps_newVariable s₁ type.text .argument)
  intro name s₂ h₂ _
  apply maps_sight
  intro next
  by_cases more : next.isSymbol ','
  · rw [if_pos more, if_pos more]
    apply Maps.andThen (maps_advance s₂)
    intro comma s₃ h₃ _
    exact (maps_moreParameters s₃ _).weaken
  · rw [if_neg more, if_neg more]
    exact maps_done _ rfl
termination_by s.remaining

theorem maps_parameters (s : ParseState ε) : s.parameters.Maps f (s.map f).parameters := by
  apply maps_sight
  intro next
  by_cases closes : next.isSymbol ')'
  · rw [if_pos closes, if_pos closes]
    exact maps_done _ rfl
  · rw [if_neg closes, if_neg closes]
    exact (maps_moreParameters s []).weaken

section

variable [Emitter ε] [Emitter δ]

theorem maps_subroutineBody (along : Emitter.Along f) (s : ParseState ε) (kind : SubroutineKind)
    (functionName : String) :
    (s.subroutineBody kind functionName).Maps f
      ((s.map f).subroutineBody kind functionName) := by
  apply Maps.andThen (maps_expectSymbol s '{')
  intro opening s₁ h₁ _
  apply Maps.andThen (maps_many maps_variableDec s₁ [])
  intro locals s₂ h₂ _
  have inside := maps_statements along
    (s₂.emit (.function functionName (s₂.names.count .localVar) ::
      kind.prologue (s₂.names.count .field)))
  rw [map_emit along] at inside
  apply Maps.andThen inside
  intro statements s₃ h₃ _
  apply Maps.andThen (maps_expectSymbol s₃ '}')
  intro closing s₄ h₄ _
  exact maps_done _ rfl

theorem maps_subroutine (along : Emitter.Along f) (s : ParseState ε) (kind : SubroutineKind) :
    (s.subroutine kind).Maps f ((s.map f).subroutine kind) := by
  apply Maps.andThen (maps_advance s)
  intro keyword s₁ h₁ _
  have returns := maps_returnType (f := f) (s₁.enterSubroutine kind)
  rw [map_enterSubroutine] at returns
  apply Maps.andThen returns
  intro type s₂ h₂ _
  apply Maps.andThen (maps_expectIdentifier s₂)
  intro name s₃ h₃ _
  apply Maps.andThen (maps_expectSymbol s₃ '(')
  intro opening s₄ h₄ _
  apply Maps.andThen (maps_parameters s₄)
  intro parameters s₅ h₅ _
  apply Maps.andThen (maps_expectSymbol s₅ ')')
  intro closing s₆ h₆ _
  apply Maps.andThen (maps_subroutineBody along s₆ kind (s₃.className ++ "." ++ name.text))
  intro body s₇ h₇ _
  exact maps_done _ rfl

theorem maps_classDec (along : Emitter.Along f) (s : ParseState ε) :
    s.classDec.Maps f (s.map f).classDec := by
  apply Maps.andThen (maps_expectKeyword s .classKw)
  intro keyword s₁ h₁ _
  apply Maps.andThen (maps_expectIdentifier s₁)
  intro name s₂ h₂ _
  apply Maps.andThen (maps_expectSymbol (s₂.setClassName name.text) '{')
  intro opening s₃ h₃ _
  apply Maps.andThen (maps_many maps_variableDec s₃ [])
  intro declarations s₄ h₄ _
  apply Maps.andThen (maps_many (maps_subroutine along) s₄ [])
  intro subroutines s₅ h₅ _
  apply Maps.andThen (maps_expectSymbol s₅ '}')
  intro closing s₆ h₆ _
  exact maps_done _ rfl

theorem maps_unit (along : Emitter.Along f) (s : ParseState ε) : s.unit.Maps f (s.map f).unit := by
  apply Maps.andThen (maps_classDec along s)
  intro declaration s₁ h₁ _
  have same : (s₁.map f).cursor.ahead = s₁.cursor.ahead := rfl
  simp only [same]
  cases s₁.cursor.ahead with
  | nil => exact maps_done _ rfl
  | cons token rest => exact maps_fail _ _

end

end ParseState

end Jack
