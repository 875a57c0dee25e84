import Jack.Proofs.Reading.ClassDec
import Jack.Proofs.Reading.Parallel

namespace Jack

open Node (SameTree SameTrees)

namespace Reading

open ParseState

variable {ts us : List Token} {n : Nat}

section

variable (terms : Together ts us n (SameTree Term.node) term term)
include terms

theorem operations_together {left left' : Expression} (same : SameTree Expression.node left left') :
    Together ts us n (SameTree Expression.node) (operations left) (operations left') := by
  induction n generalizing left left' with
  | zero => exact .zero _ _
  | succ n ih =>
    have fewer := terms.mono (Nat.le_succ n)
    rw [operations_eq, operations_eq]
    refine .look fun next next' facing => ?_
    rw [facing.kind]
    cases BinaryOperator.ofKind? next'.kind with
    | none => exact .pure same
    | some operator =>
      refine .accept (ofKind (BinaryOperator.ofKind? · == some operator)) fun token token' facing _ => ?_
      refine fewer.bind fun right right' last => ?_
      exact .emit rfl (ih fewer (Expression.sameTree_binary same facing.leaf last))

theorem expression_together :
    Together ts us n (SameTree Expression.node) expression expression := by
  rw [expression_eq]
  refine terms.bind fun first first' same => operations_together terms ?_
  simp [Expression.node, same]

theorem moreArguments_together {before before' : Arguments} (same : SameArguments before before') :
    Together ts us n SameArguments (moreArguments before) (moreArguments before') := by
  induction n generalizing before before' with
  | zero => exact .zero _ _
  | succ n ih =>
    have fewer := terms.mono (Nat.le_succ n)
    rw [moreArguments_eq, moreArguments_eq]
    refine .look fun next next' facing => ?_
    rw [facing.isSymbol]
    split
    · refine .accept (ofKind (· == .symbol ',')) fun comma comma' facing _ => ?_
      refine (expression_together fewer).bind fun value value' last => ?_
      exact ih fewer (same.more facing.leaf last)
    · exact .pure same

theorem arguments_together : Together ts us n SameArguments arguments arguments := by
  rw [arguments_eq]
  refine .look fun next next' facing => ?_
  rw [facing.isSymbol]
  split
  · exact .pure .none
  · exact (expression_together terms).bind fun value value' same =>
      moreArguments_together terms (.one same)

theorem qualifiedCall_together {qualifier qualifier' : Name}
    (same : SameTree Name.node qualifier qualifier') (target : String) (implicit : Nat) :
    Together ts us n (SameTrees Call.nodes) (qualifiedCall qualifier target implicit)
      (qualifiedCall qualifier' target implicit) := by
  refine .symbol fun dot dot' point => ?_
  refine .identifier fun subroutine subroutine' called => ?_
  refine .symbol fun opening opening' opens => ?_
  refine (arguments_together terms).bind fun arguments arguments' given => ?_
  refine .symbol fun closing closing' closes => ?_
  refine .emit (by rw [called.text, given.count]) (.pure ?_)
  simp [Call.nodes, same, point.leaf, called.name, opens.leaf, given.trees, closes.leaf]

theorem callAfter_together {first first' : Token} (called : Facing ts us first first') :
    Together ts us n (SameTrees Call.nodes) (callAfter first) (callAfter first') := by
  refine .look fun next next' facing => ?_
  rw [facing.isSymbol]
  split
  · refine .ask (fun s s' beside => ?_) fun entry? => ?_
    · rw [qualifierVariable?, qualifierVariable?, beside.names, called.text]
    · cases entry? with
      | none =>
        rw [called.text]
        exact qualifiedCall_together terms (called.name _) _ _
      | some entry => exact .emit rfl (qualifiedCall_together terms (called.use entry) _ _)
  · refine .emit rfl ?_
    refine .symbol fun opening opening' opens => ?_
    refine (arguments_together terms).bind fun arguments arguments' given => ?_
    refine .symbol fun closing closing' closes => ?_
    refine .ask (fun s s' beside => beside.className) fun className => ?_
    refine .emit (by rw [called.text, given.count]) (.pure ?_)
    simp [Call.nodes, called.name, opens.leaf, given.trees, closes.leaf]

theorem call_together : Together ts us n (SameTrees Call.nodes) call call := by
  rw [call_eq]
  exact .identifier fun first first' called => callAfter_together terms called

theorem termAfter_together {token token' : Token} (facing : Facing ts us token token') :
    Together ts us n (SameTree Term.node) (termAfter token) (termAfter token') := by
  refine .look fun next next' seen => ?_
  rw [seen.isSymbol '[', seen.isSymbol '(', seen.isSymbol '.']
  split
  · refine .resolve facing fun entry => ?_
    refine .emit rfl ?_
    refine .symbol fun opening opening' opens => ?_
    refine (expression_together terms).bind fun index index' same => ?_
    refine .symbol fun closing closing' closes => ?_
    refine .emit rfl (.pure ?_)
    simp [Term.node, facing.use, opens.leaf, same, closes.leaf]
  · split
    · refine (callAfter_together terms facing).bind fun call call' same => .pure ?_
      simp [Term.node, same]
    · refine .resolve facing fun entry => ?_
      refine .emit rfl (.pure ?_)
      simp [Term.node, facing.use]

end

theorem term_together (n : Nat) : Together ts us n (SameTree Term.node) term term := by
  induction n with
  | zero => exact .zero _ _
  | succ n ih =>
    rw [term_eq]
    refine .accept (ofKind fun kind => (TermStart.ofKind? kind).isSome) fun token token' facing begins => ?_
    rw [facing.kind]
    cases start : TermStart.ofKind? token'.kind with
    | none => simp [start] at begins
    | some choice =>
      cases choice with
      | constant value =>
        refine .emit rfl (.pure ?_)
        simp [Term.node, facing.leaf]
      | group =>
        refine (expression_together ih).bind fun inner inner' same => ?_
        refine .symbol fun closing closing' closes => .pure ?_
        simp [Term.node, facing.leaf, same, closes.leaf]
      | unary operator =>
        refine ih.bind fun operand operand' same => ?_
        refine .emit rfl (.pure ?_)
        simp [Term.node, facing.leaf, same]
      | name => exact termAfter_together ih facing

theorem letStatement_together :
    Together ts us n (SameTree Statement.node) letStatement letStatement := by
  have expressions : Together ts us n (SameTree Expression.node) expression expression :=
    expression_together (term_together n)
  rw [letStatement_eq]
  refine .keyword fun word word' begins => ?_
  refine .identifier fun name name' facing => ?_
  refine .resolve facing fun entry => ?_
  refine .look fun next next' seen => ?_
  rw [seen.isSymbol]
  split
  · refine .emit rfl ?_
    refine .symbol fun opening opening' opens => ?_
    refine expressions.bind fun index index' place => ?_
    refine .symbol fun closing closing' closes => ?_
    refine .emit rfl ?_
    refine .symbol fun equals equals' assigns => ?_
    refine expressions.bind fun value value' same => ?_
    refine .symbol fun semicolon semicolon' ends => ?_
    refine .emit rfl (.pure ?_)
    simp [Statement.node, begins.leaf, facing.use, opens.leaf, place, closes.leaf, assigns.leaf, same,
      ends.leaf]
  · refine .symbol fun equals equals' assigns => ?_
    refine expressions.bind fun value value' same => ?_
    refine .symbol fun semicolon semicolon' ends => ?_
    refine .emit rfl (.pure ?_)
    simp [Statement.node, begins.leaf, facing.use, assigns.leaf, same, ends.leaf]

theorem doStatement_together : Together ts us n (SameTree Statement.node) doStatement doStatement := by
  rw [doStatement_eq]
  refine .keyword fun word word' begins => ?_
  refine (call_together (term_together n)).bind fun call call' same => ?_
  refine .symbol fun semicolon semicolon' ends => ?_
  refine .emit rfl (.pure ?_)
  simp [Statement.node, begins.leaf, same, ends.leaf]

theorem returnStatement_together :
    Together ts us n (SameTree Statement.node) returnStatement returnStatement := by
  rw [returnStatement_eq]
  refine .keyword fun word word' begins => ?_
  refine .look fun next next' seen => ?_
  rw [seen.isSymbol]
  split
  · refine .emit rfl ?_
    refine .symbol fun semicolon semicolon' ends => ?_
    refine .emit rfl (.pure ?_)
    simp [Statement.node, begins.leaf, ends.leaf]
  · refine (expression_together (term_together n)).bind fun value value' same => ?_
    refine .symbol fun semicolon semicolon' ends => ?_
    refine .emit rfl (.pure ?_)
    simp [Statement.node, begins.leaf, same, ends.leaf]

theorem useLabel_together {α : Type} {V : α → α → Prop} {run run' : Reading α}
    (rest : Together ts us n V run run') :
    Together ts us n V (change useLabel >>= fun _ => run) (change useLabel >>= fun _ => run') :=
  .change remaining_useLabel
    (fun _ _ beside => { beside with nextLabel := congrArg (· + 1) beside.nextLabel }) rest

section

variable (blocks : Together ts us n (SameTrees Block.nodes) block block)
include blocks

theorem ifStatement_together :
    Together ts us (n + 1) (SameTree Statement.node) ifStatement ifStatement := by
  rw [ifStatement_eq]
  refine .accept (ofKind (· == .keyword .ifKw)) fun word word' begins _ => ?_
  refine .ask (fun s s' beside => beside.nextLabel) fun number => ?_
  refine useLabel_together ?_
  refine .symbol fun opening opening' opens => ?_
  refine (expression_together (term_together n)).bind fun condition condition' tests => ?_
  refine .symbol fun closing closing' closes => ?_
  refine .emit rfl ?_
  refine blocks.bind fun body body' same => ?_
  refine .look fun next next' seen => ?_
  rw [seen.isKeyword]
  split
  · refine .emit rfl ?_
    refine .keyword fun elseWord elseWord' otherwise => ?_
    refine blocks.bind fun alternative alternative' other => ?_
    refine .emit rfl (.pure ?_)
    simp [Statement.node, begins.leaf, opens.leaf, tests, closes.leaf, same, otherwise.leaf, other]
  · refine .emit rfl (.pure ?_)
    simp [Statement.node, begins.leaf, opens.leaf, tests, closes.leaf, same]

theorem whileStatement_together :
    Together ts us (n + 1) (SameTree Statement.node) whileStatement whileStatement := by
  rw [whileStatement_eq]
  refine .accept (ofKind (· == .keyword .whileKw)) fun word word' begins _ => ?_
  refine .ask (fun s s' beside => beside.nextLabel) fun number => ?_
  refine useLabel_together ?_
  refine .emit rfl ?_
  refine .symbol fun opening opening' opens => ?_
  refine (expression_together (term_together n)).bind fun condition condition' tests => ?_
  refine .symbol fun closing closing' closes => ?_
  refine .emit rfl ?_
  refine blocks.bind fun body body' same => ?_
  refine .emit rfl (.pure ?_)
  simp [Statement.node, begins.leaf, opens.leaf, tests, closes.leaf, same]

theorem statementOf_together (kind : StatementKind) :
    Together ts us (n + 1) (SameTree Statement.node) (statementOf kind) (statementOf kind) := by
  rw [statementOf_eq]
  cases kind with
  | letKind => exact letStatement_together
  | ifKind => exact ifStatement_together blocks
  | whileKind => exact whileStatement_together blocks
  | doKind => exact doStatement_together
  | returnKind => exact returnStatement_together

end

theorem block_together
    (statements : Together ts us n (List.Forall₂ (SameTree Statement.node)) (moreStatements [])
      (moreStatements [])) :
    Together ts us n (SameTrees Block.nodes) block block := by
  rw [block_eq]
  refine .symbol fun opening opening' opens => ?_
  refine statements.bind fun statements statements' same => ?_
  refine .symbol fun closing closing' closes => .pure ?_
  simp [Block.nodes, opens.leaf, statementNodes_eq, Node.SameTree.map same, closes.leaf]

theorem moreStatements_together (n : Nat) {found found' : List Statement}
    (same : List.Forall₂ (SameTree Statement.node) found found') :
    Together ts us n (List.Forall₂ (SameTree Statement.node)) (moreStatements found)
      (moreStatements found') := by
  induction n generalizing found found' with
  | zero => exact .zero _ _
  | succ n ih =>
    rw [moreStatements_eq, moreStatements_eq]
    refine .look fun next next' seen => ?_
    rw [seen.kind]
    cases StatementKind.ofKind? next'.kind with
    | none => exact .pure (List.forall₂_reverse_iff.mpr same)
    | some kind =>
      have statements := statementOf_together (block_together (ih .nil)) kind
      refine statements.bindLess (fun statement statement' first => ih (.cons first same)) ?_
      exact fun s statement t same => (s.statementOf kind).property statement t same

theorem typeName_together : Together ts us n SameType typeName typeName := by
  refine .token (ofKind fun kind => isBuiltinType kind || kind == .identifier)
    fun token token' facing => .pure ?_
  rw [TypeName.ofToken, TypeName.ofToken, facing.kind]
  split
  · exact ⟨facing.leaf, facing.text⟩
  · exact ⟨facing.name _, facing.text⟩

theorem returnType_together : Together ts us n SameType returnType returnType := by
  refine .look fun next next' seen => ?_
  rw [seen.isKeyword]
  split
  · exact .keyword fun token token' facing => .pure ⟨facing.leaf, facing.text⟩
  · exact typeName_together

theorem newVariable_together (type : String) (kind : VariableKind) :
    Together ts us n (SameTree Name.node) (newVariable type kind) (newVariable type kind) := by
  refine .identifier fun token token' facing => ?_
  refine .ask (fun s s' beside => by rw [beside.names]) fun count => ?_
  refine .change (fun s => remaining_define s _ _ _) (fun s s' beside => ?_)
    (.pure (facing.name _))
  rw [facing.text]
  exact beside.define _ _ _

theorem newVariables_together (n : Nat) (type : String) (kind : VariableKind)
    {found found' : List (Name × Token)} (same : List.Forall₂ (SameTrees declaredNodes) found found') :
    Together ts us n (List.Forall₂ (SameTrees declaredNodes)) (newVariables type kind found)
      (newVariables type kind found') := by
  induction n generalizing found found' with
  | zero => exact .zero _ _
  | succ n ih =>
    rw [newVariables_eq, newVariables_eq]
    refine (newVariable_together type kind).bind fun name name' declared => ?_
    refine .accept (ofKind fun kind => kind == .symbol ',' || kind == .symbol ';')
      fun separator separator' facing _ => ?_
    have all : List.Forall₂ (SameTrees declaredNodes) ((name, separator) :: found)
        ((name', separator') :: found') := by
      refine .cons ?_ same
      simp [declaredNodes, declared, facing.leaf]
    rw [facing.isSymbol]
    split
    · exact ih all
    · exact .pure (List.forall₂_reverse_iff.mpr all)

theorem variableDec_together (production : Production) (kind : VariableKind) {word word' : Token}
    (begins : Facing ts us word word') :
    Together ts us n (SameTree (VariableDec.node production)) (variableDec kind word)
      (variableDec kind word') := by
  refine typeName_together.bind fun type type' same => ?_
  rw [same.text]
  refine (newVariables_together n _ _ .nil).bind fun names names' declared => .pure ?_
  simp [VariableDec.node_eq, begins.leaf, same.trees, Node.SameTrees.flatMap declared]

theorem moreParameters_together (n : Nat) {found found' : List Parameter}
    (same : List.Forall₂ (SameTrees Parameter.nodes) found found') :
    Together ts us n (List.Forall₂ (SameTrees Parameter.nodes)) (moreParameters found)
      (moreParameters found') := by
  induction n generalizing found found' with
  | zero => exact .zero _ _
  | succ n ih =>
    rw [moreParameters_eq, moreParameters_eq]
    refine typeName_together.bind fun type type' typed => ?_
    rw [typed.text]
    refine (newVariable_together _ _).bind fun name name' declared => ?_
    refine .look fun next next' seen => ?_
    rw [seen.isSymbol]
    split
    · refine .accept (ofKind (· == .symbol ',')) fun comma comma' facing _ => ih (.cons ?_ same)
      simp [Parameter.nodes, typed.trees, declared, facing.leaf]
    · refine .pure (List.forall₂_reverse_iff.mpr (.cons ?_ same))
      simp [Parameter.nodes, typed.trees, declared]

theorem parameters_together :
    Together ts us n (List.Forall₂ (SameTrees Parameter.nodes)) parameters parameters := by
  refine .look fun next next' seen => ?_
  rw [seen.isSymbol]
  split
  · exact .pure .nil
  · exact moreParameters_together n .nil

theorem items_together {α κ : Type} [DecidableEq κ] {V : α → α → Prop} {select : LexemeKind → Option κ}
    {step : (s : ParseState) → κ → Step α s.remaining} {item : κ → Token → Reading α}
    (same : ∀ s choice token rest, s.cursor.ahead = token :: rest →
      (step s choice).reply = item choice token (after s token rest))
    (each : ∀ n choice token token', Facing ts us token token' →
      Together ts us n V (item choice token) (item choice token'))
    (n : Nat) {found found' : List α} (before : List.Forall₂ V found found') :
    Together ts us n (List.Forall₂ V) (items select step found) (items select step found') := by
  induction n generalizing found found' with
  | zero => exact .zero _ _
  | succ n ih =>
    rw [items_eq same, items_eq same]
    refine .look fun next next' seen => ?_
    rw [seen.kind]
    cases select next'.kind with
    | none => exact .pure (List.forall₂_reverse_iff.mpr before)
    | some choice =>
      refine .accept (ofKind (select · == some choice)) fun token token' facing _ => ?_
      exact (each n choice token token' facing).bind fun value value' alike => ih (.cons alike before)

theorem variableDecs_together (production : Production) (select : LexemeKind → Option VariableKind) :
    Together ts us n (List.Forall₂ (SameTree (VariableDec.node production))) (variableDecs select [])
      (variableDecs select []) :=
  items_together (fun _ kind _ _ ahead => reply_variableDec ahead kind)
    (fun _ kind _ _ facing => variableDec_together production kind facing) n .nil

theorem subroutineBody_together (kind : SubroutineKind) (functionName : String) :
    Together ts us n (SameTree SubroutineBody.node) (subroutineBody kind functionName)
      (subroutineBody kind functionName) := by
  refine .symbol fun opening opening' opens => ?_
  refine (variableDecs_together .varDec _).bind fun locals locals' declared => ?_
  refine .ask (fun s s' beside => by rw [beside.names]) fun localCount => ?_
  refine .ask (fun s s' beside => by rw [beside.names]) fun fieldCount => ?_
  refine .emit rfl ?_
  refine (moreStatements_together n .nil).bind fun statements statements' same => ?_
  refine .symbol fun closing closing' closes => .pure ?_
  simp [SubroutineBody.node, opens.leaf, Node.SameTree.map declared, statementNodes_eq,
    Node.SameTree.map same, closes.leaf]

theorem subroutine_together (kind : SubroutineKind) {word word' : Token}
    (begins : Facing ts us word word') :
    Together ts us n (SameTree Subroutine.node) (subroutine kind word) (subroutine kind word') := by
  refine .change (fun s => remaining_enterSubroutine s kind)
    (fun s s' beside => beside.enterSubroutine kind) ?_
  refine returnType_together.bind fun type type' same => ?_
  refine .identifier fun name name' declared => ?_
  refine .ask (fun s s' beside => beside.className) fun className => ?_
  refine .symbol fun opening opening' opens => ?_
  refine parameters_together.bind fun parameters parameters' given => ?_
  refine .symbol fun closing closing' closes => ?_
  rw [declared.text]
  refine (subroutineBody_together kind _).bind fun body body' contents => .pure ?_
  simp [Subroutine.node, begins.leaf, same.trees, declared.name, opens.leaf,
    Node.SameTrees.flatMap given, closes.leaf, contents]

theorem subroutines_together :
    Together ts us n (List.Forall₂ (SameTree Subroutine.node)) (subroutines []) (subroutines []) :=
  items_together (fun _ kind _ _ ahead => reply_subroutine ahead kind)
    (fun _ kind _ _ facing => subroutine_together kind facing) n .nil

theorem classDec_together (n : Nat) :
    Together ts us n (SameTree ClassDec.node) classDec classDec := by
  refine .keyword fun word word' begins => ?_
  refine .identifier fun name name' declared => ?_
  refine .change (fun s => remaining_setClassName s _)
    (fun s s' beside => { beside with className := declared.text }) ?_
  refine .symbol fun opening opening' opens => ?_
  refine (variableDecs_together .classVarDec _).bind fun declarations declarations' fields => ?_
  refine subroutines_together.bind fun subroutines subroutines' routines => ?_
  refine .symbol fun closing closing' closes => .pure ?_
  simp [ClassDec.node, begins.leaf, declared.name, opens.leaf, Node.SameTree.map fields,
    Node.SameTree.map routines, closes.leaf]

end Reading

end Jack
