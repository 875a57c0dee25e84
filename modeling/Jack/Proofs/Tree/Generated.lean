import Jack.Proofs.Grammar.Follow
import Jack.Proofs.Program.Scope
import Jack.Proofs.Program.Spelling
import Jack.Proofs.Tree.Code

namespace Jack

namespace Name

def leaf (name : Name) : Leaf :=
  ⟨name.token, some name.resolution⟩

theorem node_eq (name : Name) : name.node = .leaf name.leaf := rfl

@[simp] theorem pushed_leaf (name : Name) : name.leaf.pushed = name.pushCode := by
  obtain ⟨token, category, isDeclaration, index⟩ := name
  cases category <;> cases index <;> rfl

@[simp] theorem popped_leaf (name : Name) : name.leaf.popped = name.popCode := by
  obtain ⟨token, category, isDeclaration, index⟩ := name
  cases category <;> cases index <;> rfl

@[simp] theorem isSome_cell? (name : Name) : name.leaf.cell?.isSome = name.slot?.isSome := by
  obtain ⟨token, category, isDeclaration, index⟩ := name
  cases category <;> cases index <;> rfl

end Name

namespace Token

theorem constantCode_eq {token : Token} {value : Constant}
    (isConstant : Constant.ofKind? token.kind = some value) : token.constantCode = value.code := by
  unfold constantCode
  generalize token.kind = kind at isConstant ⊢
  cases kind with
  | integer number =>
    cases isConstant
    rfl
  | string contents =>
    cases isConstant
    rfl
  | keyword word => cases word <;> cases isConstant <;> rfl
  | symbol mark => cases isConstant
  | identifier => cases isConstant

theorem unaryCode_eq {token : Token} {operator : UnaryOperator}
    (isOperator : TermStart.ofKind? token.kind = some (.unary operator)) :
    token.unaryCode = [operator.code] := by
  unfold TermStart.ofKind? at isOperator
  split at isOperator
  · cases isOperator
  · rename_i mark same
    unfold TermStart.ofSymbol? UnaryOperator.ofSymbol? at isOperator
    split at isOperator
    · cases isOperator
    · split at isOperator <;> cases isOperator <;> rw [unaryCode, same] <;> rfl
  · obtain ⟨value, _, differ⟩ := Option.map_eq_some_iff.mp isOperator
    cases differ

theorem binaryCode_eq {token : Token} {operator : BinaryOperator}
    (isOperator : BinaryOperator.ofKind? token.kind = some operator) :
    token.binaryCode = [operator.code] := by
  obtain ⟨mark, same, kind⟩ : ∃ mark, token.kind = .symbol mark ∧
      BinaryOperator.ofSymbol? mark = some operator := by
    unfold BinaryOperator.ofKind? at isOperator
    grind
  unfold BinaryOperator.ofSymbol? at kind
  split at kind <;> cases kind <;> rw [binaryCode, same] <;> rfl

theorem prologueCode_eq {token : Token} {kind : SubroutineKind} (fields : Nat)
    (isKind : SubroutineKind.ofKind? token.kind = some kind) :
    token.prologueCode fields = kind.prologue fields.toUInt16 := by
  unfold SubroutineKind.ofKind? at isKind
  split at isKind <;> cases isKind <;> rename_i kind <;> rw [prologueCode, kind] <;> rfl

end Token

/-- The tree tells as much about the names in force as the table does. -/
structure Surroundings.Suits (around : Surroundings) (context : Context) (names : VariableTable) :
    Prop where
  className : around.className = context.className
  typeOf : ∀ name : Name, name.token.isIdentifier → name.Uses names →
    around.typeOf name.leaf = context.typeOf name.token.text

namespace Node

variable {around : Surroundings} {context : Context} {names : VariableTable} (first : Nat)

@[simp] theorem code_token (token : Token) : code around first (.token token) = [] := by
  rw [Node.token, code]

@[simp] theorem valueCount_arguments (arguments : Arguments) :
    arguments.node.valueCount = arguments.values.length := rfl

theorem plainCall_eq (suits : around.Suits context names) (subroutine : Name)
    (opening closing : Token) (arguments : Arguments) :
    around.plainCall subroutine.leaf (arguments.code context) arguments.values.length =
      (Call.plain subroutine opening arguments closing).code context := by
  rw [Surroundings.plainCall, suits.className, Call.code]
  rfl

theorem qualifiedCall_eq (suits : around.Suits context names) {qualifier : Name}
    (isName : qualifier.token.isIdentifier) (qualifies : qualifier.Qualifies names)
    (subroutine : Name) (dot opening closing : Token) (arguments : Arguments) :
    around.qualifiedCall qualifier.leaf subroutine.leaf (arguments.code context)
        arguments.values.length =
      (Call.qualified qualifier dot subroutine opening arguments closing).code context := by
  rw [Surroundings.qualifiedCall, Call.code, Name.isSome_cell?, Name.pushed_leaf]
  unfold Name.Qualifies at qualifies
  split at qualifies
  · rename_i entry found
    have known : names.lookup? qualifier.token.text = some entry := by
      unfold VariableTable.qualifier? at found
      split at found
      · cases found
      · exact found
    rw [suits.typeOf qualifier isName ⟨entry, known, qualifies⟩, qualifies]
    simp only [Name.slot?_use, Name.pushCode_use, Option.isSome_some, if_true, Name.token_use]
    rfl
  -- A class takes no slot, so its name is not pushed and not counted.
  · have object : qualifier.slot? = none := by
      rw [Name.slot?, qualifies]
      rfl
    rw [object]
    rfl

mutual

theorem code_term (suits : around.Suits context names) (term : Term) (grammatical : term.Grammatical)
    (resolved : term.Resolved names) : term.node.code around first = term.code context := by
  cases term with
  | constant token value => exact Token.constantCode_eq grammatical
  | use name => exact name.pushed_leaf
  | element array opening index closing =>
    obtain ⟨_, opens, inside, _⟩ := grammatical
    have same := code_expression suits index inside resolved.2
    rw [Term.node, Name.node_eq, Node.token, code, termCode, if_pos opens, same, Name.pushed_leaf]
    rfl
  | call call => exact code_call suits call grammatical resolved
  | group opening inner closing => exact code_expression suits inner grammatical.2.1 resolved
  | unary token operator operand =>
    have same := code_term suits operand grammatical.2 resolved
    rw [Term.node, Node.token, code, termCode, same, Token.unaryCode_eq grammatical.1]
    rfl

theorem code_call (suits : around.Suits context names) (call : Call) (grammatical : call.Grammatical)
    (resolved : call.Resolved names) : termCode around first call.nodes = call.code context := by
  cases call with
  | plain subroutine opening arguments closing =>
    obtain ⟨_, opens, inside, _⟩ := grammatical
    have same := code_arguments suits arguments inside resolved.2
    rw [Call.nodes, Name.node_eq, Node.token, termCode, Token.isSymbol_eq_false opens (by decide), same,
      ← plainCall_eq suits subroutine opening closing]
    rfl
  | qualified qualifier dot subroutine opening arguments closing =>
    obtain ⟨isName, _, _, _, inside, _⟩ := grammatical
    obtain ⟨qualifies, _, inner⟩ := resolved
    have same := code_arguments suits arguments inside inner
    rw [Call.nodes, Name.node_eq, Name.node_eq, termCode, same,
      ← qualifiedCall_eq suits isName qualifies subroutine dot opening closing]
    rfl

theorem code_expression (suits : around.Suits context names) (value : Expression)
    (grammatical : value.Grammatical) (resolved : value.Resolved names) :
    value.node.code around first = value.code context := by
  cases value with
  | term term =>
    rw [Expression.node, code, expressionCode, code_term suits term grammatical resolved]
    exact List.append_nil _
  | binary left token operator right =>
    obtain ⟨before, isOperator, after⟩ := grammatical
    rw [Expression.node, code, code_operands suits left before resolved.1, Node.token,
      operationsCode, code_term suits right after resolved.2, Token.binaryCode_eq isOperator]
    rfl

theorem code_operands (suits : around.Suits context names) (value : Expression)
    (grammatical : value.Grammatical) (resolved : value.Resolved names) (later : List Node) :
    expressionCode around first (value.nodesBefore later) =
      value.code context ++ operationsCode around first later := by
  cases value with
  | term term =>
    rw [Expression.nodesBefore, expressionCode, code_term suits term grammatical resolved]
    rfl
  | binary left token operator right =>
    obtain ⟨before, isOperator, after⟩ := grammatical
    rw [Expression.nodesBefore, code_operands suits left before resolved.1, Node.token,
      operationsCode, code_term suits right after resolved.2, Token.binaryCode_eq isOperator]
    simp [Expression.code]

theorem code_arguments (suits : around.Suits context names) (arguments : Arguments)
    (grammatical : arguments.Grammatical) (resolved : arguments.Resolved names) :
    arguments.node.code around first = arguments.code context := by
  cases arguments with
  | none => rfl
  | one value =>
    rw [Arguments.node, code, valuesCode, code_expression suits value grammatical resolved]
    simp [valuesCode, Arguments.code]
  | more before comma value =>
    obtain ⟨_, earlier, _, last⟩ := grammatical
    rw [Arguments.node, code, code_values suits before earlier resolved.1, valuesCode, valuesCode,
      code_token, code_expression suits value last resolved.2]
    simp [valuesCode, Arguments.code]

theorem code_values (suits : around.Suits context names) (arguments : Arguments)
    (grammatical : arguments.Grammatical) (resolved : arguments.Resolved names) (later : List Node) :
    valuesCode around first (arguments.nodesBefore later) =
      arguments.code context ++ valuesCode around first later := by
  cases arguments with
  | none => rfl
  | one value =>
    rw [Arguments.nodesBefore, valuesCode, code_expression suits value grammatical resolved]
    rfl
  | more before comma value =>
    obtain ⟨_, earlier, _, last⟩ := grammatical
    rw [Arguments.nodesBefore, code_values suits before earlier resolved.1, valuesCode, valuesCode,
      code_token, code_expression suits value last resolved.2]
    simp [Arguments.code]

end

@[simp] theorem branching_token (token : Token) : (Node.token token).branching = [] := rfl

@[simp] theorem branching_name (name : Name) : name.node.branching = [] := rfl

mutual

theorem branching_term (term : Term) : term.node.branching = [] := by
  cases term with
  | constant token value => rfl
  | use name => rfl
  | element array opening index closing =>
    simp [Term.node, branching, branchingOfAll, branching_expression index]
  | call call => exact branching_call call
  | group opening inner closing =>
    simp [Term.node, branching, branchingOfAll, branching_expression inner]
  | unary token operator operand =>
    simp [Term.node, branching, branchingOfAll, branching_term operand]

theorem branching_call (call : Call) : branchingOfAll call.nodes = [] := by
  cases call with
  | plain subroutine opening arguments closing =>
    simp [Call.nodes, branchingOfAll, branching_arguments arguments]
  | qualified qualifier dot subroutine opening arguments closing =>
    simp [Call.nodes, branchingOfAll, branching_arguments arguments]

theorem branching_expression (value : Expression) : value.node.branching = [] := by
  cases value with
  | term term => simp [Expression.node, branching, branchingOfAll, branching_term term]
  | binary left token operator right =>
    simp [Expression.node, branching, branchingOfAll, branching_operands left,
      branching_term right]

theorem branching_operands (value : Expression) (later : List Node) :
    branchingOfAll (value.nodesBefore later) = branchingOfAll later := by
  cases value with
  | term term => simp [Expression.nodesBefore, branchingOfAll, branching_term term]
  | binary left token operator right =>
    simp [Expression.nodesBefore, branchingOfAll, branching_operands left, branching_term right]

theorem branching_arguments (arguments : Arguments) : arguments.node.branching = [] := by
  cases arguments with
  | none => rfl
  | one value => simp [Arguments.node, branching, branchingOfAll, branching_expression value]
  | more before comma value =>
    simp [Arguments.node, branching, branchingOfAll, branching_values before,
      branching_expression value]

theorem branching_values (arguments : Arguments) (later : List Node) :
    branchingOfAll (arguments.nodesBefore later) = branchingOfAll later := by
  cases arguments with
  | none => rfl
  | one value => simp [Arguments.nodesBefore, branchingOfAll, branching_expression value]
  | more before comma value =>
    simp [Arguments.nodesBefore, branchingOfAll, branching_values before,
      branching_expression value]

end

theorem branchingOfAll_append (nodes later : List Node) :
    branchingOfAll (nodes ++ later) = branchingOfAll nodes ++ branchingOfAll later := by
  induction nodes with
  | nil => rfl
  | cons node nodes ih => simp [branchingOfAll, ih]

mutual

theorem length_branching (statement : Statement) :
    statement.node.branching.length = statement.branches := by
  cases statement with
  | assign keyword target equals value semicolon =>
    simp [Statement.node, branching, branchingOfAll, branching_expression, Statement.branches]
  | assignElement keyword array opening index closing equals value semicolon =>
    simp [Statement.node, branching, branchingOfAll, branching_expression, Statement.branches]
  | when keyword opening condition closing body =>
    simp [Statement.node, branching, branchingOfAll, branching_expression, Statement.branches,
      length_branching_block body, Nat.add_comm]
  | whenElse keyword opening condition closing body elseKeyword alternative =>
    simp [Statement.node, branching, branchingOfAll, branching_expression, branchingOfAll_append,
      Statement.branches, length_branching_block body, length_branching_block alternative,
      Nat.add_comm]
  | loop keyword opening condition closing body =>
    simp [Statement.node, branching, branchingOfAll, branching_expression, Statement.branches,
      length_branching_block body, Nat.add_comm]
  | call keyword call semicolon =>
    simp [Statement.node, branching, branchingOfAll, branchingOfAll_append, branching_call,
      Statement.branches]
  | leave keyword semicolon => rfl
  | leaveWith keyword value semicolon =>
    simp [Statement.node, branching, branchingOfAll, branching_expression, Statement.branches]

theorem length_branching_block (block : Block) :
    (branchingOfAll block.nodes).length = block.branches := by
  cases block with
  | braces opening statements closing =>
    simp [Block.nodes, branching, branchingOfAll, Block.branches, length_branching_statements statements]

theorem length_branching_statements (statements : List Statement) :
    (branchingOfAll (statementNodes statements)).length = branchesOfAll statements := by
  cases statements with
  | nil => rfl
  | cons statement statements =>
    simp [statementNodes, branchingOfAll, branchesOfAll, length_branching statement,
      length_branching_statements statements]

end

theorem code_doStatement (suits : around.Suits context names) (keyword semicolon : Token) (call : Call)
    (grammatical : call.Grammatical) (resolved : call.Resolved names) :
    doCode around first (.token keyword :: (call.nodes ++ [.token semicolon])) =
      call.code context ++ [.pop .temp 0] := by
  rw [← code_call first suits call grammatical resolved]
  cases call with
  | plain subroutine opening arguments closing =>
    have noIndex := Token.isSymbol_eq_false grammatical.2.1 (by decide : '(' ≠ '[')
    simp [Call.nodes, Name.node_eq, Node.token, doCode, termCode, noIndex]
  | qualified qualifier dot subroutine opening arguments closing =>
    simp [Call.nodes, Name.node_eq, Node.token, doCode, termCode]

mutual

theorem code_statement (suits : around.Suits context names) (first : Nat) (statement : Statement)
    (grammatical : statement.Grammatical) (resolved : statement.Resolved names) :
    statement.node.code around first = statement.code context first := by
  cases statement with
  | assign keyword target equals value semicolon =>
    have same := code_expression first suits value grammatical.2.2.2.1 resolved.2
    simp [Statement.node, Name.node_eq, code, letCode, same, Statement.code]
  | assignElement keyword array opening index closing equals value semicolon =>
    obtain ⟨_, _, _, inside, _, _, right, _⟩ := grammatical
    have position := code_expression first suits index inside resolved.2.1
    have stored := code_expression first suits value right resolved.2.2
    simp [Statement.node, Name.node_eq, code, letCode, position, stored, Statement.code, storeCode]
  | when keyword opening condition closing body =>
    obtain ⟨_, _, tested, _, inner⟩ := grammatical
    obtain ⟨opens, statements, closes⟩ := body
    have test := code_expression first suits condition tested resolved.1
    have inside := code_statements suits (first + 1) statements inner.2.1 resolved.2
    simp [Statement.node, Block.nodes, code, ifCode, test, inside, Statement.code, Block.code, elseLabel]
  | whenElse keyword opening condition closing body elseKeyword alternative =>
    obtain ⟨_, _, tested, _, inner, _, other⟩ := grammatical
    obtain ⟨opens, statements, closes⟩ := body
    obtain ⟨opensOther, others, closesOther⟩ := alternative
    have test := code_expression first suits condition tested resolved.1
    have inside := code_statements suits (first + 1) statements inner.2.1 resolved.2.1
    have otherwise := code_statements suits (first + 1 + branchesOfAll statements) others other.2.1
      resolved.2.2
    simp [Statement.node, Block.nodes, code, ifCode, branching, length_branching_statements, test,
      inside, otherwise, Statement.code, Block.code, Block.branches, elseLabel, endLabel]
  | loop keyword opening condition closing body =>
    obtain ⟨_, _, tested, _, inner⟩ := grammatical
    obtain ⟨opens, statements, closes⟩ := body
    have test := code_expression first suits condition tested resolved.1
    have inside := code_statements suits (first + 1) statements inner.2.1 resolved.2
    simp [Statement.node, Block.nodes, code, whileCode, test, inside, Statement.code, Block.code,
      testLabel, exitLabel]
  | call keyword call semicolon =>
    exact code_doStatement first suits keyword semicolon call grammatical.2.1 resolved
  | leave keyword semicolon => rfl
  | leaveWith keyword value semicolon =>
    have same := code_expression first suits value grammatical.2.1 resolved
    simp [Statement.node, code, returnCode, same, Statement.code]

theorem code_statements (suits : around.Suits context names) (first : Nat)
    (statements : List Statement) (grammatical : GrammaticalAll statements)
    (resolved : ResolvedAll names statements) :
    statementsCode around first (statementNodes statements) = codeOfAll context first statements := by
  cases statements with
  | nil => rfl
  | cons statement statements =>
    simp [statementNodes, statementsCode, codeOfAll, length_branching,
      code_statement suits first statement grammatical.1 resolved.1,
      code_statements suits (first + statement.branches) statements grammatical.2 resolved.2]

end

end Node

end Jack
