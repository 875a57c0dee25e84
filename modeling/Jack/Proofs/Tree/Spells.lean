import Mathlib.Algebra.Order.BigOperators.Group.List
import Jack.Proofs.Grammar.Soundness
import Jack.Proofs.Program.Fit
import Jack.Proofs.Tree.Shape

namespace Jack

open Computability Grammar Shape

/-- The nodes stand at consecutive places, have branches of the right shapes, and spell the tokens. -/
structure Spells (nodes : List Node) (shapes : List Shape) (tokens : List Token) : Prop where
  shaped : nodes ∈ shapes.prod
  formed : Node.FormedAll nodes
  spelled : (Node.leavesOfAll nodes).map (·.token) = tokens

namespace Spells

variable {nodes later : List Node} {shape : Shape} {shapes shapes' : List Shape}
  {tokens tokens' : List Token} {token : Token}

theorem nil : Spells [] [] [] :=
  ⟨Language.nil_mem_one, trivial, rfl⟩

theorem append (first : Spells nodes shapes tokens) (rest : Spells later shapes' tokens') :
    Spells (nodes ++ later) (shapes ++ shapes') (tokens ++ tokens') := by
  refine ⟨?_, first.formed.append rest.formed, ?_⟩
  · rw [List.prod_append]
    exact Language.append_mem_mul first.shaped rest.shaped
  · rw [Node.leavesOfAll_append, List.map_append, first.spelled, rest.spelled]

theorem reshape (spells : Spells nodes shapes tokens) (shaped : nodes ∈ shapes'.prod) :
    Spells nodes shapes' tokens :=
  ⟨shaped, spells.formed, spells.spelled⟩

theorem group (given : Spells nodes (shapes ++ shapes') tokens) :
    Spells nodes (shapes.prod :: shapes') tokens := by
  have shaped := given.shaped
  rw [List.prod_append, ← List.prod_cons] at shaped
  exact given.reshape shaped

theorem choice {choices : List Shape} (chosen : shape ∈ choices)
    (given : Spells nodes (shape :: shapes) tokens) :
    Spells nodes (choices.sum :: shapes) tokens := by
  have shaped := given.shaped
  have larger := mul_le_mul_left (List.le_sum_of_mem chosen) shapes.prod
  rw [List.prod_cons] at shaped
  exact given.reshape (larger shaped)

theorem choose {choices : List Shape} (chosen : shape ∈ choices)
    (given : Spells nodes [shape] tokens) : Spells nodes [choices.sum] tokens :=
  choice chosen given

theorem absent (given : Spells nodes shapes' tokens) :
    Spells nodes (perhaps shapes :: shapes') tokens := by
  have inside := given.shaped
  rw [← one_mul shapes'.prod] at inside
  have shaped : nodes ∈ 1 * shapes'.prod + shapes.prod * shapes'.prod := .inl inside
  rw [← add_mul] at shaped
  exact given.reshape shaped

theorem present (given : Spells nodes (shapes ++ shapes') tokens) :
    Spells nodes (perhaps shapes :: shapes') tokens := by
  have inside := given.shaped
  rw [List.prod_append] at inside
  have shaped : nodes ∈ 1 * shapes'.prod + shapes.prod * shapes'.prod := .inr inside
  rw [← add_mul] at shaped
  exact given.reshape shaped

theorem finish (given : Spells nodes shapes' tokens) :
    Spells nodes (repeated shapes :: shapes') tokens := by
  have shaped := given.shaped
  have larger := mul_le_mul_left (one_le_kstar (a := shapes.prod)) shapes'.prod
  rw [← one_mul shapes'.prod] at shaped
  exact given.reshape (larger shaped)

theorem again (given : Spells nodes (shapes ++ repeated shapes :: shapes') tokens) :
    Spells nodes (repeated shapes :: shapes') tokens := by
  have shaped := given.shaped
  have larger := mul_le_mul_left (mul_kstar_le_kstar (a := shapes.prod)) shapes'.prod
  rw [List.prod_append, List.prod_cons, ← mul_assoc] at shaped
  exact given.reshape (larger shaped)

theorem branch {production : Production} (inside : Spells nodes [production.shape] tokens) :
    Spells [.branch production nodes] [Shape.branch production] tokens := by
  refine ⟨?_, ⟨⟨?_, inside.formed⟩, trivial⟩, ?_⟩
  · rw [List.prod_singleton]
    exact ⟨nodes, rfl⟩
  · simpa only [List.prod_singleton] using inside.shaped
  · simpa [Node.leavesOfAll, Node.leaves] using inside.spelled

theorem plain {fits : LexemeKind → Prop} (isFit : fits token.kind)
    (rest : Spells later shapes tokens) :
    Spells (.token token :: later) (Shape.plain fits :: shapes) (token :: tokens) := by
  have leaf : Spells [.token token] [Shape.plain fits] [token] := by
    refine ⟨?_, ⟨trivial, trivial⟩, rfl⟩
    rw [List.prod_singleton]
    exact ⟨token, isFit, rfl⟩
  exact leaf.append rest

theorem keyword {word : Keyword} (isWord : token.isKeyword word)
    (rest : Spells later shapes tokens) :
    Spells (.token token :: later) (Shape.keyword word :: shapes) (token :: tokens) := by
  have same : token.kind = .keyword word := eq_of_beq isWord
  exact plain same rest

theorem symbol {mark : Char} (isMark : token.isSymbol mark) (rest : Spells later shapes tokens) :
    Spells (.token token :: later) (Shape.symbol mark :: shapes) (token :: tokens) := by
  have same : token.kind = .symbol mark := eq_of_beq isMark
  exact plain same rest

theorem named {name : Name} (isName : name.token.isIdentifier)
    (rest : Spells later shapes tokens) :
    Spells (name.node :: later) (Shape.name :: shapes) (name.token :: tokens) := by
  have leaf : Spells [name.node] [Shape.name] [name.token] := by
    refine ⟨?_, ⟨trivial, trivial⟩, rfl⟩
    rw [List.prod_singleton]
    exact ⟨name.token, name.resolution, isName, rfl⟩
  exact leaf.append rest

end Spells

theorem Spells.constant {nodes : List Node} {shapes : List Shape} {tokens : List Token}
    {token : Token} {value : Constant} (found : Constant.ofKind? token.kind = some value)
    (rest : Spells nodes shapes tokens) :
    Spells (.token token :: nodes) (Shape.constant :: shapes) (token :: tokens) := by
  cases same : token.kind with
  | integer number => exact .choice (.head _) (.plain ⟨number, same⟩ rest)
  | string contents => exact .choice (.tail _ (.head _)) (.plain ⟨contents, same⟩ rest)
  | keyword word =>
    have isConstant : word ∈ Grammar.constantWords := by
      rw [same] at found
      cases word <;> first | decide | cases found
    exact .choice (.tail _ (.tail _ (.head _)))
      (.choice (List.mem_map_of_mem isConstant) (.plain same rest))
  | symbol mark =>
    rw [same] at found
    cases found
  | identifier =>
    rw [same] at found
    cases found

theorem Spells.operator {nodes : List Node} {shapes : List Shape} {tokens : List Token}
    {token : Token} {operator : BinaryOperator}
    (found : BinaryOperator.ofKind? token.kind = some operator) (rest : Spells nodes shapes tokens) :
    Spells (.token token :: nodes) (Shape.operator :: shapes) (token :: tokens) := by
  obtain ⟨mark, isMark, isOperator⟩ := isSymbol_of_binary found
  exact .choice (List.mem_map_of_mem isMark) (.symbol isOperator rest)

theorem Expression.node_eq_branch (value : Expression) :
    value.node = .branch .expression (value.nodesBefore []) := by
  cases value <;> rfl

theorem Arguments.node_eq_branch (arguments : Arguments) :
    arguments.node = .branch .expressionList (arguments.nodesBefore []) := by
  cases arguments <;> rfl

mutual

theorem Term.spells (term : Term) (grammatical : term.Grammatical) :
    Spells [term.node] [branch .term] term.tokens := by
  cases term with
  | constant token value =>
    exact .branch (.choice (.head _) (.constant grammatical .nil))
  | use name =>
    have variable' : Spells [name.node] [Shape.name, perhaps index] [name.token] :=
      .named grammatical (.absent .nil)
    exact .branch (.choice (.tail _ (.head _)) (.group variable'))
  | element array opening index closing =>
    obtain ⟨isName, opens, inside, closes⟩ := grammatical
    have offset := (index.spells inside).append (.symbol closes .nil)
    exact .branch (.choice (.tail _ (.head _))
      (.group (.named isName (.present (.symbol opens offset)))))
  | call call =>
    exact .branch (.choice (.tail _ (.tail _ (.head _))) (.group (call.spells grammatical)))
  | group opening inner closing =>
    obtain ⟨opens, inside, closes⟩ := grammatical
    have value := (inner.spells inside).append (.symbol closes .nil)
    exact .branch (.choice (.tail _ (.tail _ (.tail _ (.head _)))) (.group (.symbol opens value)))
  | unary token operator operand =>
    obtain ⟨isOperator, inside⟩ := grammatical
    have value := operand.spells inside
    have marked : Spells (.token token :: [operand.node])
        [[Shape.symbol '-', Shape.symbol '~'].sum, branch .term] (token :: operand.tokens) := by
      rcases isSymbol_of_unary isOperator with negates | negates
      · exact .choice (.head _) (.symbol negates value)
      · exact .choice (.tail _ (.head _)) (.symbol negates value)
    exact .branch (.choice (.tail _ (.tail _ (.tail _ (.tail _ (.head _))))) (.group marked))

theorem Expression.spells (value : Expression) (grammatical : value.Grammatical) :
    Spells [value.node] [branch .expression] value.tokens := by
  have alone : Spells (value.nodesBefore []) [branch .term, repeated operation] value.tokens := by
    rw [← List.append_nil value.tokens]
    exact value.spells_nodesBefore grammatical (.finish .nil)
  rw [value.node_eq_branch]
  exact .branch (.group alone)

theorem Expression.spells_nodesBefore (value : Expression) (grammatical : value.Grammatical)
    {later : List Node} {shapes : List Shape} {tokens : List Token}
    (rest : Spells later (repeated operation :: shapes) tokens) :
    Spells (value.nodesBefore later) (branch .term :: repeated operation :: shapes)
      (value.tokens ++ tokens) := by
  cases value with
  | term term => exact (term.spells grammatical).append rest
  | binary left token operator right =>
    obtain ⟨first, isOperator, second⟩ := grammatical
    have joined := (right.spells second).append rest
    rw [Expression.tokens, List.append_assoc]
    exact left.spells_nodesBefore first (.again (.operator isOperator joined))

theorem Call.spells (call : Call) (grammatical : call.Grammatical) :
    Spells call.nodes Shape.call call.tokens := by
  cases call with
  | plain subroutine opening arguments closing =>
    obtain ⟨isName, opens, inside, closes⟩ := grammatical
    have passed := (arguments.spells inside).append (.symbol closes .nil)
    exact .absent (.named isName (.symbol opens passed))
  | qualified qualifier dot subroutine opening arguments closing =>
    obtain ⟨isQualifier, dots, isName, opens, inside, closes⟩ := grammatical
    have passed := (arguments.spells inside).append (.symbol closes .nil)
    exact .present (.named isQualifier (.symbol dots (.named isName (.symbol opens passed))))

theorem Arguments.spells (arguments : Arguments) (grammatical : arguments.Grammatical) :
    Spells [arguments.node] [branch .expressionList] arguments.tokens := by
  rw [arguments.node_eq_branch]
  apply Spells.branch
  by_cases empty : arguments = .none
  · subst empty
    exact .absent .nil
  · apply Spells.present
    rw [← List.append_nil arguments.tokens]
    exact arguments.spells_nodesBefore empty grammatical (.finish .nil)

theorem Arguments.spells_nodesBefore (arguments : Arguments) (given : arguments ≠ .none)
    (grammatical : arguments.Grammatical) {later : List Node} {shapes : List Shape}
    {tokens : List Token} (rest : Spells later (repeated furtherArgument :: shapes) tokens) :
    Spells (arguments.nodesBefore later)
      (branch .expression :: repeated furtherArgument :: shapes) (arguments.tokens ++ tokens) := by
  cases arguments with
  | none => exact absurd rfl given
  | one value => exact (value.spells grammatical).append rest
  | more before comma value =>
    obtain ⟨given, first, separates, second⟩ := grammatical
    have further := (value.spells second).append rest
    rw [Arguments.tokens, List.append_assoc]
    exact before.spells_nodesBefore given first (.again (.symbol separates further))

end

mutual

theorem Statement.spells (statement : Statement) (grammatical : statement.Grammatical) :
    Spells [statement.node] [Shape.statement] statement.tokens := by
  cases statement with
  | assign keyword target equals value semicolon =>
    obtain ⟨isLet, isName, assigns, inside, ends⟩ := grammatical
    have right := (value.spells inside).append (.symbol ends .nil)
    exact .choose (.head _) (.branch
      (.group (.keyword isLet (.named isName (.absent (.symbol assigns right))))))
  | assignElement keyword array opening index closing equals value semicolon =>
    obtain ⟨isLet, isName, opens, first, closes, assigns, second, ends⟩ := grammatical
    have right := (value.spells second).append (.symbol ends .nil)
    have offset := (index.spells first).append (.symbol closes (.symbol assigns right))
    exact .choose (.head _) (.branch
      (.group (.keyword isLet (.named isName (.present (.symbol opens offset))))))
  | when keyword opening condition closing body =>
    obtain ⟨isIf, opens, tests, closes, inside⟩ := grammatical
    have chosen : Spells body.nodes (block ++ [perhaps alternative]) body.tokens := by
      simpa only [List.append_nil] using (body.spells inside).append (.absent .nil)
    have tested := (condition.spells tests).append (.symbol closes chosen)
    exact .choose (.tail _ (.head _)) (.branch (.group (.keyword isIf (.symbol opens tested))))
  | whenElse keyword opening condition closing body elseKeyword alternative =>
    obtain ⟨isIf, opens, tests, closes, inside, isElse, otherwise⟩ := grammatical
    have second : Spells (.token elseKeyword :: alternative.nodes) (Shape.alternative ++ [])
        (elseKeyword :: alternative.tokens) := .keyword isElse (alternative.spells otherwise)
    have first := (body.spells inside).append (.present second)
    have tested := (condition.spells tests).append (.symbol closes first)
    exact .choose (.tail _ (.head _)) (.branch (.group (.keyword isIf (.symbol opens tested))))
  | loop keyword opening condition closing body =>
    obtain ⟨isWhile, opens, tests, closes, inside⟩ := grammatical
    have tested := (condition.spells tests).append (.symbol closes (body.spells inside))
    exact .choose (.tail _ (.tail _ (.head _))) (.branch
      (.group (.keyword isWhile (.symbol opens tested))))
  | call keyword call semicolon =>
    obtain ⟨isDo, inside, ends⟩ := grammatical
    have called := (call.spells inside).append (.symbol ends .nil)
    exact .choose (.tail _ (.tail _ (.tail _ (.head _)))) (.branch (.group (.keyword isDo called)))
  | leave keyword semicolon =>
    obtain ⟨isReturn, ends⟩ := grammatical
    exact .choose (.tail _ (.tail _ (.tail _ (.tail _ (.head _))))) (.branch
      (.group (.keyword isReturn (.absent (.symbol ends .nil)))))
  | leaveWith keyword value semicolon =>
    obtain ⟨isReturn, inside, ends⟩ := grammatical
    have right := (value.spells inside).append (.symbol ends .nil)
    exact .choose (.tail _ (.tail _ (.tail _ (.tail _ (.head _))))) (.branch
      (.group (.keyword isReturn (.present right))))

theorem Block.spells (block : Block) (grammatical : block.Grammatical) :
    Spells block.nodes Shape.block block.tokens := by
  cases block with
  | braces opening statements closing =>
    obtain ⟨opens, inside, closes⟩ := grammatical
    have all : Spells [.branch .statements (statementNodes statements)] [branch .statements]
        (statementTokens statements) := .branch (spells_statementNodes statements inside)
    exact .symbol opens (all.append (.symbol closes .nil))

theorem spells_statementNodes (statements : List Statement) (grammatical : GrammaticalAll statements) :
    Spells (statementNodes statements) [repeated [Shape.statement]] (statementTokens statements) := by
  cases statements with
  | nil => exact .finish .nil
  | cons statement statements =>
    have here := statement.spells grammatical.1
    have later := spells_statementNodes statements grammatical.2
    exact .again (here.append later)

end

theorem spells_builtin {token : Token} (builtin : isBuiltinType token.kind) :
    Spells [.token token] [Shape.typeName] [token] := by
  unfold isBuiltinType at builtin
  split at builtin
  · rename_i same
    exact .choose (.head _) (.plain same .nil)
  · rename_i same
    exact .choose (.tail _ (.head _)) (.plain same .nil)
  · rename_i same
    exact .choose (.tail _ (.tail _ (.head _))) (.plain same .nil)
  · cases builtin

namespace TypeName

variable {type : TypeName}

theorem spells (grammatical : type.Grammatical) :
    Spells [type.node] [Shape.typeName] [type.token] := by
  cases type with
  | builtin token => exact spells_builtin grammatical
  | className name => exact .choose (.tail _ (.tail _ (.tail _ (.head _)))) (.named grammatical .nil)

theorem spells_return (grammatical : type.IsReturn) :
    Spells [type.node] [[Shape.keyword .voidKw, Shape.typeName].sum] [type.token] := by
  cases type with
  | builtin token =>
    rcases grammatical with isVoid | builtin
    · exact .choose (.head _) (.keyword isVoid .nil)
    · exact .choose (.tail _ (.head _)) (spells_builtin builtin)
  | className name =>
    have named : Spells [name.node] [Shape.typeName] [name.token] :=
      .choose (.tail _ (.tail _ (.tail _ (.head _)))) (.named grammatical .nil)
    exact .choose (.tail _ (.head _)) named

end TypeName

theorem spells_names {names : List (Name × Token)} (grammatical : GrammaticalNames names) :
    Spells (names.flatMap fun (name, separator) => [name.node, .token separator])
      [Shape.name, repeated furtherName, Shape.symbol ';'] (nameTokens names) := by
  fun_induction GrammaticalNames names with
  | case1 => exact grammatical.elim
  | case2 name separator => exact .named grammatical.1 (.finish (.symbol grammatical.2 .nil))
  | case3 name separator names more ih =>
    obtain ⟨isName, separates, rest⟩ := grammatical
    exact .named isName (.again (.symbol separates (ih rest)))

theorem spells_parameters {parameters : List Parameter}
    (grammatical : GrammaticalParameters parameters) (nonempty : parameters ≠ []) :
    Spells (parameters.flatMap Parameter.nodes)
      [Shape.typeName, Shape.name, repeated furtherParameter]
      (parameters.flatMap Parameter.tokens) := by
  fun_induction GrammaticalParameters parameters with
  | case1 => exact absurd rfl nonempty
  | case2 parameter =>
    obtain ⟨isType, isName, noComma⟩ := grammatical
    have alone : Spells [parameter.name.node] [Shape.name, repeated furtherParameter]
        [parameter.name.token] := .named isName (.finish .nil)
    have last := (TypeName.spells isType).append alone
    simpa [Parameter.nodes, Parameter.tokens, noComma] using last
  | case3 parameter parameters more ih =>
    obtain ⟨isType, isName, ⟨comma, same, separates⟩, rest⟩ := grammatical
    have further : Spells (.token comma :: parameters.flatMap Parameter.nodes)
        (furtherParameter ++ [repeated furtherParameter])
        (comma :: parameters.flatMap Parameter.tokens) := .symbol separates (ih rest more)
    have longer := (TypeName.spells isType).append (.named isName (.again further))
    simpa [Parameter.nodes, Parameter.tokens, same] using longer

theorem spells_parameterList {parameters : List Parameter}
    (grammatical : GrammaticalParameters parameters) :
    Spells [.branch .parameterList (parameters.flatMap Parameter.nodes)] [branch .parameterList]
      (parameters.flatMap Parameter.tokens) := by
  apply Spells.branch
  by_cases empty : parameters = []
  · rw [empty]
    exact .absent .nil
  · exact .present (spells_parameters grammatical empty)

theorem spells_all {α : Type} {node : α → Node} {tokens : α → List Token} {shape : Shape}
    {items : List α} (each : ∀ item ∈ items, Spells [node item] [shape] (tokens item))
    {later : List Node} {shapes : List Shape} {tokens' : List Token}
    (rest : Spells later shapes tokens') :
    Spells (items.map node ++ later) (repeated [shape] :: shapes)
      (items.flatMap tokens ++ tokens') := by
  induction items with
  | nil => exact .finish rest
  | cons item items ih =>
    have here := each item List.mem_cons_self
    have later := ih fun other member => each other (List.mem_cons_of_mem item member)
    rw [List.flatMap_cons, List.append_assoc]
    exact .again (here.append later)

namespace VariableDec

variable {declaration : VariableDec}

theorem spells_declared {ofKeyword? : LexemeKind → Option VariableKind}
    (grammatical : declaration.Grammatical ofKeyword?) :
    Spells (declaration.type.node ::
        declaration.names.flatMap fun (name, separator) => [name.node, .token separator])
      Shape.declaredNames (declaration.type.token :: nameTokens declaration.names) := by
  obtain ⟨_, isType, names⟩ := grammatical
  exact (TypeName.spells isType).append (spells_names names)

theorem spells_classVarDec (grammatical : declaration.Grammatical VariableKind.ofClassKeyword?) :
    Spells [declaration.node .classVarDec] [branch .classVarDec] declaration.tokens := by
  have declared := spells_declared grammatical
  have begins := grammatical.1
  unfold VariableKind.ofClassKeyword? at begins
  split at begins
  · rename_i same
    exact .branch (.group (.choice (.head _) (.plain same declared)))
  · rename_i same
    exact .branch (.group (.choice (.tail _ (.head _)) (.plain same declared)))
  · cases begins

theorem spells_varDec (grammatical : declaration.Grammatical VariableKind.ofLocalKeyword?) :
    Spells [declaration.node .varDec] [branch .varDec] declaration.tokens := by
  have begins := grammatical.1
  unfold VariableKind.ofLocalKeyword? at begins
  split at begins
  · rename_i same
    exact .branch (.group (.plain same (spells_declared grammatical)))
  · cases begins

end VariableDec

theorem SubroutineBody.spells {body : SubroutineBody} (grammatical : body.Grammatical) :
    Spells [body.node] [branch .subroutineBody] body.tokens := by
  obtain ⟨opens, locals, statements, closes⟩ := grammatical
  have inside : Spells [.branch .statements (statementNodes body.statements)] [branch .statements]
      (statementTokens body.statements) := .branch (spells_statementNodes body.statements statements)
  have declared := spells_all (fun group member => VariableDec.spells_varDec (locals group member))
    (inside.append (.symbol closes .nil))
  exact .branch (.group (.symbol opens declared))

theorem Subroutine.spells {subroutine : Subroutine} (grammatical : subroutine.Grammatical) :
    Spells [subroutine.node] [branch .subroutineDec] subroutine.tokens := by
  obtain ⟨begins, returns, isName, opens, parameters, closes, body⟩ := grammatical
  have listed := (spells_parameterList parameters).append (.symbol closes (SubroutineBody.spells body))
  have headed := (TypeName.spells_return returns).append (.named isName (.symbol opens listed))
  rcases SubroutineKind.isKeyword_of_ofKind? begins with isCtor | isFunction | isMethod
  · exact .branch (.group (.choice (.head _) (.keyword isCtor headed)))
  · exact .branch (.group (.choice (.tail _ (.head _)) (.keyword isFunction headed)))
  · exact .branch (.group (.choice (.tail _ (.tail _ (.head _))) (.keyword isMethod headed)))

theorem ClassDec.spells {declaration : ClassDec} (grammatical : declaration.Grammatical) :
    Spells [declaration.node] [branch .classDec] declaration.tokens := by
  obtain ⟨begins, isName, opens, declarations, subroutines, closes⟩ := grammatical
  have routines := spells_all
    (fun subroutine member => Subroutine.spells (subroutines subroutine member))
    (.symbol closes .nil)
  have inside := spells_all
    (fun group member => VariableDec.spells_classVarDec (declarations group member)) routines
  exact .branch (.group (.keyword begins (.named isName (.symbol opens inside))))

end Jack
