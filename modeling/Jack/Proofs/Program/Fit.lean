import Jack.Proofs.Program.Annotations
import Jack.Proofs.Program.Scope
import Jack.Proofs.Program.Spelling

namespace Jack

theorem Node.leavesOfAll_append (nodes later : List Node) :
    leavesOfAll (nodes ++ later) = leavesOfAll nodes ++ leavesOfAll later := by
  induction nodes with
  | nil => rfl
  | cons node nodes ih => rw [List.cons_append, leavesOfAll, leavesOfAll, ih, List.append_assoc]

def Resolution.meaning (resolution : Resolution) : Meaning :=
  ⟨resolution.category, resolution.isDeclaration, resolution.index.map UInt16.toNat⟩

namespace Leaf

def annotated (leaf : Leaf) : Annotated :=
  (leaf.token, leaf.resolution?.map Resolution.meaning)

def declares (leaf : Leaf) : Bool :=
  leaf.resolution?.any (·.isDeclaration)

/-- Exactly the names say what they stand for, and exactly the variables among them tell a slot. -/
structure Sound (leaf : Leaf) : Prop where
  marked : leaf.resolution?.isSome ↔ leaf.token.isIdentifier
  indexed : ∀ resolution, leaf.resolution? = some resolution →
    (resolution.index.isSome ↔ resolution.category.variableKind?.isSome)

end Leaf

/-- The leaves of the nodes are these annotated tokens, and just those in `declaring` declare a name. -/
structure Fit (nodes : List Node) (annotated : List Annotated) (declaring : List Token) : Prop where
  annotated : (Node.leavesOfAll nodes).map Leaf.annotated = annotated
  declaring : ((Node.leavesOfAll nodes).filter Leaf.declares).map (·.token) = declaring
  sound : ∀ leaf ∈ Node.leavesOfAll nodes, leaf.Sound

namespace Fit

variable {nodes later : List Node} {annotated annotated' : List Annotated}
  {declaring declaring' : List Token} {token : Token} {name : Name}

theorem nil : Fit [] [] [] :=
  ⟨rfl, rfl, by simp [Node.leavesOfAll]⟩

theorem append (first : Fit nodes annotated declaring) (rest : Fit later annotated' declaring') :
    Fit (nodes ++ later) (annotated ++ annotated') (declaring ++ declaring') := by
  refine ⟨?_, ?_, ?_⟩
  · rw [Node.leavesOfAll_append, List.map_append, first.annotated, rest.annotated]
  · rw [Node.leavesOfAll_append, List.filter_append, List.map_append, first.declaring,
      rest.declaring]
  · rw [Node.leavesOfAll_append]
    exact List.forall_mem_append.mpr ⟨first.sound, rest.sound⟩

theorem branch {production : Production} (inside : Fit nodes annotated declaring) :
    Fit [.branch production nodes] annotated declaring := by
  have same : Node.leavesOfAll [.branch production nodes] = Node.leavesOfAll nodes := by
    simp [Node.leavesOfAll, Node.leaves]
  refine ⟨?_, ?_, ?_⟩
  · rw [same, inside.annotated]
  · rw [same, inside.declaring]
  · rw [same]
    exact inside.sound

theorem leaf {leaf : Leaf} (sound : leaf.Sound) :
    Fit [.leaf leaf] [leaf.annotated] (if leaf.declares then [leaf.token] else []) := by
  have same : Node.leavesOfAll [.leaf leaf] = [leaf] := by
    simp [Node.leavesOfAll, Node.leaves]
  refine ⟨by rw [same]; rfl, ?_, by simpa [same] using sound⟩
  rw [same]
  cases declares : leaf.declares <;> simp [declares]

theorem plain (other : token.isIdentifier = false) (rest : Fit later annotated declaring) :
    Fit (.token token :: later) (token.plain :: annotated) declaring := by
  have sound : Leaf.Sound ⟨token, none⟩ := ⟨by simp [other], by simp⟩
  exact (leaf sound).append rest

theorem symbol {mark : Char} (isMark : token.isSymbol mark) (rest : Fit later annotated declaring) :
    Fit (.token token :: later) (token.plain :: annotated) declaring := by
  have kind : token.kind = .symbol mark := eq_of_beq isMark
  exact plain (by simp [Token.isIdentifier, kind]) rest

theorem keyword {word : Keyword} (isWord : token.isKeyword word)
    (rest : Fit later annotated declaring) :
    Fit (.token token :: later) (token.plain :: annotated) declaring := by
  have kind : token.kind = .keyword word := eq_of_beq isWord
  exact plain (by simp [Token.isIdentifier, kind]) rest

/-- The kind of the token is told apart from that of a name. -/
theorem other {α : Type} {read : LexemeKind → α} {result : α} (found : read token.kind = result)
    (differs : read .identifier ≠ result) (rest : Fit later annotated declaring) :
    Fit (.token token :: later) (token.plain :: annotated) declaring := by
  refine plain ?_ rest
  cases kind : token.kind with
  | identifier =>
    rw [kind] at found
    exact absurd found differs
  | _ => simp [Token.isIdentifier, kind]

theorem named {resolution : Resolution} (isName : name.token.isIdentifier)
    (told : name.resolution = resolution)
    (indexed : resolution.index.isSome ↔ resolution.category.variableKind?.isSome)
    (rest : Fit later annotated declaring) :
    Fit (name.node :: later) (name.token.named resolution.meaning :: annotated)
      ((if resolution.isDeclaration then [name.token] else []) ++ declaring) := by
  have sound : Leaf.Sound ⟨name.token, some resolution⟩ := by
    refine ⟨by simp [isName], ?_⟩
    rintro _ ⟨⟩
    exact indexed
  rw [Name.node, told]
  exact (leaf sound).append rest

theorem className {isDeclaration : Bool} (isName : name.token.isIdentifier)
    (told : name.resolution = .className isDeclaration) (rest : Fit later annotated declaring) :
    Fit (name.node :: later) (name.token.named (.className isDeclaration) :: annotated)
      ((if isDeclaration then [name.token] else []) ++ declaring) :=
  named isName told (by simp [Resolution.className, Category.variableKind?]) rest

theorem subroutine {isDeclaration : Bool} (isName : name.token.isIdentifier)
    (told : name.resolution = .subroutine isDeclaration) (rest : Fit later annotated declaring) :
    Fit (name.node :: later) (name.token.named (.subroutine isDeclaration) :: annotated)
      ((if isDeclaration then [name.token] else []) ++ declaring) :=
  named isName told (by simp [Resolution.subroutine, Category.variableKind?]) rest

theorem ofVariable {kind : VariableKind} {isDeclaration : Bool} {index : UInt16}
    (isName : name.token.isIdentifier) (told : name.resolution = .ofVariable kind isDeclaration index)
    (rest : Fit later annotated declaring) :
    Fit (name.node :: later)
      (name.token.named (.ofVariable kind isDeclaration index.toNat) :: annotated)
      ((if isDeclaration then [name.token] else []) ++ declaring) :=
  named isName told
    (by cases kind <;> simp [Resolution.ofVariable, Category.ofVariable, Category.variableKind?]) rest

variable {names : VariableTable} {groups : List Group}

theorem use (shows : names.Shows groups) (isName : name.token.isIdentifier)
    (uses : name.Uses names) (rest : Fit later annotated declaring) :
    Fit (name.node :: later) (name.token.use groups :: annotated) declaring := by
  obtain ⟨entry, found, same⟩ := uses
  have shown := shows name.token.text (Token.text_ne_this isName)
  rw [found] at shown
  have wanted : name.token.use groups =
      name.token.named (.ofVariable entry.kind false entry.index.toNat) := by
    simp [Token.use, Token.named, Meaning.use?, ← shown]
  rw [wanted]
  exact ofVariable isName (congrArg Name.resolution same) rest

theorem qualifier (shows : names.Shows groups) (isName : name.token.isIdentifier)
    (qualifies : name.Qualifies names) (rest : Fit later annotated declaring) :
    Fit (name.node :: later) (name.token.qualifier groups :: annotated) declaring := by
  have shown := shows name.token.text (Token.text_ne_this isName)
  -- Both sides ask for a capital letter first, and only then for a declaration.
  unfold Name.Qualifies VariableTable.qualifier? at qualifies
  unfold Token.qualifier Meaning.qualifier
  split at qualifies
  · rename_i entry found
    split at found
    · cases found
    · rename_i lower
      rw [found] at shown
      rw [if_neg lower, Meaning.use?, ← shown]
      exact ofVariable isName (congrArg Name.resolution qualifies) rest
  · rename_i missing
    split at missing
    · rename_i upper
      rw [if_pos upper]
      exact className isName qualifies rest
    · rename_i lower
      rw [missing] at shown
      rw [if_neg lower, Meaning.use?, ← shown]
      exact className isName qualifies rest

end Fit

section

variable {names : VariableTable} {groups : List Group}

mutual

theorem Term.fit (shows : names.Shows groups) (term : Term) (grammatical : term.Grammatical)
    (resolved : term.Resolved names) : Fit [term.node] (term.annotated groups) [] := by
  cases term with
  | constant token value => exact .branch (.other grammatical nofun .nil)
  | use name => exact .branch (.use shows grammatical resolved .nil)
  | element array opening index closing =>
    obtain ⟨isName, opens, inside, closes⟩ := grammatical
    have offset := index.fit shows inside resolved.2
    exact .branch (.use shows isName resolved.1 (.symbol opens (offset.append (.symbol closes .nil))))
  | call call => exact .branch (call.fit shows grammatical resolved)
  | group opening inner closing =>
    obtain ⟨opens, inside, closes⟩ := grammatical
    have value := inner.fit shows inside resolved
    exact .branch (.symbol opens (value.append (.symbol closes .nil)))
  | unary token operator operand =>
    obtain ⟨isOperator, inside⟩ := grammatical
    exact .branch (.other isOperator nofun (operand.fit shows inside resolved))

theorem Expression.fit (shows : names.Shows groups) (value : Expression)
    (grammatical : value.Grammatical) (resolved : value.Resolved names) :
    Fit [value.node] (value.annotated groups) [] := by
  cases value with
  | term term => exact .branch (term.fit shows grammatical resolved)
  | binary left token operator right =>
    obtain ⟨first, isOperator, second⟩ := grammatical
    have last := right.fit shows second resolved.2
    exact .branch (left.fit_nodesBefore shows first resolved.1 (.other isOperator nofun last))

theorem Expression.fit_nodesBefore (shows : names.Shows groups) (value : Expression)
    (grammatical : value.Grammatical) (resolved : value.Resolved names)
    {later : List Node} {annotated : List Annotated} (rest : Fit later annotated []) :
    Fit (value.nodesBefore later) (value.annotated groups ++ annotated) [] := by
  cases value with
  | term term => exact (term.fit shows grammatical resolved).append rest
  | binary left token operator right =>
    obtain ⟨first, isOperator, second⟩ := grammatical
    have last := (right.fit shows second resolved.2).append rest
    rw [Expression.annotated, List.append_assoc]
    exact left.fit_nodesBefore shows first resolved.1 (.other isOperator nofun last)

theorem Call.fit (shows : names.Shows groups) (call : Call) (grammatical : call.Grammatical)
    (resolved : call.Resolved names) : Fit call.nodes (call.annotated groups) [] := by
  cases call with
  | plain subroutine opening arguments closing =>
    obtain ⟨isName, opens, inside, closes⟩ := grammatical
    have passed := arguments.fit shows inside resolved.2
    exact .subroutine isName resolved.1 (.symbol opens (passed.append (.symbol closes .nil)))
  | qualified qualifier dot subroutine opening arguments closing =>
    obtain ⟨isQualifier, dots, isName, opens, inside, closes⟩ := grammatical
    have passed := arguments.fit shows inside resolved.2.2
    have called := Fit.subroutine isName resolved.2.1
      (.symbol opens (passed.append (.symbol closes .nil)))
    exact .qualifier shows isQualifier resolved.1 (.symbol dots called)

theorem Arguments.fit (shows : names.Shows groups) (arguments : Arguments)
    (grammatical : arguments.Grammatical) (resolved : arguments.Resolved names) :
    Fit [arguments.node] (arguments.annotated groups) [] := by
  cases arguments with
  | none => exact .branch .nil
  | one value => exact .branch (value.fit shows grammatical resolved)
  | more before comma value =>
    obtain ⟨_, first, separates, second⟩ := grammatical
    have last := value.fit shows second resolved.2
    exact .branch (before.fit_nodesBefore shows first resolved.1 (.symbol separates last))

theorem Arguments.fit_nodesBefore (shows : names.Shows groups) (arguments : Arguments)
    (grammatical : arguments.Grammatical) (resolved : arguments.Resolved names)
    {later : List Node} {annotated : List Annotated} (rest : Fit later annotated []) :
    Fit (arguments.nodesBefore later) (arguments.annotated groups ++ annotated) [] := by
  cases arguments with
  | none => exact rest
  | one value => exact (value.fit shows grammatical resolved).append rest
  | more before comma value =>
    obtain ⟨_, first, separates, second⟩ := grammatical
    have last := (value.fit shows second resolved.2).append rest
    rw [Arguments.annotated, List.append_assoc]
    exact before.fit_nodesBefore shows first resolved.1 (.symbol separates last)

end

mutual

theorem Statement.fit (shows : names.Shows groups) (statement : Statement)
    (grammatical : statement.Grammatical) (resolved : statement.Resolved names) :
    Fit [statement.node] (statement.annotated groups) [] := by
  cases statement with
  | assign keyword target equals value semicolon =>
    obtain ⟨isLet, isName, assigns, inside, ends⟩ := grammatical
    have right := (value.fit shows inside resolved.2).append (.symbol ends .nil)
    exact .branch (.keyword isLet (.use shows isName resolved.1 (.symbol assigns right)))
  | assignElement keyword array opening index closing equals value semicolon =>
    obtain ⟨isLet, isName, opens, first, closes, assigns, second, ends⟩ := grammatical
    have right := (value.fit shows second resolved.2.2).append (.symbol ends .nil)
    have offset := (index.fit shows first resolved.2.1).append
      (.symbol closes (.symbol assigns right))
    exact .branch (.keyword isLet (.use shows isName resolved.1 (.symbol opens offset)))
  | when keyword opening condition closing body =>
    obtain ⟨isIf, opens, tests, closes, inside⟩ := grammatical
    have chosen := body.fit shows inside resolved.2
    have tested := (condition.fit shows tests resolved.1).append (.symbol closes chosen)
    exact .branch (.keyword isIf (.symbol opens tested))
  | whenElse keyword opening condition closing body elseKeyword alternative =>
    obtain ⟨isIf, opens, tests, closes, inside, isElse, otherwise⟩ := grammatical
    have second := alternative.fit shows otherwise resolved.2.2
    have first := (body.fit shows inside resolved.2.1).append (.keyword isElse second)
    have tested := (condition.fit shows tests resolved.1).append (.symbol closes first)
    exact .branch (.keyword isIf (.symbol opens tested))
  | loop keyword opening condition closing body =>
    obtain ⟨isWhile, opens, tests, closes, inside⟩ := grammatical
    have round := body.fit shows inside resolved.2
    have tested := (condition.fit shows tests resolved.1).append (.symbol closes round)
    exact .branch (.keyword isWhile (.symbol opens tested))
  | call keyword call semicolon =>
    obtain ⟨isDo, inside, ends⟩ := grammatical
    have called := call.fit shows inside resolved
    exact .branch (.keyword isDo (called.append (.symbol ends .nil)))
  | leave keyword semicolon =>
    obtain ⟨isReturn, ends⟩ := grammatical
    exact .branch (.keyword isReturn (.symbol ends .nil))
  | leaveWith keyword value semicolon =>
    obtain ⟨isReturn, inside, ends⟩ := grammatical
    have right := value.fit shows inside resolved
    exact .branch (.keyword isReturn (right.append (.symbol ends .nil)))

theorem Block.fit (shows : names.Shows groups) (block : Block) (grammatical : block.Grammatical)
    (resolved : block.Resolved names) : Fit block.nodes (block.annotated groups) [] := by
  cases block with
  | braces opening statements closing =>
    obtain ⟨opens, inside, closes⟩ := grammatical
    have all : Fit [.branch .statements (statementNodes statements)] _ [] :=
      .branch (fit_statementNodes shows statements inside resolved)
    exact .symbol opens (all.append (.symbol closes .nil))

theorem fit_statementNodes (shows : names.Shows groups) (statements : List Statement)
    (grammatical : GrammaticalAll statements) (resolved : ResolvedAll names statements) :
    Fit (statementNodes statements) (annotatedAll groups statements) [] := by
  cases statements with
  | nil => exact .nil
  | cons statement statements =>
    have here := statement.fit shows grammatical.1 resolved.1
    have later := fit_statementNodes shows statements grammatical.2 resolved.2
    exact here.append later

end

end

end Jack
