import Jack.Proofs.Accepted
import Jack.Proofs.Program.Straight
import Jack.Proofs.Tree.Declared

namespace Jack

namespace ClassDec

variable {declaration : ClassDec} {subroutine : Subroutine}

theorem log_written : declaration.log subroutine = subroutine.written.reverse ++
    ((subroutine.kind.declared declaration.name.token.text).reverse ++ declaration.declared.reverse) := by
  rw [log, Subroutine.declared, List.reverse_append, List.append_assoc]
  rfl

theorem count_written : Log.count (declaration.declared ++ subroutine.written).reverse .localVar =
    (declaration.log subroutine).count .localVar := by
  have object : Log.names (subroutine.kind.declared declaration.name.token.text).reverse .localVar =
      [] := by
    cases subroutine.kind <;> rfl
  rw [Log.count, Log.count, log_written, List.reverse_append, Log.names_append, Log.names_append,
    Log.names_append, object, List.nil_append]

theorem find?_written {kind : VariableKind} {name : String} (other : name ≠ "this") :
    ((declaration.declared ++ subroutine.written).reverse.find? fun new =>
      new.kind = kind ∧ new.name = name) =
      (declaration.log subroutine).find? fun new => new.kind = kind ∧ new.name = name := by
  have object : ((subroutine.kind.declared declaration.name.token.text).reverse.find? fun new =>
      new.kind = kind ∧ new.name = name) = none := by
    cases subroutine.kind <;> simp [SubroutineKind.declared, Ne.symm other]
  rw [log_written, List.reverse_append, List.find?_append, List.find?_append, List.find?_append, object,
    Option.none_or]

variable (declaration)

theorem suits : Surroundings.Suits
    ⟨declaration.name.token.text,
      (declaration.declared ++ subroutine.written).map Declaration.told⟩
    (declaration.context subroutine) (declaration.tableIn subroutine) := by
  refine ⟨rfl, ?_⟩
  intro name isName uses
  obtain ⟨entry, found, same⟩ := uses
  rw [(declaration.tableIn_records subroutine).lookup?] at found
  rw [Surroundings.typeOf_told _ _ same, find?_written (Token.text_ne_this isName),
    ← Log.type_latest?, Log.latest?_of_lookup? found, context]
  dsimp only
  rw [found]

theorem surroundings_node (grammatical : declaration.Grammatical) (resolved : declaration.Resolved) :
    declaration.node.surroundings =
      ⟨declaration.name.token.text, declaration.declared.map Declaration.told⟩ := by
  obtain ⟨_, _, _, groups, _⟩ := grammatical
  have declarations := Node.declaredBy_variableDecs (.inl rfl) groups resolved.2.1
  have subroutines : (declaration.subroutines.map Subroutine.node).flatMap Node.declaredBy = [] := by
    simp [Subroutine.node, Node.declaredBy]
  have members : (Node.token declaration.opening ::
      (declaration.declarations.map (VariableDec.node .classVarDec) ++
        (declaration.subroutines.map Subroutine.node ++ [.token declaration.closing]))).flatMap
          Node.declaredBy = declaration.declared.map Declaration.told := by
    rw [List.flatMap_cons, List.flatMap_append, List.flatMap_append, declarations, subroutines]
    exact List.append_nil _
  rw [← members]
  rfl

theorem subroutineCode_node (grammatical : declaration.Grammatical) (resolved : declaration.Resolved)
    (own : subroutine ∈ declaration.subroutines) :
    subroutine.node.subroutineCode declaration.node.surroundings =
      declaration.subroutineCode subroutine := by
  obtain ⟨isKind, _, _, _, parameters, _, body⟩ := grammatical.2.2.2.2.1 subroutine own
  obtain ⟨_, _, ofParameters, ofLocals, ofStatements⟩ := resolved.2.2 subroutine own
  have shape : subroutine.node.subroutineCode declaration.node.surroundings =
      let inside := declaration.node.surroundings.declaring
        (Node.declaredParameters (subroutine.parameters.flatMap Parameter.nodes) ++
          subroutine.body.node.children.flatMap Node.declaredBy)
      .function (declaration.node.surroundings.className ++ "." ++ subroutine.name.token.text)
          (inside.count .localVar).toUInt16 ::
        (subroutine.keyword.prologueCode (declaration.node.surroundings.count .field) ++
          subroutine.body.node.children.flatMap (Node.code inside 0)) := rfl
  rw [shape, declaration.surroundings_node grammatical resolved,
    Node.declaredParameters_eq parameters ofParameters, Node.declaredBy_body body ofLocals,
    ← List.map_append, ← Subroutine.written, Surroundings.declaring, ← List.map_append]
  dsimp only
  have locals := Surroundings.count_told declaration.name.token.text
    (declaration.declared ++ subroutine.written) .localVar
  have fields := Surroundings.count_told declaration.name.token.text declaration.declared .field
  rw [count_written, Category.ofVariable] at locals
  rw [Category.ofVariable] at fields
  rw [Node.code_body declaration.suits body ofStatements, Token.prologueCode_eq _ isKind, locals,
    fields]
  rfl

theorem classCode_node (grammatical : declaration.Grammatical) (resolved : declaration.Resolved) :
    declaration.node.classCode = declaration.code := by
  have declarations : (declaration.declarations.map (VariableDec.node .classVarDec)).flatMap
      (Node.subroutineCode declaration.node.surroundings) = [] := by
    simp [VariableDec.node, Node.subroutineCode]
  have subroutines : (declaration.subroutines.map Subroutine.node).flatMap
      (Node.subroutineCode declaration.node.surroundings) = declaration.code := by
    rw [List.flatMap_map, code]
    exact List.flatMap_congr fun subroutine own => declaration.subroutineCode_node grammatical resolved own
  have children : declaration.node.children = .token declaration.keyword :: declaration.name.node ::
      .token declaration.opening ::
        (declaration.declarations.map (VariableDec.node .classVarDec) ++
          (declaration.subroutines.map Subroutine.node ++ [.token declaration.closing])) := rfl
  rw [Node.classCode, children, List.flatMap_cons, List.flatMap_cons, List.flatMap_cons,
    List.flatMap_append, List.flatMap_append, declarations, subroutines]
  exact List.append_nil _

end ClassDec

def Instruction.conditional? : Instruction → Option String
  | .jumpIfFalse target => some target
  | _ => none

def conditionals (code : List Instruction) : List String :=
  code.filterMap Instruction.conditional?

@[simp] theorem conditionals_nil : conditionals [] = [] := rfl

@[simp] theorem conditionals_append (first later : List Instruction) :
    conditionals (first ++ later) = conditionals first ++ conditionals later :=
  List.filterMap_append

@[simp] theorem conditionals_cons (instruction : Instruction) (later : List Instruction) :
    conditionals (instruction :: later) = instruction.conditional?.toList ++ conditionals later := by
  cases instruction <;> rfl

theorem conditionals_of_straight {code : List Instruction} (straight : Straight code) :
    conditionals code = [] := by
  apply straight.filterMap_eq_nil
  intro instruction passes
  cases instruction <;> first | rfl | cases passes

@[simp] theorem Name.conditionals_pushCode (name : Name) : conditionals name.pushCode = [] :=
  conditionals_of_straight name.straight_pushCode

@[simp] theorem Name.conditionals_popCode (name : Name) : conditionals name.popCode = [] :=
  conditionals_of_straight name.straight_popCode

section

variable (context : Context)

@[simp] theorem Expression.conditionals_code (value : Expression) :
    conditionals (value.code context) = [] :=
  conditionals_of_straight (value.straight_code context)

@[simp] theorem Call.conditionals_code (call : Call) : conditionals (call.code context) = [] :=
  conditionals_of_straight (call.straight_code context)

/-- The if and while statements of a list take the labels from a number on, each the next one. -/
def labelsFrom (first : Nat) (statements : List Production) : List String :=
  statements.mapIdx fun number => Node.otherwise (first + number)

@[simp] theorem labelsFrom_nil (first : Nat) : labelsFrom first [] = [] := rfl

@[simp] theorem labelsFrom_cons (first : Nat) (statement : Production) (statements : List Production) :
    labelsFrom first (statement :: statements) =
      Node.otherwise first statement :: labelsFrom (first + 1) statements := by
  simp [labelsFrom, List.mapIdx_cons, Nat.add_assoc, Nat.add_comm 1]

@[simp] theorem labelsFrom_append (first : Nat) (statements later : List Production) :
    labelsFrom first (statements ++ later) =
      labelsFrom first statements ++ labelsFrom (first + statements.length) later := by
  simp [labelsFrom, List.mapIdx_append, Nat.add_assoc, Nat.add_comm statements.length]

open Node

mutual

theorem Statement.conditionals_code (first : Nat) (statement : Statement) :
    conditionals (statement.code context first) = labelsFrom first statement.node.branching := by
  cases statement with
  | assign keyword target equals value semicolon =>
    simp [Statement.code, Statement.node, branching, branchingOfAll, branching_expression]
  | assignElement keyword array opening index closing equals value semicolon =>
    simp [Statement.code, Statement.node, branching, branchingOfAll, branching_expression, storeCode,
      Instruction.conditional?]
  | when keyword opening condition closing body =>
    simp [Statement.code, Statement.node, branching, branchingOfAll, branching_expression, elseLabel,
      otherwise, Instruction.conditional?, body.conditionals_code]
  | whenElse keyword opening condition closing body elseKeyword alternative =>
    simp [Statement.code, Statement.node, branching, branchingOfAll, branching_expression, elseLabel,
      otherwise, Instruction.conditional?, branchingOfAll_append, body.conditionals_code,
      alternative.conditionals_code, length_branching_block]
  | loop keyword opening condition closing body =>
    simp [Statement.code, Statement.node, branching, branchingOfAll, branching_expression, exitLabel,
      otherwise, Instruction.conditional?, body.conditionals_code]
  | call keyword call semicolon =>
    simp [Statement.code, Statement.node, branching, branchingOfAll, branchingOfAll_append,
      branching_call, Instruction.conditional?]
  | leave keyword semicolon => rfl
  | leaveWith keyword value semicolon =>
    simp [Statement.code, Statement.node, branching, branchingOfAll, branching_expression,
      Instruction.conditional?]

theorem Block.conditionals_code (first : Nat) (block : Block) :
    conditionals (block.code context first) = labelsFrom first (branchingOfAll block.nodes) := by
  cases block with
  | braces opening statements closing =>
    simp [Block.code, Block.nodes, branching, branchingOfAll, conditionals_codeOfAll]

theorem conditionals_codeOfAll (first : Nat) (statements : List Statement) :
    conditionals (codeOfAll context first statements) =
      labelsFrom first (branchingOfAll (statementNodes statements)) := by
  cases statements with
  | nil => rfl
  | cons statement statements =>
    simp [codeOfAll, statementNodes, branchingOfAll, statement.conditionals_code,
      conditionals_codeOfAll, length_branching]

end

end

theorem SubroutineKind.conditionals_prologue (kind : SubroutineKind) (fieldCount : UInt16) :
    conditionals (kind.prologue fieldCount) = [] := by
  cases kind <;> rfl

theorem ClassDec.conditionals_subroutineCode (declaration : ClassDec) (subroutine : Subroutine) :
    conditionals (declaration.subroutineCode subroutine) =
      subroutine.node.branching.mapIdx Node.otherwise := by
  have numbered := conditionals_codeOfAll (declaration.context subroutine) 0 subroutine.body.statements
  simp only [labelsFrom, Nat.zero_add] at numbered
  rw [Node.branching_subroutine, ← numbered, subroutineCode, bodyCode]
  simp [Instruction.conditional?, SubroutineKind.conditionals_prologue]

/-- Reading emits the documented code of the finished tree and nothing else, and the conditional jumps
of each subroutine take their numbers from zero in the order in which the statements begin. -/
theorem emitted_code_of_tree {tokens : List Token} {declaration : ClassDec} {s : ParseState}
    (accepted : parse tokens = .ok declaration s) :
    s.instructions = declaration.node.classCode ∧
      ∀ subroutine ∈ declaration.subroutines,
        conditionals (subroutine.node.subroutineCode declaration.node.surroundings) =
          subroutine.node.branching.mapIdx Node.otherwise := by
  obtain ⟨yields, _⟩ := parse_reads accepted
  refine ⟨?_, ?_⟩
  · rw [declaration.classCode_node yields.grammatical yields.resolved]
    exact instructions_of_parse accepted
  · intro subroutine own
    rw [declaration.subroutineCode_node yields.grammatical yields.resolved own]
    exact declaration.conditionals_subroutineCode subroutine

def counterTexts : List String :=
  ["class", "Counter", "\x7b", "field", "int", "n", ";", "field", "Counter", "next", ";",
    "constructor", "Counter", "new", "(", ")", "\x7b", "let", "n", "=", "0", ";",
      "return", "this", ";", "\x7d",
    "method", "int", "run", "(", "int", "limit", ")", "\x7b", "var", "Array", "a", ";",
      "let", "a", "=", "Array", ".", "new", "(", "limit", ")", ";",
      "while", "(", "n", "<", "limit", ")", "\x7b",
        "if", "(", "a", "[", "n", "]", "=", "0", ")", "\x7b", "let", "a", "[", "n", "]", "=",
          "-", "next", ".", "run", "(", "n", "+", "1", ")", ";", "\x7d",
        "else", "\x7b", "do", "run", "(", "n", ")", ";", "\x7d",
        "let", "n", "=", "n", "+", "1", ";", "\x7d",
      "return", "n", ";", "\x7d", "\x7d"]

theorem emitted_code_of_counter :
    ∃ declaration s, parse (lexemes counterTexts) = .ok declaration s ∧
      s.instructions = declaration.node.classCode ∧
      ∀ subroutine ∈ declaration.subroutines,
        conditionals (subroutine.node.subroutineCode declaration.node.surroundings) =
          subroutine.node.branching.mapIdx Node.otherwise := by
  have passes : acceptsWith (fun _ => true) (lexemes counterTexts) := by decide +kernel
  obtain ⟨declaration, s, accepted, _⟩ := exists_of_acceptsWith passes
  exact ⟨declaration, s, accepted, emitted_code_of_tree accepted⟩

end Jack
