import Jack.Proofs.Program.Discipline

namespace Jack

section

variable (context : Context)

mutual

/-- The points inside a statement. `before` is the code up to the statement. -/
def Statement.completions (first : Nat) (before : List Instruction) :
    Statement → List (List Instruction)
  | .when _ _ condition _ body =>
    body.completions (first + 1)
      (before ++ (condition.code context ++ [.jumpIfFalse (elseLabel first)]))
  | .whenElse _ _ condition _ body _ alternative =>
    let chosen := before ++ (condition.code context ++ [.jumpIfFalse (elseLabel first)])
    let otherwise := chosen ++
      (body.code context (first + 1) ++ [.jump (endLabel first), .label (elseLabel first)])
    body.completions (first + 1) chosen ++
      alternative.completions (first + 1 + body.branches) otherwise
  | .loop _ _ condition _ body =>
    body.completions (first + 1)
      (before ++ .label (testLabel first) ::
        (condition.code context ++ [.jumpIfFalse (exitLabel first)]))
  | .assign .. | .assignElement .. | .call .. | .leave .. | .leaveWith .. => []

def Block.completions (first : Nat) (before : List Instruction) : Block → List (List Instruction)
  | .braces _ statements _ => completionsOfAll first before statements

def completionsOfAll (first : Nat) (before : List Instruction) :
    List Statement → List (List Instruction)
  | [] => []
  | statement :: statements =>
    let upto := before ++ statement.code context first
    statement.completions first before ++
      upto :: completionsOfAll (first + statement.branches) upto statements

end

end

def EmptyAt (code upto : List Instruction) : Prop :=
  upto <+: code ∧ depthAfter? 0 upto = some 0

theorem EmptyAt.within {code whole upto : List Instruction} (empty : EmptyAt code upto)
    (stands : code <+: whole) : EmptyAt whole upto :=
  ⟨empty.1.trans stands, empty.2⟩

theorem depth_step {before code : List Instruction} (start : depthAfter? 0 before = some 0)
    (disciplined : Disciplined 0 code 0) : depthAfter? 0 (before ++ code) = some 0 := by
  rw [depthAfter?_append, start, Option.bind_some, disciplined.depthAfter?]

section

variable {context : Context} {names : VariableTable} {upto : List Instruction}

mutual

theorem Statement.emptyAt_of_completions {statement : Statement} {first : Nat}
    {before : List Instruction} (resolved : statement.Resolved names)
    (few : statement.mostArguments < 65535) (start : depthAfter? 0 before = some 0)
    (member : upto ∈ statement.completions context first before) :
    EmptyAt (before ++ statement.code context first) upto := by
  cases statement with
  | when keyword opening condition closing body =>
    have below := Nat.max_lt.mp few
    have tested : Disciplined 0 (condition.code context) 1 :=
      Expression.disciplined resolved.1 below.1 0
    have inside := depth_step start (tested.append (.jumpIfFalse (elseLabel first)))
    apply (body.emptyAt_of_completions resolved.2 below.2 inside member).within
    exact ⟨[.label (elseLabel first)], by simp [Statement.code]⟩
  | whenElse keyword opening condition closing body elseKeyword alternative =>
    have below := Nat.max_lt.mp few
    have branches := Nat.max_lt.mp below.2
    have tested : Disciplined 0 (condition.code context) 1 :=
      Expression.disciplined resolved.1 below.1 0
    have chosen := depth_step start (tested.append (.jumpIfFalse (elseLabel first)))
    rcases List.mem_append.mp member with member | member
    · apply (body.emptyAt_of_completions resolved.2.1 branches.1 chosen member).within
      exact ⟨.jump (endLabel first) :: .label (elseLabel first) ::
        (alternative.code context (first + 1 + body.branches) ++ [.label (endLabel first)]),
        by simp [Statement.code]⟩
    · have turn := (Disciplined.jump (endLabel first)).append (.label (elseLabel first))
      have inside : Disciplined 0 (body.code context (first + 1)) 0 :=
        body.disciplined resolved.2.1 branches.1 (first + 1)
      have otherwise := depth_step chosen (inside.append turn)
      apply (alternative.emptyAt_of_completions resolved.2.2 branches.2 otherwise member).within
      exact ⟨[.label (endLabel first)], by simp [Statement.code]⟩
  | loop keyword opening condition closing body =>
    have below := Nat.max_lt.mp few
    have tested : Disciplined 0 (condition.code context) 1 :=
      Expression.disciplined resolved.1 below.1 0
    have round := (Disciplined.label (testLabel first)).append
      (tested.append (.jumpIfFalse (exitLabel first)))
    apply (body.emptyAt_of_completions resolved.2 below.2 (depth_step start round) member).within
    exact ⟨[.jump (testLabel first), .label (exitLabel first)], by simp [Statement.code]⟩
  | assign => cases member
  | assignElement => cases member
  | call => cases member
  | leave => cases member
  | leaveWith => cases member

theorem Block.emptyAt_of_completions {block : Block} {first : Nat} {before : List Instruction}
    (resolved : block.Resolved names)
    (few : block.mostArguments < 65535) (start : depthAfter? 0 before = some 0)
    (member : upto ∈ block.completions context first before) :
    EmptyAt (before ++ block.code context first) upto := by
  cases block with
  | braces opening statements closing => exact emptyAt_of_completionsOfAll resolved few start member

theorem emptyAt_of_completionsOfAll {statements : List Statement} {first : Nat}
    {before : List Instruction}
    (resolved : ResolvedAll names statements) (few : mostArgumentsOfAll statements < 65535)
    (start : depthAfter? 0 before = some 0)
    (member : upto ∈ completionsOfAll context first before statements) :
    EmptyAt (before ++ codeOfAll context first statements) upto := by
  cases statements with
  | nil => cases member
  | cons statement statements =>
    have below := Nat.max_lt.mp few
    have complete : depthAfter? 0 (before ++ statement.code context first) = some 0 :=
      depth_step start (statement.disciplined resolved.1 below.1 first)
    have stands : before ++ statement.code context first <+:
        before ++ codeOfAll context first (statement :: statements) :=
      ⟨codeOfAll context (first + statement.branches) statements, by simp [codeOfAll]⟩
    rcases List.mem_append.mp member with member | member
    · exact (statement.emptyAt_of_completions resolved.1 below.1 start member).within stands
    · rcases List.mem_cons.mp member with rfl | member
      · exact ⟨stands, complete⟩
      · have later := emptyAt_of_completionsOfAll resolved.2 below.2 complete member
        rw [List.append_assoc] at later
        exact later

end

end

namespace ClassDec

def completions (declaration : ClassDec) (subroutine : Subroutine) : List (List Instruction) :=
  completionsOfAll (declaration.context subroutine) 0
    (.function (declaration.functionName subroutine) (declaration.localCount subroutine) ::
      subroutine.kind.prologue declaration.fieldCount) subroutine.body.statements

theorem emptyAt_of_completions {declaration : ClassDec} {subroutine : Subroutine}
    {upto : List Instruction}
    (resolved : ResolvedAll (declaration.tableIn subroutine) subroutine.body.statements)
    (few : mostArgumentsOfAll subroutine.body.statements < 65535)
    (member : upto ∈ declaration.completions subroutine) :
    EmptyAt (declaration.subroutineCode subroutine) upto := by
  have header : Disciplined 0
      (.function (declaration.functionName subroutine) (declaration.localCount subroutine) ::
        subroutine.kind.prologue declaration.fieldCount) 0 :=
    .cons rfl trivial (subroutine.kind.disciplined_prologue declaration.fieldCount)
  exact emptyAt_of_completionsOfAll resolved few header.depthAfter? member

end ClassDec

end Jack
