import Jack.Proofs.Program.Depth
import Jack.Proofs.Program.Straight

namespace Jack

/-- What an instruction asks of the depths before and after it. -/
def Instruction.Settles (before after : Nat) : Instruction → Prop
  | .label _ => before = 0
  | .jump _ | .jumpIfFalse _ => after = 0
  | .ret => before = 1
  | .push _ _ | .pop _ _ | .apply _ | .call _ _ | .function _ _ => True

/-- The code leads from one depth to another, and each instruction on the way has its operands and
settles. -/
inductive Disciplined : Nat → List Instruction → Nat → Prop where
  | nil {depth : Nat} : Disciplined depth [] depth
  | cons {instruction : Instruction} {later : List Instruction} {depth middle last : Nat}
    (counted : instruction.depth? depth = some middle) (settles : instruction.Settles depth middle)
    (rest : Disciplined middle later last) : Disciplined depth (instruction :: later) last

namespace Disciplined

variable {code later : List Instruction} {depth middle last : Nat}

theorem append (first : Disciplined depth code middle) (rest : Disciplined middle later last) :
    Disciplined depth (code ++ later) last := by
  induction first with
  | nil => exact rest
  | cons counted settles _ ih => exact .cons counted settles (ih rest)

theorem depthAfter? (disciplined : Disciplined depth code last) :
    Jack.depthAfter? depth code = some last := by
  induction disciplined with
  | nil => rfl
  | cons counted _ _ ih => rw [depthAfter?_cons, counted, Option.bind_some, ih]

theorem of_straight (straight : Straight code) (counted : Jack.depthAfter? depth code = some last) :
    Disciplined depth code last := by
  -- The depths in between are those that are counted on the way.
  induction code generalizing depth with
  | nil =>
    cases counted
    exact .nil
  | cons instruction later ih =>
    obtain ⟨passes, rest⟩ := straight_cons.mp straight
    rw [depthAfter?_cons] at counted
    obtain ⟨middle, here, counted⟩ := Option.bind_eq_some_iff.mp counted
    have settles : instruction.Settles depth middle := by
      cases instruction <;> trivial
    exact .cons here settles (ih rest counted)

theorem label (name : String) : Disciplined 0 [.label name] 0 :=
  .cons rfl rfl .nil

theorem jump (target : String) : Disciplined 0 [.jump target] 0 :=
  .cons rfl rfl .nil

theorem jumpIfFalse (target : String) : Disciplined 1 [.jumpIfFalse target] 0 :=
  .cons rfl rfl .nil

theorem ret : Disciplined 1 [.ret] 0 :=
  .cons rfl rfl .nil

theorem at_instruction {before : List Instruction} {instruction : Instruction}
    (disciplined : Disciplined depth (before ++ instruction :: later) last) :
    ∃ here next, Jack.depthAfter? depth before = some here ∧
      instruction.depth? here = some next ∧ instruction.Settles here next := by
  induction before generalizing depth with
  | nil =>
    cases disciplined with
    | cons counted settles _ => exact ⟨_, _, rfl, counted, settles⟩
  | cons first before ih =>
    cases disciplined with
    | cons counted _ rest =>
      obtain ⟨here, next, reached, later⟩ := ih rest
      refine ⟨here, next, ?_, later⟩
      rw [depthAfter?_cons, counted, Option.bind_some, reached]

end Disciplined

section

variable {context : Context} {names : VariableTable}

theorem Expression.disciplined {value : Expression} (resolved : value.Resolved names)
    (few : value.mostArguments < 65535) (depth : Nat) :
    Disciplined depth (value.code context) (depth + 1) :=
  .of_straight (value.straight_code context) (value.depth_code resolved few depth)

mutual

theorem Statement.disciplined (statement : Statement) (resolved : statement.Resolved names)
    (few : statement.mostArguments < 65535) (first : Nat) :
    Disciplined 0 (statement.code context first) 0 := by
  cases statement with
  | assign keyword target equals value semicolon =>
    have right : Disciplined 0 (value.code context) 1 := Expression.disciplined resolved.2 few 0
    exact right.append (.of_straight target.straight_popCode (resolved.1.depth_popCode 0))
  | assignElement keyword array opening index closing equals value semicolon =>
    have below := Nat.max_lt.mp few
    have base : Disciplined 0 array.pushCode 1 :=
      .of_straight array.straight_pushCode (resolved.1.depth_pushCode 0)
    have offset : Disciplined 1 (index.code context) 2 :=
      Expression.disciplined resolved.2.1 below.1 1
    have right : Disciplined 1 (value.code context) 2 :=
      Expression.disciplined resolved.2.2 below.2 1
    have stored : Disciplined 2 storeCode 0 :=
      .of_straight (by simp [storeCode, Instruction.isStraight]) rfl
    exact base.append (offset.append (.cons rfl trivial (right.append stored)))
  | when keyword opening condition closing body =>
    have below := Nat.max_lt.mp few
    have tested : Disciplined 0 (condition.code context) 1 :=
      Expression.disciplined resolved.1 below.1 0
    have inside := body.disciplined resolved.2 below.2 (first + 1)
    exact tested.append ((Disciplined.jumpIfFalse _).append (inside.append (.label _)))
  | whenElse keyword opening condition closing body elseKeyword alternative =>
    have below := Nat.max_lt.mp few
    have branches := Nat.max_lt.mp below.2
    have tested : Disciplined 0 (condition.code context) 1 :=
      Expression.disciplined resolved.1 below.1 0
    have inside := body.disciplined resolved.2.1 branches.1 (first + 1)
    have otherwise := alternative.disciplined resolved.2.2 branches.2 (first + 1 + body.branches)
    have turn := (Disciplined.jump (endLabel first)).append (.label (elseLabel first))
    have later := turn.append (otherwise.append (.label (endLabel first)))
    exact tested.append ((Disciplined.jumpIfFalse _).append (inside.append later))
  | loop keyword opening condition closing body =>
    have below := Nat.max_lt.mp few
    have tested : Disciplined 0 (condition.code context) 1 :=
      Expression.disciplined resolved.1 below.1 0
    have inside := body.disciplined resolved.2 below.2 (first + 1)
    have back := (Disciplined.jump (testLabel first)).append (.label (exitLabel first))
    have round := (Disciplined.jumpIfFalse (exitLabel first)).append (inside.append back)
    exact (Disciplined.label (testLabel first)).append (tested.append round)
  | call keyword call semicolon =>
    have called : Disciplined 0 (call.code context) 1 :=
      .of_straight (call.straight_code context) (call.depth_code resolved few 0)
    exact called.append (.cons rfl trivial .nil)
  | leave keyword semicolon => exact .cons rfl trivial .ret
  | leaveWith keyword value semicolon =>
    have right : Disciplined 0 (value.code context) 1 := Expression.disciplined resolved few 0
    exact right.append .ret

theorem Block.disciplined (block : Block) (resolved : block.Resolved names)
    (few : block.mostArguments < 65535) (first : Nat) :
    Disciplined 0 (block.code context first) 0 := by
  cases block with
  | braces opening statements closing => exact disciplined_codeOfAll statements resolved few first

theorem disciplined_codeOfAll (statements : List Statement) (resolved : ResolvedAll names statements)
    (few : mostArgumentsOfAll statements < 65535) (first : Nat) :
    Disciplined 0 (codeOfAll context first statements) 0 := by
  cases statements with
  | nil => exact .nil
  | cons statement statements =>
    have below := Nat.max_lt.mp few
    have here := statement.disciplined resolved.1 below.1 first
    have later := disciplined_codeOfAll statements resolved.2 below.2 (first + statement.branches)
    exact here.append later

end

end

theorem SubroutineKind.disciplined_prologue (kind : SubroutineKind) (fieldCount : UInt16) :
    Disciplined 0 (kind.prologue fieldCount) 0 := by
  cases kind with
  | ctor => exact .of_straight (by simp [prologue, Instruction.isStraight]) rfl
  | function => exact .nil
  | method => exact .of_straight (by simp [prologue, Instruction.isStraight]) rfl

theorem ClassDec.disciplined {declaration : ClassDec} {subroutine : Subroutine}
    (resolved : ResolvedAll (declaration.tableIn subroutine) subroutine.body.statements)
    (few : mostArgumentsOfAll subroutine.body.statements < 65535) :
    Disciplined 0 (declaration.subroutineCode subroutine) 0 := by
  have prologue := subroutine.kind.disciplined_prologue declaration.fieldCount
  have body : Disciplined 0
      (codeOfAll (declaration.context subroutine) 0 subroutine.body.statements) 0 :=
    disciplined_codeOfAll subroutine.body.statements resolved few 0
  exact .cons rfl trivial (prologue.append body)

end Jack
