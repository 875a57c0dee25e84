import Jack.Proofs.Program.Calls
import Jack.Proofs.Program.Scope

namespace Jack

mutual

def Statement.lists (first : Nat) : Statement → List (Nat × List Statement)
  | .when _ _ _ _ body => body.lists (first + 1)
  | .whenElse _ _ _ _ body _ alternative =>
    body.lists (first + 1) ++ alternative.lists (first + 1 + body.branches)
  | .loop _ _ _ _ body => body.lists (first + 1)
  | .assign .. | .assignElement .. | .call .. | .leave .. | .leaveWith .. => []

def Block.lists (first : Nat) : Block → List (Nat × List Statement)
  | .braces _ statements _ => (first, statements) :: listsInside first statements

def listsInside (first : Nat) : List Statement → List (Nat × List Statement)
  | [] => []
  | statement :: statements =>
    statement.lists first ++ listsInside (first + statement.branches) statements

end

def SubroutineBody.block (body : SubroutineBody) : Block :=
  .braces body.opening body.statements body.closing

def Subroutine.lists (subroutine : Subroutine) : List (Nat × List Statement) :=
  subroutine.body.block.lists 0

section

variable {names : VariableTable} {number : Nat} {inner : List Statement}

mutual

theorem Statement.resolved_lists {first : Nat} {statement : Statement}
    (resolved : statement.Resolved names) (member : (number, inner) ∈ statement.lists first) :
    ResolvedAll names inner := by
  cases statement with
  | when keyword opening condition closing body => exact body.resolved_lists resolved.2 member
  | whenElse keyword opening condition closing body elseKeyword alternative =>
    rcases List.mem_append.mp member with member | member
    · exact body.resolved_lists resolved.2.1 member
    · exact alternative.resolved_lists resolved.2.2 member
  | loop keyword opening condition closing body => exact body.resolved_lists resolved.2 member
  | assign => cases member
  | assignElement => cases member
  | call => cases member
  | leave => cases member
  | leaveWith => cases member

theorem Block.resolved_lists {first : Nat} {block : Block} (resolved : block.Resolved names)
    (member : (number, inner) ∈ block.lists first) : ResolvedAll names inner := by
  cases block with
  | braces opening statements closing =>
    rcases List.mem_cons.mp member with same | member
    · cases same
      exact resolved
    · exact resolved_listsInside resolved member

theorem resolved_listsInside {first : Nat} {statements : List Statement}
    (resolved : ResolvedAll names statements) (member : (number, inner) ∈ listsInside first statements) :
    ResolvedAll names inner := by
  cases statements with
  | nil => cases member
  | cons statement statements =>
    rcases List.mem_append.mp member with member | member
    · exact statement.resolved_lists resolved.1 member
    · exact resolved_listsInside resolved.2 member

end

variable (context : Context)

mutual

theorem Statement.infix_lists {first : Nat} {statement : Statement}
    (member : (number, inner) ∈ statement.lists first) :
    codeOfAll context number inner <:+: statement.code context first := by
  cases statement with
  | when keyword opening condition closing body =>
    have inside := body.infix_lists member
    exact List.infix_append_of_infix_right (List.infix_cons (List.infix_append_of_infix_left inside))
  | whenElse keyword opening condition closing body elseKeyword alternative =>
    rcases List.mem_append.mp member with member | member
    · have inside := body.infix_lists member
      exact List.infix_append_of_infix_right (List.infix_cons (List.infix_append_of_infix_left inside))
    · have inside := alternative.infix_lists member
      apply List.infix_append_of_infix_right
      apply List.infix_cons
      apply List.infix_append_of_infix_right
      apply List.infix_cons
      exact List.infix_cons (List.infix_append_of_infix_left inside)
  | loop keyword opening condition closing body =>
    have inside := body.infix_lists member
    exact List.infix_cons (List.infix_append_of_infix_right
      (List.infix_cons (List.infix_append_of_infix_left inside)))
  | assign => cases member
  | assignElement => cases member
  | call => cases member
  | leave => cases member
  | leaveWith => cases member

theorem Block.infix_lists {first : Nat} {block : Block}
    (member : (number, inner) ∈ block.lists first) :
    codeOfAll context number inner <:+: block.code context first := by
  cases block with
  | braces opening statements closing =>
    rcases List.mem_cons.mp member with same | member
    · cases same
      exact List.infix_rfl
    · exact infix_listsInside member

theorem infix_listsInside {first : Nat} {statements : List Statement}
    (member : (number, inner) ∈ listsInside first statements) :
    codeOfAll context number inner <:+: codeOfAll context first statements := by
  cases statements with
  | nil => cases member
  | cons statement statements =>
    rcases List.mem_append.mp member with member | member
    · exact List.infix_append_of_infix_left (statement.infix_lists member)
    · exact List.infix_append_of_infix_right (infix_listsInside member)

end

theorem Subroutine.resolved_lists (subroutine : Subroutine)
    (resolved : ResolvedAll names subroutine.body.statements)
    (member : (number, inner) ∈ subroutine.lists) : ResolvedAll names inner := by
  have whole : subroutine.body.block.Resolved names := resolved
  exact Block.resolved_lists whole member

theorem ClassDec.infix_subroutineCode (declaration : ClassDec) (subroutine : Subroutine)
    (member : (number, inner) ∈ subroutine.lists) :
    codeOfAll (declaration.context subroutine) number inner <:+:
      declaration.subroutineCode subroutine := by
  have inBody := subroutine.body.block.infix_lists (declaration.context subroutine) member
  exact List.infix_cons (List.infix_append_of_infix_right inBody)

end

end Jack
