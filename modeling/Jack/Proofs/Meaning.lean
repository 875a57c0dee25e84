import Jack.Proofs.Accepted
import Jack.Proofs.Machine.Interpreter
import Jack.Proofs.Machine.Statement
import Jack.Proofs.Program.Lists

namespace Jack

/-- The code of a statement list stands in the code of its subroutine. In the whole of that code, and in
every piece of it, the code of the list takes the machine to the ending of the run. -/
theorem performs_of_runs {tokens : List Token} {declaration : ClassDec} {s : ParseState}
    (accepted : parse tokens = .ok declaration s) {subroutine : Subroutine}
    (own : subroutine ∈ declaration.subroutines) {number : Nat} {statements : List Statement}
    (member : (number, statements) ∈ subroutine.lists)
    (few : mostArgumentsOfAll statements < 65535) :
    declaration.subroutineCode subroutine <:+: s.instructions ∧
      codeOfAll (declaration.context subroutine) number statements <:+:
        declaration.subroutineCode subroutine ∧
      ∀ program, program <:+: declaration.subroutineCode subroutine →
        ∀ (callee : Callee) (stack : List Word) (store : Store) (ending : Ending),
          Runs callee (declaration.context subroutine) (.all statements) store ending →
            Performs callee program
              (codeOfAll (declaration.context subroutine) number statements) stack store ending := by
  have resolved := subroutine.resolved_lists (resolved_statements accepted own) member
  have apart := declaration.nodup_labels subroutine
  refine ⟨infix_instructions accepted own,
    declaration.infix_subroutineCode subroutine member, ?_⟩
  intro program piece callee stack store ending runs
  have names : (labels program).Sublist (labels (declaration.subroutineCode subroutine)) :=
    piece.sublist.filterMap Instruction.label?
  exact runs.performs (apart.sublist names) resolved few number

/-- Sums up an array in place, up to the first element that is below zero. -/
def sumsTexts : List String :=
  ["class", "Sums", "\x7b", "function", "int", "run", "(", "Array", "a", ",", "int", "n", ")", "\x7b",
      "var", "int", "i", ";",
      "while", "(", "i", "<", "n", ")", "\x7b",
        "if", "(", "a", "[", "i", "+", "1", "]", "<", "0", ")", "\x7b", "return", "i", ";", "\x7d",
        "else", "\x7b", "let", "a", "[", "i", "+", "1", "]", "=", "a", "[", "i", "]", "+", "a", "[",
          "i", "+", "1", "]", ";", "\x7d",
        "let", "i", "=", "i", "+", "1", ";", "\x7d",
      "return", "a", "[", "n", "]", "*", "2", ";", "\x7d", "\x7d"]

def multiplier : Callee
  | "Math.multiply", [left, right], heap, statics => (left * right, heap, statics)
  | _, _, heap, statics => (0, heap, statics)

/-- Every cell of the heap holds its address, and the array has three elements from address 100 on. -/
def countingStore : Store where
  locals := fun _ => 0
  arguments := fun index => if index = 0 then 100 else 3
  statics := fun _ => 0
  heap := fun address => address
  this := 0

def Ending.returns (word : Word) : Ending → Bool
  | next _ => false
  | returned result _ => result = word

def runReturns (declaration : ClassDec) (subroutine : Subroutine) (word : Word) : Bool :=
  (run? multiplier (declaration.context subroutine) 30 (.all subroutine.body.statements)
    countingStore).any (Ending.returns word)

theorem performs_of_sums :
    ∃ declaration s subroutine last, parse (lexemes sumsTexts) = .ok declaration s ∧
      subroutine ∈ declaration.subroutines ∧
      Runs multiplier (declaration.context subroutine) (.all subroutine.body.statements) countingStore
        (.returned 812 last) ∧
      ∀ stack, Performs multiplier (declaration.subroutineCode subroutine)
        (codeOfAll (declaration.context subroutine) 0 subroutine.body.statements) stack countingStore
        (.returned 812 last) := by
  have passes : acceptsWith (fun declaration => declaration.subroutines.any fun subroutine =>
      decide (mostArgumentsOfAll subroutine.body.statements < 65535) &&
        runReturns declaration subroutine 812) (lexemes sumsTexts) := by
    decide +kernel
  obtain ⟨declaration, s, accepted, tested⟩ := exists_of_acceptsWith passes
  obtain ⟨subroutine, own, tested⟩ := List.any_eq_true.mp tested
  obtain ⟨few, returns⟩ := Bool.and_eq_true_iff.mp tested
  obtain ⟨ending, ended, isReturned⟩ := (Option.any_eq_true _ _).mp returns
  have runs := runs_of_run? ended
  cases ending with
  | next store => cases isReturned
  | returned word last =>
    obtain rfl : word = 812 := of_decide_eq_true isReturned
    have whole := performs_of_runs accepted own List.mem_cons_self (of_decide_eq_true few)
    refine ⟨declaration, s, subroutine, last, accepted, own, runs, ?_⟩
    intro stack
    exact whole.2.2 _ List.infix_rfl multiplier stack countingStore _ runs

end Jack
