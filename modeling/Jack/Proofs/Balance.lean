import Jack.Proofs.Accepted
import Jack.Proofs.Machine.Flow
import Jack.Proofs.Program.Completions
import Jack.Proofs.Program.Functions

namespace Jack

structure Instruction.Balanced (before : List Instruction) (instruction : Instruction) (depth : Nat) :
    Prop where
  reached : depthAfter? 0 before = some depth
  operands : instruction.takes ≤ depth
  left : depthAfter? 0 (before ++ [instruction]) = some (depth - instruction.takes + instruction.gives)
  settles : instruction.Settles depth (depth - instruction.takes + instruction.gives)

/-- A function in which each instruction finds its operands, and `completions` are points at which nothing
is left on the stack. Control finds the same depth on all its paths, and so does the machine. -/
structure Balanced (code : List Instruction) (completions : List (List Instruction)) : Prop where
  counted : ∀ before instruction later, code = before ++ instruction :: later →
    ∃ depth, instruction.Balanced before depth
  completed : ∀ upto ∈ completions, EmptyAt code upto
  paths : ∀ position depth, Leads code position depth →
    depthAfter? 0 (code.take position) = some depth
  runs : ∀ (callee : Callee) (machine last : Machine), machine.position = 1 → machine.stack = [] →
    Relation.ReflTransGen (Machine.Steps callee code) machine last →
      depthAfter? 0 (code.take last.position) = some last.stack.length

namespace Disciplined

variable {code : List Instruction} {last : Nat}

theorem counted {before later : List Instruction} {instruction : Instruction}
    (disciplined : Disciplined 0 (before ++ instruction :: later) last) :
    ∃ depth, instruction.Balanced before depth := by
  obtain ⟨depth, after, reached, counted, settles⟩ := disciplined.at_instruction
  obtain ⟨operands, rfl⟩ := Instruction.depth?_eq counted
  refine ⟨depth, reached, operands, ?_, settles⟩
  rw [depthAfter?_append, reached, Option.bind_some, depthAfter?_singleton, counted]

theorem depth_of_steps {name : String} {localCount : UInt16} {body : List Instruction} {callee : Callee}
    {machine after : Machine} (disciplined : Disciplined 0 (.function name localCount :: body) last)
    (enters : machine.position = 1) (empty : machine.stack = [])
    (steps : Relation.ReflTransGen (Machine.Steps callee (.function name localCount :: body))
      machine after) :
    Jack.depthAfter? 0 ((Instruction.function name localCount :: body).take after.position) =
      some after.stack.length := by
  -- The machine is called behind the header, which leaves the stack as it is.
  have header : Leads (.function name localCount :: body) 1 0 := .next .start rfl rfl rfl
  have inside : Leads (.function name localCount :: body) machine.position machine.stack.length := by
    rw [enters, empty]
    exact header
  exact (Machine.leads_of_steps inside steps).depthAfter? disciplined

end Disciplined

theorem ClassDec.balanced {declaration : ClassDec} {subroutine : Subroutine}
    (resolved : ResolvedAll (declaration.tableIn subroutine) subroutine.body.statements)
    (few : mostArgumentsOfAll subroutine.body.statements < 65535) :
    Balanced (declaration.subroutineCode subroutine) (declaration.completions subroutine) := by
  have disciplined := ClassDec.disciplined resolved few
  refine ⟨?_, ?_, ?_, ?_⟩
  · intro before instruction later same
    rw [same] at disciplined
    exact disciplined.counted
  · intro upto member
    exact ClassDec.emptyAt_of_completions resolved few member
  · intro position depth leads
    exact leads.depthAfter? disciplined
  · intro callee machine last enters empty steps
    exact disciplined.depth_of_steps enters empty steps

/-- The functions of a class are those of its subroutines, and each of them is balanced. -/
theorem functions_are_balanced {tokens : List Token} {declaration : ClassDec} {s : ParseState}
    (accepted : parse tokens = .ok declaration s)
    (few : ∀ subroutine ∈ declaration.subroutines,
      mostArgumentsOfAll subroutine.body.statements < 65535) :
    splitFunctions s.instructions =
        ([], declaration.subroutines.map declaration.subroutineCode) ∧
      ∀ subroutine ∈ declaration.subroutines,
        Balanced (declaration.subroutineCode subroutine) (declaration.completions subroutine) := by
  constructor
  · rw [instructions_of_parse accepted]
    exact declaration.splitFunctions_code
  · intro subroutine own
    exact ClassDec.balanced (resolved_statements accepted own) (few subroutine own)

/-- Calls on the object at hand, on a variable and on a class, a string, an element that is stored, and
branches inside a loop. -/
def ledgerTexts : List String :=
  ["class", "Ledger", "\x7b", "field", "Array", "rows", ";", "field", "int", "used", ";",
    "constructor", "Ledger", "new", "(", "int", "size", ")", "\x7b",
      "let", "rows", "=", "Array", ".", "new", "(", "size", "*", "2", ")", ";",
      "let", "used", "=", "0", ";", "return", "this", ";", "\x7d",
    "method", "void", "add", "(", "Ledger", "other", ",", "int", "amount", ")", "\x7b",
      "while", "(", "~", "(", "amount", "=", "0", ")", ")", "\x7b",
        "if", "(", "amount", "<", "0", ")", "\x7b",
          "do", "other", ".", "add", "(", "rows", "[", "used", "]", ",", "-", "amount", ")", ";",
          "return", ";", "\x7d",
        "else", "\x7b", "let", "rows", "[", "used", "+", "1", "]", "=", "rows", "[", "used", "]", "/",
          "amount", ";", "\x7d",
        "let", "amount", "=", "amount", "-", "1", ";", "\x7d",
      "do", "print", "(", "\"ok\"", ")", ";", "return", ";", "\x7d",
    "method", "void", "print", "(", "String", "text", ")", "\x7b",
      "do", "Output", ".", "printString", "(", "text", ")", ";", "return", ";", "\x7d", "\x7d"]

theorem functions_of_ledger_are_balanced :
    ∃ declaration s, parse (lexemes ledgerTexts) = .ok declaration s ∧
      declaration.subroutines.map (List.length ∘ declaration.completions) = [3, 8, 2] ∧
      (∀ subroutine ∈ declaration.subroutines,
        mostArgumentsOfAll subroutine.body.statements < 65535) ∧
      splitFunctions s.instructions =
        ([], declaration.subroutines.map declaration.subroutineCode) ∧
      ∀ subroutine ∈ declaration.subroutines,
        Balanced (declaration.subroutineCode subroutine) (declaration.completions subroutine) := by
  have passes : acceptsWith (fun declaration => decide
        (declaration.subroutines.map (List.length ∘ declaration.completions) = [3, 8, 2]) &&
      declaration.subroutines.all fun subroutine =>
        decide (mostArgumentsOfAll subroutine.body.statements < 65535)) (lexemes ledgerTexts) := by
    decide +kernel
  obtain ⟨declaration, s, accepted, tested⟩ := exists_of_acceptsWith passes
  obtain ⟨complete, small⟩ := Bool.and_eq_true_iff.mp tested
  have few : ∀ subroutine ∈ declaration.subroutines,
      mostArgumentsOfAll subroutine.body.statements < 65535 := by
    intro subroutine own
    exact of_decide_eq_true (List.all_eq_true.mp small subroutine own)
  exact ⟨declaration, s, accepted, of_decide_eq_true complete, few, functions_are_balanced accepted few⟩

end Jack
