import Jack.Proofs.Machine.Expression
import Jack.Proofs.Machine.Performs

namespace Jack

namespace Task

def code (context : Context) (first : Nat) : Task → List Instruction
  | one statement => statement.code context first
  | all statements => codeOfAll context first statements

def Resolved (names : VariableTable) : Task → Prop
  | one statement => statement.Resolved names
  | all statements => ResolvedAll names statements

def mostArguments : Task → Nat
  | one statement => statement.mostArguments
  | all statements => mostArgumentsOfAll statements

end Task

variable {callee : Callee} {context : Context} {names : VariableTable} {program : List Instruction}
  {stack : List Word} {store middle : Store} {word : Word} {ending : Ending}

theorem Expression.takes_eval {value : Expression} (resolved : value.Resolved names)
    (few : value.mostArguments < 65535) (evaluated : value.eval callee context store = (word, middle))
    (stack : List Word) :
    Takes callee (value.code context) stack store (word :: stack) middle := by
  have takes : Takes callee (value.code context) stack store _ _ :=
    value.takes_code resolved few stack store
  rwa [evaluated] at takes

/-- The induction is on the run, so a loop may come back to the same code any number of times. -/
theorem Runs.performs {task : Task} (runs : Runs callee context task store ending)
    (apart : (labels program).Nodup) (resolved : task.Resolved names)
    (few : task.mostArguments < 65535) (first : Nat) :
    Performs callee program (task.code context first) stack store ending := by
  induction runs generalizing first with
  | nothing => exact .nothing
  | goesOn one all ihOne ihAll =>
    have below := Nat.max_lt.mp few
    have here := ihOne resolved.1 below.1 first
    exact here.goesOn (ihAll resolved.2 below.2 _)
  | stops one ih =>
    have below := Nat.max_lt.mp few
    have here := ih resolved.1 below.1 first
    exact here.stops
  | assign evaluated =>
    have right := Expression.takes_eval resolved.2 few evaluated stack
    exact (right.append (Name.takes_popCode resolved.1 _)).performs
  | @assignElement _ _ _ _ _ array _ _ store _ _ offset word placed evaluated =>
    have below := Nat.max_lt.mp few
    -- The address of the array is pushed first, and keeps its value while the index and the value are computed.
    let base := store.readName array
    have pushed : Takes callee array.pushCode stack store (base :: stack) store :=
      Name.takes_pushCode resolved.1
    have index := Expression.takes_eval resolved.2.1 below.1 placed (base :: stack)
    have right := Expression.takes_eval resolved.2.2 below.2 evaluated ((base + offset) :: stack)
    have stored := (Takes.add base offset).append (right.append (.storeElement word (base + offset)))
    exact (pushed.append (index.append stored)).performs
  | @whenTrue _ _ _ _ body _ _ _ _ tested holds inside ih =>
    obtain ⟨_, statements, _⟩ := body
    have below := Nat.max_lt.mp few
    have condition := Expression.takes_eval resolved.1 below.1 tested stack
    exact condition.whenTrue holds (ih resolved.2 below.2 (first + 1))
  | @whenFalse _ _ _ _ body _ _ tested =>
    have below := Nat.max_lt.mp few
    have condition := Expression.takes_eval resolved.1 below.1 tested stack
    exact condition.whenFalse apart
  | @elseTrue _ _ _ _ _ body alternative _ _ _ _ tested holds inside ih =>
    obtain ⟨_, statements, _⟩ := body
    have below := Nat.max_lt.mp few
    have condition := Expression.takes_eval resolved.1 below.1 tested stack
    exact condition.elseTrue holds apart (ih resolved.2.1 (Nat.max_lt.mp below.2).1 (first + 1))
  | @elseFalse _ _ _ _ _ body alternative _ _ _ tested inside ih =>
    obtain ⟨_, statements, _⟩ := alternative
    have below := Nat.max_lt.mp few
    have condition := Expression.takes_eval resolved.1 below.1 tested stack
    exact condition.elseFalse apart
      (ih resolved.2.2 (Nat.max_lt.mp below.2).2 (first + 1 + body.branches))
  | @loopEnds _ _ _ _ body _ _ tested =>
    have below := Nat.max_lt.mp few
    have condition := Expression.takes_eval resolved.1 below.1 tested stack
    exact condition.loopEnds apart
  | @loopAgain _ _ _ _ body _ _ _ _ _ tested holds inside again ihInside ihAgain =>
    obtain ⟨_, statements, _⟩ := body
    have below := Nat.max_lt.mp few
    have condition := Expression.takes_eval resolved.1 below.1 tested stack
    have round := ihInside resolved.2 below.2 (first + 1)
    exact condition.loopAgain holds apart round (ihAgain resolved few first)
  | @loopStops _ _ _ _ body _ _ _ _ _ tested holds inside ih =>
    obtain ⟨_, statements, _⟩ := body
    have below := Nat.max_lt.mp few
    have condition := Expression.takes_eval resolved.1 below.1 tested stack
    exact condition.loopStops holds (ih resolved.2 below.2 (first + 1))
  | @call keyword semicolon call store =>
    have called : Takes callee (call.code context) stack store _ _ :=
      call.takes_code resolved few stack store
    exact (called.append (.discard _)).performs
  | leave => exact Performs.leaves (.constant 0)
  | leaveWith evaluated => exact Performs.leaves (Expression.takes_eval resolved few evaluated stack)

end Jack
