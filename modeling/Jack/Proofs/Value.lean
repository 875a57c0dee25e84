import Jack.Proofs.Accepted
import Jack.Proofs.Machine.Expression
import Jack.Proofs.Parse.Expression

namespace Jack

namespace Expression

def first : Expression → Term
  | .term only => only
  | .binary left _ _ _ => left.first

def operations : Expression → List (Token × BinaryOperator × Term)
  | .term _ => []
  | .binary left token operator right => left.operations ++ [(token, operator, right)]

def operationNodes (operation : Token × BinaryOperator × Term) : List Node :=
  let (token, _, right) := operation
  [.token token, right.node]

theorem nodesBefore_eq (value : Expression) (later : List Node) :
    value.nodesBefore later =
      value.first.node :: value.operations.flatMap operationNodes ++ later := by
  cases value with
  | term term => rfl
  | binary left token operator right =>
    rw [nodesBefore, left.nodesBefore_eq]
    simp [first, operations, operationNodes]

theorem node_eq (value : Expression) :
    value.node =
      .branch .expression (value.first.node :: value.operations.flatMap operationNodes) := by
  cases value with
  | term term => rfl
  | binary left token operator right =>
    rw [node, left.nodesBefore_eq]
    simp [first, operations, operationNodes]

def join (callee : Callee) (context : Context) (made : Word × Store)
    (operation : Token × BinaryOperator × Term) : Word × Store :=
  let (_, operator, right) := operation
  let (word, store) := right.eval callee context made.2
  operator.eval callee made.1 word store

theorem eval_eq_foldl (callee : Callee) (context : Context) (store : Store) (value : Expression) :
    value.eval callee context store =
      value.operations.foldl (join callee context) (value.first.eval callee context store) := by
  cases value with
  | term term => rfl
  | binary left token operator right =>
    rw [Expression.eval, left.eval_eq_foldl, operations, first, List.foldl_append]
    rfl

end Expression

/-- Wherever the code stands, it pushes one word on any stack and leaves the store that is told. -/
def Computes (callee : Callee) (code : List Instruction) (value : Store → Word × Store) : Prop :=
  ∀ (program : List Instruction) (machine : Machine), Stands program machine.position code →
    machine.Reaches callee program fun after =>
      after.position = machine.position + code.length ∧
        after.stack = (value machine.store).1 :: machine.stack ∧
        after.store = (value machine.store).2

theorem Expression.computes_code {callee : Callee} {context : Context} {names : VariableTable}
    {value : Expression} (resolved : value.Resolved names) (few : value.mostArguments < 65535) :
    Computes callee (value.code context) (value.eval callee context ·) := by
  intro program machine stands
  -- Whatever `that` and the temp segment hold in the end, the state is the one to be reached.
  have takes : Takes callee (value.code context) machine.stack machine.store _ _ :=
    value.takes_code resolved few machine.stack machine.store
  apply takes program _ machine.position machine.that machine.temp stands
  intro that temp
  exact .here ⟨rfl, rfl, rfl⟩

/-- An expression that is read gives a tree of the tokens read, and code that computes the value of the
tree. Operators are applied one after the other as they stand. -/
theorem expression_code_computes_value {s s' : ParseState} {value : Expression}
    (accepted : s.expression.reply = .ok value s') (few : value.mostArguments < 65535) :
    s.cursor.ahead = value.tokens ++ s'.cursor.ahead ∧ value.Grammatical ∧ value.Resolved s.names ∧
      value.node = .branch .expression
        (value.first.node :: value.operations.flatMap Expression.operationNodes) ∧
      ∃ code, s'.instructions = s.instructions ++ code ∧
        ∀ callee : Callee, Computes callee code fun store =>
          value.operations.foldl (Expression.join callee (s.names.context s.className))
            (value.first.eval callee (s.names.context s.className) store) := by
  have yields := (ParseState.expression_reads s ⟨rfl, rfl⟩).of_ok accepted
  refine ⟨yields.reads.ahead, yields.grammatical, yields.resolved, value.node_eq,
    value.code (s.names.context s.className), yields.reads.emitted, ?_⟩
  intro callee
  have computes : Computes callee (value.code (s.names.context s.className))
      (value.eval callee (s.names.context s.className) ·) :=
    Expression.computes_code yields.resolved few
  simpa only [Expression.eval_eq_foldl] using computes

/-- `2 + 3 * a[Clock.tick()] - Clock.tick()` is about to be read. -/
def clockState : ParseState :=
  ((ParseState.start (lexemes ["2", "+", "3", "*", "a", "[", "Clock", ".", "tick", "(", ")", "]", "-",
    "Clock", ".", "tick", "(", ")", ";"])).setClassName "Main").define "a" "Array" .argument

/-- Multiplies two words. Any other call gives the first static and counts it up. -/
def clock : Callee
  | "Math.multiply", [left, right], heap, statics => (left * right, heap, statics)
  | _, _, heap, statics => (statics 0, heap, Function.update statics 0 (statics 0 + 1))

/-- Every cell of the heap holds its address. The array begins at 100, and the clock stands at 5. -/
def clockStore : Store where
  locals := fun _ => 0
  arguments := fun _ => 100
  statics := fun _ => 5
  heap := fun address => address
  this := 0

def readsWord (word : Word) (s : ParseState) : Bool :=
  match s.expression.reply with
  | .ok value _ =>
    value.mostArguments < 65535 &&
      (value.eval clock (s.names.context s.className) clockStore).1 = word
  | .error _ _ => false

theorem expression_code_of_clock :
    ∃ value s' code, clockState.expression.reply = .ok value s' ∧ value.mostArguments < 65535 ∧
      s'.instructions = clockState.instructions ++ code ∧
      (value.eval clock (clockState.names.context "Main") clockStore).1 = (2 + 3) * 105 - 6 ∧
      Computes clock code (value.eval clock (clockState.names.context "Main") ·) := by
  have passes : readsWord ((2 + 3) * 105 - 6) clockState := by decide +kernel
  unfold readsWord at passes
  split at passes
  · rename_i value s' accepted
    obtain ⟨small, computed⟩ := Bool.and_eq_true_iff.mp passes
    have few : value.mostArguments < 65535 := of_decide_eq_true small
    obtain ⟨_, _, _, _, code, emitted, computes⟩ := expression_code_computes_value accepted few
    have flat := computes clock
    simp only [← Expression.eval_eq_foldl] at flat
    exact ⟨value, s', code, accepted, few, emitted, of_decide_eq_true computed, flat⟩
  · cases passes

end Jack
