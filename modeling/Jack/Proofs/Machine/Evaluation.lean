import Jack.Proofs.Machine.Basic

namespace Jack

def Store.readName (store : Store) (name : Name) : Word :=
  (name.slot?.map store.read).getD 0

def Store.writeName (store : Store) (name : Name) (word : Word) : Store :=
  (name.slot?.map (store.write · word)).getD store

section

variable (callee : Callee)

def appendChar (made : Word × Store) (c : Char) : Word × Store :=
  made.2.call callee "String.appendChar" [made.1, c.toNat.toUInt16]

def Constant.eval (store : Store) : Constant → Word × Store
  | integer value => (value, store)
  | string contents =>
    contents.toList.foldl (appendChar callee)
      (store.call callee "String.new" [contents.length.toUInt16])
  | truth => (65535, store)
  | falsity | null => (0, store)
  | this => (store.this, store)

def UnaryOperator.eval (word : Word) : UnaryOperator → Word
  | neg => -word
  | not => ~~~word

def BinaryOperator.eval (left right : Word) (store : Store) : BinaryOperator → Word × Store
  | add => (left + right, store)
  | sub => (left - right, store)
  | mul => store.call callee "Math.multiply" [left, right]
  | div => store.call callee "Math.divide" [left, right]
  | and => (left &&& right, store)
  | or => (left ||| right, store)
  | lt => (Word.ofBool (left.toInt16 < right.toInt16), store)
  | gt => (Word.ofBool (right.toInt16 < left.toInt16), store)
  | eq => (Word.ofBool (left = right), store)

variable (context : Context)

mutual

def Term.eval (store : Store) : Term → Word × Store
  | .constant _ value => value.eval callee store
  | .use name => (store.readName name, store)
  | .element array _ index _ =>
    let (offset, store') := index.eval store
    (store'.heap (store.readName array + offset), store')
  | .call call => call.eval store
  | .group _ inner _ => inner.eval store
  | .unary _ operator operand =>
    let (word, store) := operand.eval store
    (operator.eval word, store)

def Expression.eval (store : Store) : Expression → Word × Store
  | .term term => term.eval store
  | .binary left _ operator right =>
    let (first, store) := left.eval store
    let (second, store) := right.eval store
    operator.eval callee first second store

/-- The object of a call is taken before the arguments. -/
def Call.eval (store : Store) : Call → Word × Store
  | .plain subroutine _ arguments _ =>
    let (words, store') := arguments.eval store
    store'.call callee (context.className ++ "." ++ subroutine.token.text) (store.this :: words)
  | .qualified qualifier _ subroutine _ arguments _ =>
    let (words, store') := arguments.eval store
    match qualifier.slot? with
    | some slot =>
      store'.call callee (context.typeOf qualifier.token.text ++ "." ++ subroutine.token.text)
        (store.read slot :: words)
    | none => store'.call callee (qualifier.token.text ++ "." ++ subroutine.token.text) words

def Arguments.eval (store : Store) : Arguments → List Word × Store
  | .none => ([], store)
  | .one value =>
    let (word, store) := value.eval store
    ([word], store)
  | .more before _ value =>
    let (words, store) := before.eval store
    let (word, store) := value.eval store
    (words ++ [word], store)

end

def Block.statements : Block → List Statement
  | .braces _ statements _ => statements

inductive Task where
  | one (statement : Statement)
  | all (statements : List Statement)

/-- How a run ends: it goes on to what follows, or the subroutine returns a word. -/
inductive Ending where
  | next (store : Store)
  | returned (word : Word) (store : Store)

inductive Runs : Task → Store → Ending → Prop where
  | nothing {store : Store} : Runs (.all []) store (.next store)
  | goesOn {statement : Statement} {statements : List Statement} {store middle : Store}
    {ending : Ending} (first : Runs (.one statement) store (.next middle))
    (later : Runs (.all statements) middle ending) :
    Runs (.all (statement :: statements)) store ending
  | stops {statement : Statement} {statements : List Statement} {store last : Store} {word : Word}
    (first : Runs (.one statement) store (.returned word last)) :
    Runs (.all (statement :: statements)) store (.returned word last)
  | assign {keyword equals semicolon : Token} {target : Name} {value : Expression}
    {store after : Store} {word : Word} (evaluated : value.eval callee context store = (word, after)) :
    Runs (.one (.assign keyword target equals value semicolon)) store
      (.next (after.writeName target word))
  | assignElement {keyword opening closing equals semicolon : Token} {array : Name}
    {index value : Expression} {store middle after : Store} {offset word : Word}
    (placed : index.eval callee context store = (offset, middle))
    (evaluated : value.eval callee context middle = (word, after)) :
    Runs (.one (.assignElement keyword array opening index closing equals value semicolon)) store
      (.next (after.writeHeap (store.readName array + offset) word))
  | whenTrue {keyword opening closing : Token} {condition : Expression} {body : Block}
    {store middle : Store} {word : Word} {ending : Ending}
    (tested : condition.eval callee context store = (word, middle)) (holds : word ≠ 0)
    (inside : Runs (.all body.statements) middle ending) :
    Runs (.one (.when keyword opening condition closing body)) store ending
  | whenFalse {keyword opening closing : Token} {condition : Expression} {body : Block}
    {store middle : Store} (tested : condition.eval callee context store = (0, middle)) :
    Runs (.one (.when keyword opening condition closing body)) store (.next middle)
  | elseTrue {keyword opening closing elseKeyword : Token} {condition : Expression}
    {body alternative : Block} {store middle : Store} {word : Word} {ending : Ending}
    (tested : condition.eval callee context store = (word, middle)) (holds : word ≠ 0)
    (inside : Runs (.all body.statements) middle ending) :
    Runs (.one (.whenElse keyword opening condition closing body elseKeyword alternative)) store
      ending
  | elseFalse {keyword opening closing elseKeyword : Token} {condition : Expression}
    {body alternative : Block} {store middle : Store} {ending : Ending}
    (tested : condition.eval callee context store = (0, middle))
    (inside : Runs (.all alternative.statements) middle ending) :
    Runs (.one (.whenElse keyword opening condition closing body elseKeyword alternative)) store
      ending
  | loopEnds {keyword opening closing : Token} {condition : Expression} {body : Block}
    {store middle : Store} (tested : condition.eval callee context store = (0, middle)) :
    Runs (.one (.loop keyword opening condition closing body)) store (.next middle)
  | loopAgain {keyword opening closing : Token} {condition : Expression} {body : Block}
    {store middle round : Store} {word : Word} {ending : Ending}
    (tested : condition.eval callee context store = (word, middle)) (holds : word ≠ 0)
    (inside : Runs (.all body.statements) middle (.next round))
    (again : Runs (.one (.loop keyword opening condition closing body)) round ending) :
    Runs (.one (.loop keyword opening condition closing body)) store ending
  | loopStops {keyword opening closing : Token} {condition : Expression} {body : Block}
    {store middle last : Store} {word result : Word}
    (tested : condition.eval callee context store = (word, middle)) (holds : word ≠ 0)
    (inside : Runs (.all body.statements) middle (.returned result last)) :
    Runs (.one (.loop keyword opening condition closing body)) store (.returned result last)
  | call {keyword semicolon : Token} {call : Call} {store : Store} :
    Runs (.one (.call keyword call semicolon)) store (.next (call.eval callee context store).2)
  | leave {keyword semicolon : Token} {store : Store} :
    Runs (.one (.leave keyword semicolon)) store (.returned 0 store)
  | leaveWith {keyword semicolon : Token} {value : Expression} {store after : Store} {word : Word}
    (evaluated : value.eval callee context store = (word, after)) :
    Runs (.one (.leaveWith keyword value semicolon)) store (.returned word after)

end

end Jack
