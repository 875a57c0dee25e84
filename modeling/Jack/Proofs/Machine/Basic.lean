import Jack.Proofs.Program.Code
import Mathlib.Logic.Function.Basic

namespace Jack

abbrev Word := UInt16

/-- The variables that a subroutine sees, and the heap. `this` is the address of the object at hand. -/
structure Store where
  locals : UInt16 → Word
  arguments : UInt16 → Word
  statics : UInt16 → Word
  heap : Word → Word
  this : Word

namespace Store

def read (store : Store) (slot : Slot) : Word :=
  match slot.kind with
  | .static => store.statics slot.index
  | .field => store.heap (store.this + slot.index)
  | .argument => store.arguments slot.index
  | .localVar => store.locals slot.index

def writeHeap (store : Store) (address word : Word) : Store :=
  { store with heap := Function.update store.heap address word }

def write (store : Store) (slot : Slot) (word : Word) : Store :=
  match slot.kind with
  | .static => { store with statics := Function.update store.statics slot.index word }
  | .field => store.writeHeap (store.this + slot.index) word
  | .argument => { store with arguments := Function.update store.arguments slot.index word }
  | .localVar => { store with locals := Function.update store.locals slot.index word }

end Store

/-- What the other subroutines do: from a name, the argument words, the heap and the statics, to a word, a
heap and statics. -/
def Callee : Type :=
  String → List Word → (Word → Word) → (UInt16 → Word) → Word × (Word → Word) × (UInt16 → Word)

def Store.call (callee : Callee) (name : String) (arguments : List Word) (store : Store) :
    Word × Store :=
  let (word, heap, statics) := callee name arguments store.heap store.statics
  (word, { store with heap := heap, statics := statics })

def Word.ofBool (holds : Bool) : Word :=
  if holds then 65535 else 0

/-- The stack after an operation. Words are compared as signed numbers. -/
def Operation.run? : Operation → List Word → Option (List Word)
  | add, right :: left :: stack => some ((left + right) :: stack)
  | sub, right :: left :: stack => some ((left - right) :: stack)
  | neg, word :: stack => some ((-word) :: stack)
  | eq, right :: left :: stack => some (Word.ofBool (left = right) :: stack)
  | gt, right :: left :: stack => some (Word.ofBool (right.toInt16 < left.toInt16) :: stack)
  | lt, right :: left :: stack => some (Word.ofBool (left.toInt16 < right.toInt16) :: stack)
  | and, right :: left :: stack => some ((left &&& right) :: stack)
  | or, right :: left :: stack => some ((left ||| right) :: stack)
  | not, word :: stack => some ((~~~word) :: stack)
  | _, _ => none

/-- The machine at a position of the code, with the top of the stack first. `that` is the second word
of the pointer segment. -/
structure Machine where
  position : Nat
  stack : List Word
  store : Store
  that : Word
  temp : UInt16 → Word

namespace Machine

def push? (segment : Segment) (index : UInt16) (machine : Machine) : Option Word :=
  match segment with
  | .constant => some index
  | .argument => some (machine.store.arguments index)
  | .localVar => some (machine.store.locals index)
  | .static => some (machine.store.statics index)
  | .thisCell => some (machine.store.heap (machine.store.this + index))
  | .thatCell => some (machine.store.heap (machine.that + index))
  | .pointer =>
    if index = 0 then some machine.store.this else if index = 1 then some machine.that else none
  | .temp => some (machine.temp index)

def pop? (segment : Segment) (index : UInt16) (word : Word) (machine : Machine) : Option Machine :=
  match segment with
  | .constant => none
  | .argument => some { machine with store := machine.store.write ⟨.argument, index⟩ word }
  | .localVar => some { machine with store := machine.store.write ⟨.localVar, index⟩ word }
  | .static => some { machine with store := machine.store.write ⟨.static, index⟩ word }
  | .thisCell => some { machine with store := machine.store.write ⟨.field, index⟩ word }
  | .thatCell => some { machine with store := machine.store.writeHeap (machine.that + index) word }
  | .pointer =>
    if index = 0 then some { machine with store := { machine.store with this := word } }
    else if index = 1 then some { machine with that := word }
    else none
  | .temp => some { machine with temp := Function.update machine.temp index word }

def advance (machine : Machine) : Machine :=
  { machine with position := machine.position + 1 }

def target? (code : List Instruction) (name : String) : Option Nat :=
  code.findIdx? (· == .label name)

def jumpTo? (code : List Instruction) (name : String) (machine : Machine) : Option Machine :=
  (target? code name).map fun position => { machine with position := position }

/-- The machine after the instruction it stands at. It stops at a return, and gets stuck where words are
missing on the stack or a label is missing in the code. After a call `scratch` is what the temp segment
holds. -/
def next? (callee : Callee) (code : List Instruction) (scratch : UInt16 → Word) (machine : Machine) :
    Option Machine :=
  match code[machine.position]? with
  | some (.push segment index) =>
    (machine.push? segment index).map fun word =>
      { machine.advance with stack := word :: machine.stack }
  | some (.pop segment index) =>
    match machine.stack with
    | word :: stack => { machine.advance with stack := stack }.pop? segment index word
    | [] => none
  | some (.apply operation) =>
    (operation.run? machine.stack).map fun stack => { machine.advance with stack := stack }
  | some (.label _) => some machine.advance
  | some (.jump name) => machine.jumpTo? code name
  | some (.jumpIfFalse name) =>
    match machine.stack with
    | word :: stack =>
      if word = 0 then { machine with stack := stack }.jumpTo? code name
      else some { machine.advance with stack := stack }
    | [] => none
  | some (.call name argumentCount) =>
    if argumentCount.toNat ≤ machine.stack.length then
      let arguments := (machine.stack.take argumentCount.toNat).reverse
      let (word, store) := machine.store.call callee name arguments
      some ⟨machine.position + 1, word :: machine.stack.drop argumentCount.toNat, store,
        machine.that, scratch⟩
    else none
  | some (.function _ _) | some .ret | none => none

/-- Whatever calls leave in the temp segment, the machine comes to a state that meets the goal. -/
inductive Reaches (callee : Callee) (code : List Instruction) (goal : Machine → Prop) :
    Machine → Prop where
  | here {machine : Machine} (met : goal machine) : Reaches callee code goal machine
  | step {machine : Machine} (after : (UInt16 → Word) → Machine)
    (steps : ∀ scratch, machine.next? callee code scratch = some (after scratch))
    (later : ∀ scratch, Reaches callee code goal (after scratch)) :
    Reaches callee code goal machine

end Machine

end Jack
