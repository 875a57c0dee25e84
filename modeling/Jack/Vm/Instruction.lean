import Jack.Variable.Basic

namespace Jack

/-- The memory segments of the machine. `thisCell` and `thatCell` are the heap cells that the two
words of `pointer` point at. -/
inductive Segment where
  | constant | argument | localVar | static | thisCell | thatCell | pointer | temp
deriving DecidableEq, Repr

namespace Segment

def text : Segment → String
  | constant => "constant"
  | argument => "argument"
  | localVar => "local"
  | static => "static"
  | thisCell => "this"
  | thatCell => "that"
  | pointer => "pointer"
  | temp => "temp"

/-- Where variables of a kind live. The fields are cells of the object at hand. -/
def ofVariable : VariableKind → Segment
  | .static => static
  | .field => thisCell
  | .argument => argument
  | .localVar => localVar

end Segment

inductive Operation where
  | add | sub | neg | eq | gt | lt | and | or | not
deriving DecidableEq, Repr

namespace Operation

def text : Operation → String
  | add => "add"
  | sub => "sub"
  | neg => "neg"
  | eq => "eq"
  | gt => "gt"
  | lt => "lt"
  | and => "and"
  | or => "or"
  | not => "not"

end Operation

/-- An instruction. `jumpIfFalse` takes a word off the stack and jumps if it is zero. -/
inductive Instruction where
  | push (segment : Segment) (index : UInt16)
  | pop (segment : Segment) (index : UInt16)
  | apply (operation : Operation)
  | label (name : String)
  | jump (target : String)
  | jumpIfFalse (target : String)
  | call (name : String) (argumentCount : UInt16)
  | function (name : String) (localCount : UInt16)
  | ret
deriving DecidableEq, Repr

end Jack
