import Jack.Lexeme.Kind
import Jack.Vm.Instruction

namespace Jack

namespace Variable

def push (entry : Variable) : Instruction :=
  .push (.ofVariable entry.kind) entry.index

def pop (entry : Variable) : Instruction :=
  .pop (.ofVariable entry.kind) entry.index

end Variable

inductive Constant where
  | integer (value : UInt16)
  | string (contents : String)
  | truth | falsity | null | this
deriving DecidableEq, Repr

namespace Constant

def ofKind? : LexemeKind → Option Constant
  | .integer value => some (integer value)
  | .string contents => some (string contents)
  | .keyword .trueKw => some truth
  | .keyword .falseKw => some falsity
  | .keyword .nullKw => some null
  | .keyword .thisKw => some this
  | _ => none

def charCode (c : Char) : List Instruction :=
  [.push .constant c.toNat.toUInt16, .call "String.appendChar" 2]

/-- A string is built at run time, character by character. -/
def stringCode (contents : String) : List Instruction :=
  .push .constant contents.length.toUInt16 :: .call "String.new" 1 ::
    contents.toList.flatMap charCode

/-- The instructions that push the constant. All bits of the word for truth are set. -/
def code : Constant → List Instruction
  | integer value => [.push .constant value]
  | string contents => stringCode contents
  | truth => [.push .constant 0, .apply .not]
  | falsity | null => [.push .constant 0]
  | this => [.push .pointer 0]

end Constant

inductive UnaryOperator where
  | neg | not
deriving DecidableEq, Repr

namespace UnaryOperator

def ofSymbol? : Char → Option UnaryOperator
  | '-' => some neg
  | '~' => some not
  | _ => none

def code : UnaryOperator → Instruction
  | neg => .apply .neg
  | not => .apply .not

end UnaryOperator

inductive BinaryOperator where
  | add | sub | mul | div | and | or | lt | gt | eq
deriving DecidableEq, Repr

namespace BinaryOperator

def ofSymbol? : Char → Option BinaryOperator
  | '+' => some add
  | '-' => some sub
  | '*' => some mul
  | '/' => some div
  | '&' => some and
  | '|' => some or
  | '<' => some lt
  | '>' => some gt
  | '=' => some eq
  | _ => none

def ofKind? : LexemeKind → Option BinaryOperator
  | .symbol mark => ofSymbol? mark
  | _ => none

/-- The instruction that joins two pushed operands. The machine has no product and no quotient. -/
def code : BinaryOperator → Instruction
  | add => .apply .add
  | sub => .apply .sub
  | mul => .call "Math.multiply" 2
  | div => .call "Math.divide" 2
  | and => .apply .and
  | or => .apply .or
  | lt => .apply .lt
  | gt => .apply .gt
  | eq => .apply .eq

end BinaryOperator

end Jack
