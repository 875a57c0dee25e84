import Jack.Program.Operator
import Jack.Text.Decimal
import Jack.Text.Slice
import Jack.Token.Basic

namespace Jack

/-- The class of a text of digits: it is read in 32 bits, and then its value has to be in range. -/
def LexemeKind.ofDigits? (digits : List Char) : Option LexemeKind :=
  match Text.unsigned? (UInt32.size - 1) digits with
  | some value => if value ≤ maxInteger then some (.integer value.toUInt16) else none
  | none => none

namespace Token

def intValue? (token : Token) : Option UInt16 :=
  match token.kind with
  | .integer _ => (Text.unsigned? (UInt16.size - 1) token.text.toList).map Nat.toUInt16
  | _ => none

/-- The contents of a string constant: all but the first and the last byte of its text. -/
def stringValue? (token : Token) : Option String :=
  match token.kind with
  | .string _ =>
    (Text.slice? 1 (token.text.utf8ByteSize - 1) token.text.toList).map String.ofList
  | _ => none

/-- The instructions for a constant. A value that cannot be read would be zero, or an empty string. -/
def constantCode? (token : Token) : Option (List Instruction) :=
  match token.kind with
  | .integer _ => some [.push .constant (token.intValue?.getD 0)]
  | .string _ => some (Constant.stringCode (token.stringValue?.getD ""))
  | kind => (Constant.ofKind? kind).map Constant.code

end Token

end Jack
