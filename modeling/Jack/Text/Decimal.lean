namespace Jack.Text

def bounded? (largest value : Nat) : Option Nat :=
  if value ≤ largest then some value else none

def digit? (c : Char) : Option Nat :=
  if c.isDigit then some (c.toNat - '0'.toNat) else none

/-- Goes on with the digits after those of a value. No product and no sum on the way is above the
largest number. -/
def unsignedFrom? (largest value : Nat) : List Char → Option Nat
  | [] => some value
  | c :: cs =>
    (bounded? largest (10 * value)).bind fun shifted =>
    (digit? c).bind fun digit =>
    (bounded? largest (shifted + digit)).bind fun value => unsignedFrom? largest value cs

/-- The number that a text stands for, which may have a plus sign, if it is not above the largest
one. -/
def unsigned? (largest : Nat) : List Char → Option Nat
  | [] => none
  | ['+'] => none
  | '+' :: digits => unsignedFrom? largest 0 digits
  | digits => unsignedFrom? largest 0 digits

end Jack.Text
