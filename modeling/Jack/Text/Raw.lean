namespace Jack

/-- A text as the system has it: bytes that need not be those of characters. -/
abbrev RawText := List UInt8

namespace RawText

def of (text : String) : RawText :=
  text.toList.flatMap String.utf8EncodeChar

def replacement : Char := '\uFFFD'

/-- The least and the greatest byte at each place after the first byte of a character. -/
def continuations (first : UInt8) : List (UInt8 × UInt8) :=
  if first < 0xC2 then []
  else if first < 0xE0 then [(0x80, 0xBF)]
  else if first = 0xE0 then [(0xA0, 0xBF), (0x80, 0xBF)]
  else if first = 0xED then [(0x80, 0x9F), (0x80, 0xBF)]
  else if first < 0xF0 then [(0x80, 0xBF), (0x80, 0xBF)]
  else if first = 0xF0 then [(0x90, 0xBF), (0x80, 0xBF), (0x80, 0xBF)]
  else if first < 0xF4 then [(0x80, 0xBF), (0x80, 0xBF), (0x80, 0xBF)]
  else if first = 0xF4 then [(0x80, 0x8F), (0x80, 0xBF), (0x80, 0xBF)]
  else []

def continued : List (UInt8 × UInt8) → RawText → Nat
  | (least, greatest) :: ranges, byte :: bytes =>
    if least ≤ byte ∧ byte ≤ greatest then continued ranges bytes + 1 else 0
  | _, _ => 0

/-- The character that bytes begin with and the number of its bytes. What begins a character but does
not end it is replaced as a whole. -/
def firstChar (first : UInt8) (bytes : RawText) : Char × Nat :=
  match (first :: bytes).toByteArray.utf8DecodeChar? 0 with
  | some c => (c, c.utf8Size)
  | none => (replacement, continued (continuations first) bytes + 1)

def charsFrom : Nat → RawText → List Char
  | _, [] => []
  | skipped + 1, _ :: bytes => charsFrom skipped bytes
  | 0, byte :: bytes =>
    (firstChar byte bytes).1 :: charsFrom ((firstChar byte bytes).2 - 1) bytes

/-- The text as it is shown, with replacements for what is not the bytes of a character. -/
def shown (raw : RawText) : String :=
  .ofList (charsFrom 0 raw)

end RawText

end Jack
