import Jack.Lexeme.Keyword

namespace Jack

inductive LexemeKind where
  | keyword (word : Keyword)
  | symbol (mark : Char)
  | identifier
  | integer (value : UInt16)
  | string (contents : String)
deriving DecidableEq, Repr

namespace LexemeKind

def tag : LexemeKind → String
  | keyword _ => "keyword"
  | symbol _ => "symbol"
  | identifier => "identifier"
  | integer _ => "integerConstant"
  | string _ => "stringConstant"

end LexemeKind

def symbolChars : List Char :=
  ['{', '}', '(', ')', '[', ']', '.', ',', ';', '+', '-', '*', '/', '&', '|', '<', '>', '=', '~']

def isSymbolChar (c : Char) : Bool :=
  symbolChars.contains c

def isIdentifierChar (c : Char) : Bool :=
  c.isAlphanum || c == '_'

def maxInteger : Nat := 32767

def decimalValue (digits : List Char) : Nat :=
  digits.foldl (fun value digit => 10 * value + (digit.toNat - 48)) 0

/-- What stands before the closing quote, when that quote ends the text and no other quote and no
line break comes before it. -/
def closedContents? (afterQuote : List Char) : Option (List Char) :=
  if afterQuote.getLast? = some '"' ∧
      afterQuote.dropLast.all (fun c => c != '"' && c != '\n' && c != '\r') then
    some afterQuote.dropLast
  else none

def classifyChars : List Char → Option LexemeKind
  | [] => none
  | c :: cs =>
    if cs.isEmpty && isSymbolChar c then some (.symbol c)
    else if (c :: cs).all Char.isDigit then
      let value := decimalValue (c :: cs)
      if value ≤ maxInteger then some (.integer value.toUInt16) else none
    else if c == '"' then (closedContents? cs).map fun contents => .string (String.ofList contents)
    else if (c :: cs).all isIdentifierChar && !c.isDigit then some .identifier
    else none

def classify (text : String) : Option LexemeKind :=
  match Keyword.ofText? text with
  | some word => some (.keyword word)
  | none => classifyChars text.toList

end Jack
