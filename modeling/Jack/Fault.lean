import Jack.Text.Quoted

namespace Jack

inductive Cause where
  | unterminatedString
  | unterminatedComment
  | integerOutOfRange (text : String)
  | unrecognisedToken (text : String)
  | unexpectedToken (expected found : String)
  | undefinedSymbol (name : String)
  | endOfInput
deriving DecidableEq, Repr

namespace Cause

def name : Cause → String
  | unterminatedString => "UnterminatedString"
  | unterminatedComment => "UnterminatedComment"
  | integerOutOfRange _ => "IntegerOutOfRange"
  | unrecognisedToken _ => "UnrecognisedToken"
  | unexpectedToken _ _ => "UnexpectedToken"
  | undefinedSymbol _ => "UndefinedSymbol"
  | endOfInput => "EndOfInput"

def category : Cause → String
  | unterminatedString | unterminatedComment | integerOutOfRange _ | unrecognisedToken _ => "Lexical"
  | unexpectedToken _ _ => "UnexpectedToken"
  | undefinedSymbol _ => "UndefinedSymbol"
  | endOfInput => "EndOfInput"

def message : Cause → String
  | unterminatedString => "lexical error: unterminated string constant"
  | unterminatedComment => "lexical error: unterminated block comment"
  | integerOutOfRange text =>
    "lexical error: integer constant " ++ Text.quoted text ++ " is out of range"
  | unrecognisedToken text => "lexical error: unrecognised token: " ++ Text.quoted text
  | unexpectedToken expected found =>
    "unexpected token: expected " ++ expected ++ ", found " ++ Text.quoted found
  | undefinedSymbol name => "symbol " ++ Text.quoted name ++ " is not defined"
  | endOfInput => "unexpected end of input"

def tip? : Cause → Option String
  | unterminatedString => some "String constants must be closed with `\"` on the same line"
  | unterminatedComment => some "Block comment is missing its closing `*/`"
  | integerOutOfRange text =>
    some ("Invalid number: `" ++ text ++ "`, integer constants must lie in 0..=32767")
  | unrecognisedToken _ => none
  | unexpectedToken expected found =>
    some ("Unexpected token: `" ++ found ++ "`, expected " ++ expected)
  | undefinedSymbol name => some ("Variable `" ++ name ++ "` not declared")
  | endOfInput => some "Source ended before the class definition was complete"

end Cause

structure Fault where
  cause : Cause
  offset : Nat
deriving DecidableEq, Repr

end Jack
