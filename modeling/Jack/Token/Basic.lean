import Jack.Lexeme.Kind

namespace Jack

structure Token where
  text : String
  kind : LexemeKind
  start : Nat
  stop : Nat
  classified : classify text = some kind
deriving DecidableEq, Repr

namespace Token

def ofText? (text : String) (start stop : Nat) : Option Token :=
  match h : classify text with
  | some kind => some ⟨text, kind, start, stop, h⟩
  | none => none

def isKeyword (token : Token) (word : Keyword) : Bool :=
  token.kind == .keyword word

def isSymbol (token : Token) (mark : Char) : Bool :=
  token.kind == .symbol mark

def isIdentifier (token : Token) : Bool :=
  token.kind == .identifier

/-- The text between the tags of a listing: a string constant without its quotes, and the three
symbols that would read as markup as entities. -/
def listed (token : Token) : String :=
  match token.kind with
  | .symbol '<' => "&lt;"
  | .symbol '>' => "&gt;"
  | .symbol '&' => "&amp;"
  | .string contents => contents
  | _ => token.text

end Token

end Jack
