import Jack.Token.Cursor

namespace Jack

/-- `position` is the index of the next token. `returned` says that it was moved back and that nothing
was read since. -/
structure TokenStream where
  tokens : List Token
  position : Nat
  returned : Bool
  inside : position ≤ tokens.length
deriving DecidableEq, Repr

namespace TokenStream

def ofList (tokens : List Token) : TokenStream :=
  ⟨tokens, 0, false, Nat.zero_le _⟩

def hasMore (stream : TokenStream) : Bool :=
  stream.position < stream.tokens.length

def previous? (stream : TokenStream) : Option Token :=
  match stream.position with
  | 0 => none
  | index + 1 => stream.tokens[index]?

def current? (stream : TokenStream) : Option Token :=
  if stream.returned then none else stream.previous?

def offset (stream : TokenStream) : Nat :=
  match stream.previous? with
  | some token => token.stop
  | none => 0

def endOfInput (stream : TokenStream) : Fault :=
  ⟨.endOfInput, stream.offset⟩

def peek (stream : TokenStream) : Except Fault Token :=
  match stream.tokens[stream.position]? with
  | some token => .ok token
  | none => .error stream.endOfInput

def advance (stream : TokenStream) : EStateM.Result Fault TokenStream Token :=
  if inside : stream.position < stream.tokens.length then
    .ok stream.tokens[stream.position] ⟨stream.tokens, stream.position + 1, false, inside⟩
  else
    .error stream.endOfInput stream

def giveBack (stream : TokenStream) : EStateM.Result Fault TokenStream Unit :=
  if stream.position = 0 ∨ stream.returned then
    .error stream.endOfInput stream
  else
    .ok () ⟨stream.tokens, stream.position - 1, true, Nat.le_trans (Nat.sub_le _ 1) stream.inside⟩

end TokenStream

inductive StreamOperation where
  | peek
  | advance
  | giveBack
deriving DecidableEq, Repr

/-- What an operation comes to. A token that was given back is not told. -/
inductive StreamAnswer where
  | token (token : Token)
  | done
  | fault (fault : Fault)
deriving DecidableEq, Repr

def TokenStream.step (operation : StreamOperation) (stream : TokenStream) :
    StreamAnswer × TokenStream :=
  match operation with
  | .peek =>
    match stream.peek with
    | .ok token => (.token token, stream)
    | .error fault => (.fault fault, stream)
  | .advance =>
    match stream.advance with
    | .ok token next => (.token token, next)
    | .error fault next => (.fault fault, next)
  | .giveBack =>
    match stream.giveBack with
    | .ok _ next => (.done, next)
    | .error fault next => (.fault fault, next)

def Cursor.step (operation : StreamOperation) (cursor : Cursor) : StreamAnswer × Cursor :=
  match operation with
  | .peek =>
    match cursor.peek with
    | .ok token => (.token token, cursor)
    | .error fault => (.fault fault, cursor)
  | .advance =>
    match cursor.advance with
    | .ok (token, next) => (.token token, next)
    | .error fault => (.fault fault, cursor)
  | .giveBack =>
    match cursor.giveBack with
    | .ok previous => (.done, previous)
    | .error fault => (.fault fault, cursor)

end Jack
