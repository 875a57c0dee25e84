import Jack.Fault
import Jack.Token.Basic

namespace Jack

/-- The tokens before the place, newest first, and those after it. `returned` says that the newest
reading was undone, so that another one has to come before the next undoing. -/
structure Cursor where
  behind : List Token
  ahead : List Token
  returned : Bool
deriving DecidableEq, Repr

namespace Cursor

def ofList (tokens : List Token) : Cursor :=
  ⟨[], tokens, false⟩

def toList (cursor : Cursor) : List Token :=
  cursor.behind.reverse ++ cursor.ahead

def remaining (cursor : Cursor) : Nat :=
  cursor.ahead.length

def hasMore (cursor : Cursor) : Bool :=
  !cursor.ahead.isEmpty

def offset (cursor : Cursor) : Nat :=
  match cursor.behind with
  | [] => 0
  | token :: _ => token.stop

def endOfInput (cursor : Cursor) : Fault :=
  ⟨.endOfInput, cursor.offset⟩

def current? (cursor : Cursor) : Option Token :=
  if cursor.returned then none else cursor.behind.head?

def peek (cursor : Cursor) : Except Fault Token :=
  match cursor.ahead with
  | [] => .error cursor.endOfInput
  | token :: _ => .ok token

def advance (cursor : Cursor) : Except Fault (Token × Cursor) :=
  match cursor.ahead with
  | [] => .error cursor.endOfInput
  | token :: ahead => .ok (token, ⟨token :: cursor.behind, ahead, false⟩)

def giveBack (cursor : Cursor) : Except Fault Cursor :=
  match cursor.behind, cursor.returned with
  | token :: behind, false => .ok ⟨behind, token :: cursor.ahead, true⟩
  | _, _ => .error cursor.endOfInput

theorem remaining_of_advance {cursor next : Cursor} {token : Token}
    (h : cursor.advance = .ok (token, next)) : next.remaining + 1 = cursor.remaining := by
  unfold advance at h
  split at h <;> cases h
  simp [remaining, *]

theorem remaining_of_giveBack {cursor previous : Cursor} (h : cursor.giveBack = .ok previous) :
    previous.remaining = cursor.remaining + 1 := by
  unfold giveBack at h
  split at h <;> cases h
  simp [remaining]

end Cursor

end Jack
