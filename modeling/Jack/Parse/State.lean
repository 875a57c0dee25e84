import Jack.Token.Cursor
import Jack.Variable.Table
import Jack.Vm.Emitter

namespace Jack

/-- `emitted` is what an emitter has made of the code so far, which is a record of it if nothing else is
said. -/
structure ParseState (ε : Type := List Instruction) where
  cursor : Cursor
  names : VariableTable
  className : String
  nextLabel : Nat
  emitted : ε

namespace ParseState

variable {ε : Type}

def startWith (emitter : ε) (tokens : List Token) : ParseState ε :=
  ⟨.ofList tokens, .empty, "", 0, emitter⟩

def start (tokens : List Token) : ParseState :=
  .startWith [] tokens

def instructions (s : ParseState) : List Instruction :=
  s.emitted.reverse

def remaining (s : ParseState ε) : Nat :=
  s.cursor.remaining

def emit [Emitter ε] (s : ParseState ε) (code : List Instruction) : ParseState ε :=
  { s with emitted := Emitter.takeAll s.emitted code }

def define (s : ParseState ε) (name type : String) (kind : VariableKind) : ParseState ε :=
  { s with names := s.names.define name type kind }

def setClassName (s : ParseState ε) (name : String) : ParseState ε :=
  { s with className := name }

def resetLabels (s : ParseState ε) : ParseState ε :=
  { s with nextLabel := 0 }

def useLabel (s : ParseState ε) : ParseState ε :=
  { s with nextLabel := s.nextLabel + 1 }

def startSubroutine (s : ParseState ε) : ParseState ε :=
  { s with names := s.names.startSubroutine }

theorem remaining_lt_succ (s : ParseState ε) : s.remaining < s.remaining + 1 :=
  Nat.lt_succ_self s.remaining

theorem remaining_le_succ (s : ParseState ε) : s.remaining ≤ s.remaining + 1 :=
  Nat.le_succ s.remaining

theorem remaining_le_of_lt {s s₁ : ParseState ε} (h₁ : s₁.remaining < s.remaining) :
    s₁.remaining ≤ s.remaining :=
  Nat.le_of_lt h₁

theorem remaining_succ_le {s s₁ : ParseState ε} (h₁ : s₁.remaining < s.remaining) :
    s₁.remaining + 1 ≤ s.remaining :=
  h₁

theorem remaining_succ_le_succ {s s₁ : ParseState ε} (h₁ : s₁.remaining < s.remaining) :
    s₁.remaining + 1 ≤ s.remaining + 1 :=
  Nat.le_succ_of_le h₁

theorem remaining_lt_trans {s s₁ s₂ s₃ : ParseState ε} (h₁ : s₁.remaining < s.remaining)
    (h₂ : s₂.remaining < s₁.remaining) (h₃ : s₃.remaining < s₂.remaining) :
    s₃.remaining < s.remaining :=
  Nat.lt_trans h₃ (Nat.lt_trans h₂ h₁)

theorem remaining_lt_succ_of_lt {s s₁ : ParseState ε} (h₁ : s₁.remaining < s.remaining) :
    s₁.remaining < s.remaining + 1 :=
  Nat.lt_succ_of_lt h₁

theorem remaining_lt_succ_trans {s s₁ s₂ : ParseState ε} (h₁ : s₁.remaining < s.remaining)
    (h₂ : s₂.remaining < s₁.remaining) : s₂.remaining < s.remaining + 1 :=
  Nat.lt_succ_of_lt (Nat.lt_trans h₂ h₁)

theorem emitted_emit (s : ParseState) (code : List Instruction) :
    (s.emit code).emitted = code.reverse ++ s.emitted :=
  Emitter.takeAll_record s.emitted code

@[simp] theorem instructions_emit (s : ParseState) (code : List Instruction) :
    (s.emit code).instructions = s.instructions ++ code := by
  simp [instructions, emitted_emit]

@[simp, grind =] theorem remaining_emit [Emitter ε] (s : ParseState ε) (code : List Instruction) :
    (s.emit code).remaining = s.remaining := rfl

@[simp, grind =] theorem remaining_define (s : ParseState ε) (name type : String)
    (kind : VariableKind) : (s.define name type kind).remaining = s.remaining := rfl

@[simp, grind =] theorem remaining_setClassName (s : ParseState ε) (name : String) :
    (s.setClassName name).remaining = s.remaining := rfl

@[simp, grind =] theorem remaining_resetLabels (s : ParseState ε) :
    s.resetLabels.remaining = s.remaining := rfl

@[simp, grind =] theorem remaining_useLabel (s : ParseState ε) :
    s.useLabel.remaining = s.remaining := rfl

@[simp, grind =] theorem remaining_startSubroutine (s : ParseState ε) :
    s.startSubroutine.remaining = s.remaining := rfl

end ParseState

end Jack
