import Jack.Vm.Text

namespace Jack

class Emitter (ε : Type) where
  take : ε → Instruction → ε

namespace Emitter

variable {ε : Type} [Emitter ε]

def takeAll (emitter : ε) (code : List Instruction) : ε :=
  code.foldl take emitter

@[simp] theorem takeAll_nil (emitter : ε) : takeAll emitter [] = emitter := rfl

@[simp] theorem takeAll_cons (emitter : ε) (instruction : Instruction) (code : List Instruction) :
    takeAll emitter (instruction :: code) = takeAll (take emitter instruction) code := rfl

theorem takeAll_append (emitter : ε) (code later : List Instruction) :
    takeAll emitter (code ++ later) = takeAll (takeAll emitter code) later :=
  List.foldl_append

end Emitter

instance : Emitter (List Instruction) where
  take recorded instruction := instruction :: recorded

theorem Emitter.takeAll_record (recorded code : List Instruction) :
    takeAll recorded code = code.reverse ++ recorded := by
  induction code generalizing recorded with
  | nil => rfl
  | cons instruction code ih =>
    rw [takeAll_cons, ih, List.reverse_cons, List.append_assoc]
    rfl

structure Silent where
deriving DecidableEq, Repr

instance : Emitter Silent where
  take silent _ := silent

structure TextWriter where
  written : List String
deriving DecidableEq, Repr

namespace TextWriter

def empty : TextWriter :=
  ⟨[]⟩

def lines (writer : TextWriter) : List String :=
  writer.written.reverse

def output (writer : TextWriter) : String :=
  textOfLines writer.lines

instance : Emitter TextWriter where
  take writer instruction := ⟨instruction.lines.reverse ++ writer.written⟩

@[simp] theorem lines_take (writer : TextWriter) (instruction : Instruction) :
    (Emitter.take writer instruction).lines = writer.lines ++ instruction.lines := by
  simp [lines, Emitter.take]

theorem lines_takeAll (writer : TextWriter) (code : List Instruction) :
    (Emitter.takeAll writer code).lines = writer.lines ++ vmLines code := by
  induction code generalizing writer with
  | nil => exact (List.append_nil _).symm
  | cons instruction code ih =>
    rw [Emitter.takeAll_cons, ih, lines_take, List.append_assoc]
    rfl

end TextWriter

end Jack
