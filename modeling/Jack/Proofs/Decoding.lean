import Jack.Proofs.Program.Names
import Jack.Proofs.Replay

namespace Jack

def writtenText (code : List Instruction) : String :=
  (Emitter.takeAll TextWriter.empty code).output

theorem codeOfText?_writtenText {code : List Instruction} (named : OneLineNames code) :
    codeOfText? (writtenText code) = some code := by
  rw [writtenText, output_of_code]
  exact codeOfText?_vmText named

theorem writtenText_inj {code other : List Instruction} (named : OneLineNames code)
    (otherNamed : OneLineNames other) (same : writtenText code = writtenText other) : code = other := by
  have first := codeOfText?_writtenText named
  rw [same, codeOfText?_writtenText otherNamed] at first
  exact (Option.some.inj first).symm

theorem codeOfText?_of_compile {source : String} {file? : Option String} {compilation : Compilation}
    (accepted : compile source file? = .ok compilation) :
    ∃ s, parse compilation.tokens = .ok compilation.declaration s ∧
      codeOfText? compilation.vm = some s.instructions := by
  obtain ⟨_, s, parsed, _, vm⟩ := of_compile accepted
  have named : OneLineNames s.instructions := by
    rw [instructions_of_parse parsed]
    exact compilation.declaration.oneLineNames_code
  refine ⟨s, parsed, ?_⟩
  rw [vm]
  exact codeOfText?_vmText named

/-- Code whose names have no newline is read back from its text. So no other such code has the same
text, and the text of a class gives the code that was recorded while it was read. -/
theorem text_determines_code :
    (∀ code, OneLineNames code → codeOfText? (writtenText code) = some code) ∧
      (∀ code other, OneLineNames code → OneLineNames other →
        (writtenText code = writtenText other ↔ code = other)) ∧
      ∀ source file? compilation, compile source file? = .ok compilation →
        ∃ s, parse compilation.tokens = .ok compilation.declaration s ∧
          codeOfText? compilation.vm = some s.instructions := by
  refine ⟨?_, ?_, ?_⟩
  · intro code named
    exact codeOfText?_writtenText named
  · intro code other named otherNamed
    constructor
    · exact writtenText_inj named otherNamed
    · exact congrArg writtenText
  · intro source file? compilation accepted
    exact codeOfText?_of_compile accepted

/-- Operators before and after jumps, and names that look like commands. -/
def riddle : List Instruction :=
  [.apply .not, .apply .not, .jumpIfFalse "not", .apply .not, .label "", .jump "if-goto 1",
    .call "call f 2" 65535, .function " " 0, .push .thatCell 7, .jumpIfFalse "", .ret]

def riddleSource : String :=
  "class Riddle {
  function int f(int n) {
    if (~n) { return ~n; }
    return n;
  }
}"

theorem text_determines_riddle :
    (OneLineNames riddle ∧ codeOfText? (writtenText riddle) = some riddle) ∧
      writtenText riddle ≠ writtenText (riddle.drop 1) ∧
      ∃ compilation s, compile riddleSource none = .ok compilation ∧
        parse compilation.tokens = .ok compilation.declaration s ∧
        codeOfText? compilation.vm = some s.instructions := by
  obtain ⟨reads, injective, compiles⟩ := text_determines_code
  have named : OneLineNames riddle := by
    decide
  have laterNamed : OneLineNames (riddle.drop 1) :=
    fun instruction member => named instruction (List.mem_of_mem_drop member)
  refine ⟨⟨named, reads riddle named⟩, ?_, ?_⟩
  · rw [Ne, injective riddle (riddle.drop 1) named laterNamed]
    decide
  · have passes : (compile riddleSource none).toOption.isSome := by
      decide +kernel
    cases accepted : compile riddleSource none with
    | error diagnostic =>
      rw [accepted] at passes
      cases passes
    | ok compilation =>
      obtain ⟨s, parsed, decoded⟩ := compiles riddleSource none compilation accepted
      exact ⟨compilation, s, rfl, parsed, decoded⟩

end Jack
