import Jack.Compile
import Jack.Proofs.Parse.Transfer
import Jack.Proofs.Vm.Text

namespace Jack

section

variable {ε : Type} [Emitter ε]

theorem parseWith_eq (emitter : ε) (tokens : List Token) :
    parseWith emitter tokens =
      (parse tokens).map fun recorded => Emitter.takeAll emitter recorded.reverse :=
  ParseState.maps_unit (Emitter.along_replay emitter) (.start tokens)

theorem readUnit_of_tokens (emitter : ε) {source : String} {tokens : List Token}
    (split : tokenize source = .ok tokens) :
    readUnit emitter source =
      match parse tokens with
      | .ok declaration s =>
        .ok (⟨s.className, tokens, declaration⟩, Emitter.takeAll emitter s.instructions)
      | .error fault _ => .error fault := by
  rw [readUnit, split]
  dsimp only
  rw [parseWith_eq]
  cases parse tokens <;> rfl

theorem readUnit_of_fault (emitter : ε) {source : String} {fault : Fault}
    (refused : tokenize source = .error fault) : readUnit emitter source = .error fault := by
  rw [readUnit, refused]

end

theorem output_of_code (code : List Instruction) :
    (Emitter.takeAll TextWriter.empty code).output = vmText code := by
  rw [TextWriter.output, TextWriter.lines_takeAll]
  rfl

theorem analyze_of_tokens {source : String} {tokens : List Token}
    (split : tokenize source = .ok tokens) (file? : Option String) :
    analyze source file? =
      match parse tokens with
      | .ok declaration s => .ok ⟨s.className, tokens, declaration⟩
      | .error fault _ => .error (fault.inFile file?) := by
  rw [analyze, readUnit_of_tokens _ split]
  cases parse tokens <;> rfl

theorem compile_of_tokens {source : String} {tokens : List Token}
    (split : tokenize source = .ok tokens) (file? : Option String) :
    compile source file? =
      match parse tokens with
      | .ok declaration s => .ok ⟨⟨s.className, tokens, declaration⟩, vmText s.instructions⟩
      | .error fault _ => .error (fault.inFile file?) := by
  rw [compile, readUnit_of_tokens _ split]
  cases parse tokens with
  | ok declaration s =>
    dsimp only
    rw [output_of_code]
  | error fault s => rfl

theorem of_compile {source : String} {file? : Option String} {compilation : Compilation}
    (accepted : compile source file? = .ok compilation) :
    tokenize source = .ok compilation.tokens ∧
      ∃ s, parse compilation.tokens = .ok compilation.declaration s ∧
        s.className = compilation.className ∧ compilation.vm = vmText s.instructions := by
  cases split : tokenize source with
  | error fault =>
    rw [compile, readUnit_of_fault _ split] at accepted
    cases accepted
  | ok tokens =>
    rw [compile_of_tokens split] at accepted
    cases parsed : parse tokens with
    | error fault s =>
      rw [parsed] at accepted
      cases accepted
    | ok declaration s =>
      rw [parsed] at accepted
      cases accepted
      exact ⟨rfl, s, parsed, rfl, rfl⟩

/-- An analysis and a compilation of one source: the same class, with the text of the code that is
recorded while its tokens are read, or the same refusal. -/
inductive Agree : Except Diagnostic Analysis → Except Diagnostic Compilation → Prop where
  | accepted {analysis : Analysis} {s : ParseState} {vm : String}
    (recorded : parse analysis.tokens = .ok analysis.declaration s)
    (className : s.className = analysis.className)
    (text : vm = String.join (s.instructions.flatMap fun event => event.lines.map ended)) :
    Agree (.ok analysis) (.ok { analysis with vm := vm })
  | refused (diagnostic : Diagnostic) : Agree (.error diagnostic) (.error diagnostic)

theorem analyze_agrees_with_compile (source : String) (file? : Option String) :
    Agree (analyze source file?) (compile source file?) := by
  cases split : tokenize source with
  | error fault =>
    rw [analyze, compile, readUnit_of_fault _ split, readUnit_of_fault _ split]
    exact .refused _
  | ok tokens =>
    rw [analyze_of_tokens split, compile_of_tokens split]
    cases read : parse tokens with
    | error fault s => exact .refused _
    | ok declaration s => exact .accepted read rfl (vmText_eq s.instructions)

end Jack
