import Jack.Proofs.Vm.Simulation
import Jack.Vm.Emitter

namespace Jack

open Vm hiding Step

/-- On its runs the code tests no words but zero and the word with all bits set. -/
def TestsTruthValues (outside : Outside) (code : List Instruction) (s : Vm) : Prop :=
  ∀ t, Vm.Reaches outside (programOf Word.isFalse code) s t →
    ∀ target word stack, t.Tests code target word stack → word = 0 ∨ word = 65535

theorem Word.isFalse_eq_isNotTrue {word : Word} (truth : word = 0 ∨ word = 65535) :
    isFalse word = isNotTrue word := by
  rcases truth with rfl | rfl <;> rfl

section Jumps

variable {outside : Outside} {code : List Instruction} {target : String} {word : Word}
  {stack : List Word} {s u : Vm}

theorem programOf_of_tests (taken : Word → Bool) (tests : s.Tests code target word stack) :
    (programOf taken code)[s.running.position]? = some (.jumpWhen taken target) := by
  rw [programOf_getElem?, tests.here]
  rfl

theorem step_of_ne_zero (tests : s.Tests code target word stack) (word_ne : word ≠ 0) :
    Vm.Step outside (programOf Word.isFalse code) s u ↔
      u = s.resume stack (s.running.position + 1) := by
  have fails : Word.isFalse word = false := decide_eq_false word_ne
  rw [step_iff (programOf_of_tests _ tests), acts_jumpWhen]
  constructor
  · rintro ⟨word', stack', top, goes⟩
    obtain ⟨rfl, rfl⟩ := List.cons.inj (tests.top.symm.trans top)
    rcases goes with ⟨holds, _⟩ | ⟨_, same⟩
    · exact absurd holds (by simp [fails])
    · exact same
  · intro same
    exact ⟨word, stack, tests.top, .inr ⟨fails, same⟩⟩

theorem comp_of_ne_true (tests : s.Tests code target word stack) (word_ne : word ≠ 65535) :
    Relation.Comp (Vm.Step outside (textProgram code)) (Vm.Step outside (textProgram code))
        (s.place (placeIn code)) u ↔
      ∃ position, (linksAt (programOf Word.isFalse code) s.running.position).label target position ∧
        u = (s.resume stack position).place (placeIn code) := by
  have holds : Word.isNotTrue word := decide_eq_true word_ne
  have links := linksAt_programOf Word.isNotTrue Word.isFalse code s.running.position
  constructor
  · rintro ⟨inverted, first, second⟩
    obtain ⟨word', stack', tests', rfl⟩ := (step_place_of_test tests.here).mp first
    obtain ⟨t, step, rfl⟩ := (step_between tests').mp second
    rw [step_iff (programOf_of_tests _ tests), acts_jumpWhen] at step
    obtain ⟨word', stack', top, goes⟩ := step
    obtain ⟨rfl, rfl⟩ := List.cons.inj (tests.top.symm.trans top)
    rcases goes with ⟨_, position, there, rfl⟩ | ⟨fails, _⟩
    · exact ⟨position, links ▸ there, rfl⟩
    · exact absurd holds (by simp [fails])
  · rintro ⟨position, there, rfl⟩
    have goes : Vm.Step outside (programOf Word.isNotTrue code) s (s.resume stack position) := by
      rw [step_iff (programOf_of_tests _ tests), acts_jumpWhen, links]
      exact ⟨word, stack, tests.top, .inl ⟨holds, position, there, rfl⟩⟩
    have first : Vm.Step outside (textProgram code) (s.place (placeIn code))
        (s.between code word stack) :=
      (step_place_of_test tests.here).mpr ⟨word, stack, tests, rfl⟩
    exact ⟨_, first, (step_between tests).mpr ⟨_, goes, rfl⟩⟩

end Jumps

/-- The lines of code read back as its text program, which runs as the code does with its
conditional jumps taken on every word but the one with all bits set. So it runs as the code does
while the code tests the results of comparisons; with any other word the code goes on to the next
instruction, and its text jumps. -/
theorem text_keeps_jumps_on_truth_values (outside : Outside) (code : List Instruction) :
    programOfLines? (Emitter.takeAll TextWriter.empty code).lines = some (textProgram code) ∧
      (∀ s t,
        Vm.Reaches outside (textProgram code) (s.place (placeIn code)) (t.place (placeIn code)) ↔
          Vm.Reaches outside (programOf Word.isNotTrue code) s t) ∧
      (∀ s, TestsTruthValues outside code s → ∀ t,
        Vm.Reaches outside (textProgram code) (s.place (placeIn code)) (t.place (placeIn code)) ↔
          Vm.Reaches outside (programOf Word.isFalse code) s t) ∧
      ∀ s target word stack, s.Tests code target word stack → word ≠ 0 → word ≠ 65535 →
        (∀ u, Vm.Step outside (programOf Word.isFalse code) s u ↔
          u = s.resume stack (s.running.position + 1)) ∧
        ∀ u, Relation.Comp (Vm.Step outside (textProgram code)) (Vm.Step outside (textProgram code))
            (s.place (placeIn code)) u ↔
          ∃ position,
            (linksAt (programOf Word.isFalse code) s.running.position).label target position ∧
              u = (s.resume stack position).place (placeIn code) := by
  have reads : programOfLines? (Emitter.takeAll TextWriter.empty code).lines =
      some (textProgram code) := by
    rw [TextWriter.lines_takeAll]
    exact programOfLines?_vmLines code
  apply And.intro reads
  apply And.intro fun s t => reaches_place_iff
  constructor
  · intro s truths t
    have agree := reaches_congr (t := t) fun u run target word stack tests =>
      Word.isFalse_eq_isNotTrue (truths u run target word stack tests)
    exact reaches_place_iff.trans agree.symm
  · intro s target word stack tests word_ne_zero word_ne_true
    constructor
    · exact fun u => step_of_ne_zero tests word_ne_zero
    · exact fun u => comp_of_ne_true tests word_ne_true

def whenOne : List Instruction :=
  [.push .constant 1, .jumpIfFalse "END", .push .constant 7, .label "END"]

def testOfOne : Vm :=
  ⟨⟨1, [1], ⟨fun _ => 0, fun _ => 0, fun _ => 0, fun _ => 0, 0⟩, 0, fun _ => 0⟩, []⟩

theorem text_of_whenOne_skips_body :
    (∀ u, Vm.Step (fun _ _ _ => none) (programOf Word.isFalse whenOne) testOfOne u ↔
        u = testOfOne.resume [] 2) ∧
      ∀ u, Relation.Comp (Vm.Step (fun _ _ _ => none) (textProgram whenOne))
          (Vm.Step (fun _ _ _ => none) (textProgram whenOne)) (testOfOne.place (placeIn whenOne)) u ↔
        u = (testOfOne.resume [] 3).place (placeIn whenOne) := by
  obtain ⟨_, _, _, others⟩ := text_keeps_jumps_on_truth_values (fun _ _ _ => none) whenOne
  obtain ⟨goesOn, jumps⟩ := others testOfOne "END" 1 [] ⟨rfl, rfl⟩ (by decide) (by decide)
  apply And.intro goesOn
  intro u
  rw [jumps]
  constructor
  · rintro ⟨position, ⟨there, _⟩, rfl⟩
    rcases position with _ | _ | _ | _ | position
    · cases there
    · cases there
    · cases there
    · rfl
    · cases there
  · rintro rfl
    exact ⟨3, ⟨rfl, rfl⟩, rfl⟩

end Jack
