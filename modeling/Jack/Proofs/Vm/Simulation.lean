import Jack.Proofs.Vm.Placement

namespace Jack

open Relation

variable {outside : Outside} {code : List Instruction} {program : List Action} {action : Action}
  {taken : Word → Bool} {target : String} {word : Word} {stack : List Word} {s t u : Vm}

/-- The word that a comparison leaves when it fails. -/
def Word.isFalse (word : Word) : Bool :=
  word = 0

/-- Every word except the one that a comparison leaves when it holds. -/
def Word.isNotTrue (word : Word) : Bool :=
  word ≠ 65535

theorem Word.complement_ne_zero (word : Word) : decide (~~~word ≠ 0) = isNotTrue word := by
  have iff : ~~~word = 0 ↔ word = 65535 := by
    constructor
    · intro zero
      have back := congrArg (~~~·) zero
      rwa [UInt16.not_not] at back
    · rintro rfl
      rfl
  rw [isNotTrue, decide_eq_decide]
  exact not_congr iff

namespace Vm

def resume (stack : List Word) (position : Nat) (s : Vm) : Vm :=
  ⟨(s.running.leaving stack).moveTo position, s.waiting⟩

structure Tests (code : List Instruction) (s : Vm) (target : String) (word : Word)
    (stack : List Word) : Prop where
  here : code[s.running.position]? = some (.jumpIfFalse target)
  top : s.running.stack = word :: stack

/-- The state of the text between the two commands of a conditional jump. -/
def between (code : List Instruction) (word : Word) (stack : List Word) (s : Vm) : Vm :=
  (s.place (placeIn code)).resume (~~~word :: stack) (placeIn code s.running.position + 1)

theorem step_iff (here : program[s.running.position]? = some action) :
    Step outside program s u ↔
      Acts outside (linksAt program s.running.position) action s u := by
  constructor
  · rintro ⟨found, there, acts⟩
    rw [here] at there
    cases there
    exact acts
  · exact fun acts => ⟨action, here, acts⟩

theorem not_step_of_none (here : program[s.running.position]? = none) :
    ¬ Step outside program s u := by
  rintro ⟨found, there, _⟩
  rw [here] at there
  cases there

theorem acts_jumpWhen {links : Links} :
    Acts outside links (.jumpWhen taken target) s u ↔
      ∃ word stack, s.running.stack = word :: stack ∧
        (taken word ∧ (∃ position, links.label target position ∧ u = s.resume stack position) ∨
          taken word = false ∧ u = s.resume stack links.next) := by
  constructor
  · intro acts
    cases acts with
    | goesOn runs => cases runs
    | taken top holds there => exact ⟨_, _, top, .inl ⟨holds, _, there, rfl⟩⟩
    | passed top fails => exact ⟨_, _, top, .inr ⟨fails, rfl⟩⟩
  · rintro ⟨word, stack, top, ⟨holds, position, there, rfl⟩ | ⟨fails, rfl⟩⟩
    · exact .taken top holds there
    · exact .passed top fails

/-- A jump on words that are not zero goes where a jump on words that are not true goes before the
word is inverted. -/
theorem acts_inverted {links : Links} {place : Nat → Nat} {position : Nat}
    (top : s.running.stack = word :: stack) :
    Acts outside links (.jumpWhen (· ≠ 0) target)
        ((s.place place).resume (~~~word :: stack) position) u ↔
      Acts outside links (.jumpWhen Word.isNotTrue target) (s.place place) u := by
  have top' : (s.place place).running.stack = word :: stack := top
  rw [acts_jumpWhen, acts_jumpWhen]
  constructor
  · rintro ⟨inverted, rest, same, goes⟩
    obtain ⟨rfl, rfl⟩ := List.cons.inj same
    rw [Word.complement_ne_zero] at goes
    exact ⟨word, stack, top', goes⟩
  · rintro ⟨word', stack', same, goes⟩
    obtain ⟨rfl, rfl⟩ := List.cons.inj (top'.symm.trans same)
    refine ⟨~~~word, stack, rfl, ?_⟩
    rw [Word.complement_ne_zero]
    exact goes

theorem run?_not {stack after : List Word} : Operation.not.run? stack = some after ↔
    ∃ word rest, stack = word :: rest ∧ after = ~~~word :: rest := by
  cases stack with
  | nil => simp [Operation.run?]
  | cons word rest => simp [Operation.run?, eq_comm]

theorem commands_of_plain {instruction : Instruction} (taken : Word → Bool)
    (plain : ∀ target, instruction ≠ .jumpIfFalse target) :
    instruction.commands.length = 1 ∧
      (instruction.commands[0]?).map Command.action = some (instruction.action taken) := by
  cases instruction with
  | jumpIfFalse target => exact absurd rfl (plain target)
  | _ => exact ⟨rfl, rfl⟩

theorem step_place (taken : Word → Bool)
    (plain : ∀ target, code[s.running.position]? ≠ some (.jumpIfFalse target)) :
    Step outside (textProgram code) (s.place (placeIn code)) u ↔
      ∃ t, Step outside (programOf taken code) s t ∧ t.place (placeIn code) = u := by
  cases here : code[s.running.position]? with
  | none =>
    have ends : (programOf taken code)[s.running.position]? = none := by
      rw [programOf_getElem?, here, Option.map_none]
    constructor
    · intro step
      exact absurd step (not_step_of_none (textProgram_at_end here))
    · rintro ⟨t, step, _⟩
      exact absurd step (not_step_of_none ends)
  | some instruction =>
    have plain' : ∀ target, instruction ≠ .jumpIfFalse target :=
      fun target same => plain target (here.trans (congrArg some same))
    obtain ⟨single, first⟩ := commands_of_plain taken plain'
    have atCode : (programOf taken code)[s.running.position]? = some (instruction.action taken) := by
      rw [programOf_getElem?, here, Option.map_some]
    have atText : (textProgram code)[(s.place (placeIn code)).running.position]? =
        some (instruction.action taken) :=
      (textProgram_at_place here (Nat.lt_of_sub_eq_succ single)).trans first
    rw [step_iff atText]
    have moved := linksAt_place taken here single.symm
    simp only [step_iff atCode]
    exact acts_place moved

theorem step_place_of_test (here : code[s.running.position]? = some (.jumpIfFalse target)) :
    Step outside (textProgram code) (s.place (placeIn code)) u ↔
      ∃ word stack, s.Tests code target word stack ∧ u = s.between code word stack := by
  have atText : (textProgram code)[(s.place (placeIn code)).running.position]? =
      some (.apply .not) :=
    textProgram_at_place here (k := 0) (Nat.zero_lt_succ 1)
  rw [step_iff atText]
  constructor
  · intro acts
    cases acts with
    | goesOn runs =>
      obtain ⟨after, inverts, rfl⟩ := Option.map_eq_some_iff.mp runs
      obtain ⟨word, stack, top, rfl⟩ := run?_not.mp inverts
      exact ⟨word, stack, ⟨here, top⟩, rfl⟩
  · rintro ⟨word, stack, tests, rfl⟩
    have inverts := run?_not.mpr ⟨word, stack, tests.top, rfl⟩
    exact .goesOn (Option.map_eq_some_iff.mpr ⟨_, inverts, rfl⟩)

theorem step_between (tests : s.Tests code target word stack) :
    Step outside (textProgram code) (s.between code word stack) u ↔
      ∃ t, Step outside (programOf Word.isNotTrue code) s t ∧ t.place (placeIn code) = u := by
  have atText : (textProgram code)[(s.between code word stack).running.position]? =
      some (.jumpWhen (· ≠ 0) target) :=
    textProgram_at_place tests.here (k := 1) (Nat.lt_succ_self 1)
  have atCode : (programOf Word.isNotTrue code)[s.running.position]? =
      some (.jumpWhen Word.isNotTrue target) := by
    rw [programOf_getElem?, tests.here]
    rfl
  have moved := linksAt_place Word.isNotTrue tests.here (k := 1) rfl
  rw [step_iff atText]
  simp only [step_iff atCode]
  exact (acts_inverted tests.top).trans (acts_place moved)

theorem place_injective (code : List Instruction) : Function.Injective (place (placeIn code)) := by
  have machines : Function.Injective (Machine.place (placeIn code)) := by
    rintro ⟨p, stack, store, that, temp⟩ ⟨p', stack', store', that', temp'⟩ same
    obtain ⟨positions, rfl, rfl, rfl, rfl⟩ := Machine.mk.inj same
    obtain rfl := (placeIn_strictMono code).injective positions
    rfl
  rintro ⟨running, waiting⟩ ⟨running', waiting'⟩ same
  obtain ⟨first, later⟩ := Vm.mk.inj same
  obtain rfl := machines first
  obtain rfl := machines.list_map later
  rfl

theorem between_ne_place (tests : s.Tests code target word stack) :
    s.between code word stack ≠ t.place (placeIn code) := by
  intro same
  have positions : placeIn code s.running.position + 1 = placeIn code t.running.position :=
    congrArg (·.running.position) same
  have behind : placeIn code (s.running.position + 1) = placeIn code s.running.position + 2 :=
    placeIn_succ tests.here
  have later : s.running.position < t.running.position :=
    (placeIn_strictMono code).lt_iff_lt.mp (by omega)
  have notBefore : placeIn code (s.running.position + 1) ≤ placeIn code t.running.position :=
    (placeIn_strictMono code).monotone later
  omega

/-- A step of the code is one or two steps of the text. -/
theorem reaches_place_of_step (step : Step outside (programOf Word.isNotTrue code) s t) :
    Reaches outside (textProgram code) (s.place (placeIn code)) (t.place (placeIn code)) := by
  by_cases test : ∃ target, code[s.running.position]? = some (.jumpIfFalse target)
  · obtain ⟨target, here⟩ := test
    have atCode : (programOf Word.isNotTrue code)[s.running.position]? =
        some (.jumpWhen Word.isNotTrue target) := by
      rw [programOf_getElem?, here]
      rfl
    obtain ⟨word, stack, top, _⟩ := acts_jumpWhen.mp ((step_iff atCode).mp step)
    have tests : s.Tests code target word stack := ⟨here, top⟩
    have first : Step outside (textProgram code) (s.place (placeIn code))
        (s.between code word stack) :=
      (step_place_of_test here).mpr ⟨word, stack, tests, rfl⟩
    exact (ReflTransGen.single first).tail ((step_between tests).mpr ⟨t, step, rfl⟩)
  · have plain := not_exists.mp test
    exact .single ((step_place Word.isNotTrue plain).mpr ⟨t, step, rfl⟩)

/-- A run of the text is at each time at a state of a run of the code, or between two commands. -/
theorem exists_of_reaches_place
    (run : Reaches outside (textProgram code) (s.place (placeIn code)) u) :
    ∃ t, Reaches outside (programOf Word.isNotTrue code) s t ∧
      (u = t.place (placeIn code) ∨
        ∃ target word stack, t.Tests code target word stack ∧ u = t.between code word stack) := by
  induction run with
  | refl => exact ⟨s, .refl, .inl rfl⟩
  | tail before step ih =>
    -- The last step leads to an instruction, or into the two commands of a jump, or out of them.
    obtain ⟨t, run, rfl | ⟨target, word, stack, tests, rfl⟩⟩ := ih
    · by_cases test : ∃ target, code[t.running.position]? = some (.jumpIfFalse target)
      · obtain ⟨target, here⟩ := test
        obtain ⟨word, stack, tests, rfl⟩ := (step_place_of_test here).mp step
        exact ⟨t, run, .inr ⟨target, word, stack, tests, rfl⟩⟩
      · obtain ⟨after, goes, rfl⟩ := (step_place Word.isNotTrue (not_exists.mp test)).mp step
        exact ⟨after, run.tail goes, .inl rfl⟩
    · obtain ⟨after, goes, rfl⟩ := (step_between tests).mp step
      exact ⟨after, run.tail goes, .inl rfl⟩

theorem reaches_place_iff :
    Reaches outside (textProgram code) (s.place (placeIn code)) (t.place (placeIn code)) ↔
      Reaches outside (programOf Word.isNotTrue code) s t := by
  constructor
  · intro run
    obtain ⟨t', run', same | ⟨target, word, stack, tests, same⟩⟩ := exists_of_reaches_place run
    · obtain rfl := place_injective code same
      exact run'
    · exact absurd same.symm (between_ne_place tests)
  · intro run
    induction run with
    | refl => exact .refl
    | tail _ step ih => exact ih.trans (reaches_place_of_step step)

theorem programOf_mark_iff (taken taken' : Word → Bool) (mark : action.isMark) {position : Nat} :
    (programOf taken code)[position]? = some action ↔
      (programOf taken' code)[position]? = some action := by
  rw [programOf_getElem?, programOf_getElem?]
  cases code[position]? with
  | none => rfl
  | some instruction =>
    cases instruction with
    | jumpIfFalse target =>
      cases action with
      | label _ | function _ _ => simp [Instruction.action]
      | _ => cases mark
    | _ => rfl

theorem headersUpTo_programOf (taken taken' : Word → Bool) (code : List Instruction)
    (position : Nat) :
    headersUpTo (programOf taken code) position = headersUpTo (programOf taken' code) position := by
  have headers : ∀ instruction : Instruction,
      (instruction.action taken).isHeader = (instruction.action taken').isHeader := by
    intro instruction
    cases instruction <;> rfl
  induction code generalizing position with
  | nil => rfl
  | cons instruction code ih =>
    cases position with
    | zero => exact congrArg Bool.toNat (headers instruction)
    | succ position =>
      exact congrArg₂ (· + ·) (congrArg Bool.toNat (headers instruction)) (ih position)

theorem linksAt_programOf (taken taken' : Word → Bool) (code : List Instruction) (position : Nat) :
    linksAt (programOf taken code) position = linksAt (programOf taken' code) position := by
  have labels (name : String) (target : Nat) :
      (programOf taken code)[target]? = some (Action.label name) ↔
        (programOf taken' code)[target]? = some (Action.label name) :=
    programOf_mark_iff taken taken' rfl
  have functions (name : String) (count : UInt16) (target : Nat) :
      (programOf taken code)[target]? = some (Action.function name count) ↔
        (programOf taken' code)[target]? = some (Action.function name count) :=
    programOf_mark_iff taken taken' rfl
  simp only [linksAt, labels, functions, headersUpTo_programOf taken taken']

theorem Step.congr {taken' : Word → Bool}
    (agree : ∀ target word stack, s.Tests code target word stack → taken word = taken' word)
    (step : Step outside (programOf taken code) s t) :
    Step outside (programOf taken' code) s t := by
  obtain ⟨action, there, acts⟩ := step
  rw [programOf_getElem?] at there
  obtain ⟨instruction, here, rfl⟩ := Option.map_eq_some_iff.mp there
  have atCode : (programOf taken' code)[s.running.position]? = some (instruction.action taken') := by
    rw [programOf_getElem?, here, Option.map_some]
  rw [linksAt_programOf taken taken'] at acts
  rw [step_iff atCode]
  cases instruction with
  | jumpIfFalse target =>
    obtain ⟨word, stack, top, goes⟩ := acts_jumpWhen.mp acts
    rw [agree target word stack ⟨here, top⟩] at goes
    exact acts_jumpWhen.mpr ⟨word, stack, top, goes⟩
  | _ => exact acts

theorem reaches_congr {taken' : Word → Bool}
    (agree : ∀ u, Reaches outside (programOf taken code) s u →
      ∀ target word stack, u.Tests code target word stack → taken word = taken' word) :
    Reaches outside (programOf taken code) s t ↔ Reaches outside (programOf taken' code) s t := by
  constructor
  · intro run
    induction run with
    | refl => exact .refl
    | tail before step ih => exact ih.tail (step.congr (agree _ before))
  · intro run
    induction run with
    | refl => exact .refl
    | tail _ step ih =>
      have back := fun target word stack tests => (agree _ ih target word stack tests).symm
      exact ih.tail (step.congr back)

end Vm

end Jack
