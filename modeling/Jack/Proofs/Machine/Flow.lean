import Jack.Proofs.Machine.Basic
import Jack.Proofs.Program.Discipline
import Jack.Proofs.Program.Targets
import Mathlib.Logic.Relation

namespace Jack

def Instruction.goesOn : Instruction → Bool
  | .jump _ | .ret => false
  | .push _ _ | .pop _ _ | .apply _ | .label _ | .jumpIfFalse _ | .call _ _ | .function _ _ => true

/-- Some path from the start of the code leads to a position with a depth of the stack. -/
inductive Leads (code : List Instruction) : Nat → Nat → Prop where
  | start : Leads code 0 0
  | next {instruction : Instruction} {position depth after : Nat}
    (path : Leads code position depth) (here : code[position]? = some instruction)
    (goesOn : instruction.goesOn) (counted : instruction.depth? depth = some after) :
    Leads code (position + 1) after
  | jump {instruction : Instruction} {name : String} {position depth after target : Nat}
    (path : Leads code position depth) (here : code[position]? = some instruction)
    (jumps : instruction.target? = some name) (there : code[target]? = some (.label name))
    (counted : instruction.depth? depth = some after) :
    Leads code target after

variable {code : List Instruction} {instruction : Instruction} {position depth last : Nat}

theorem Disciplined.at_position (disciplined : Disciplined 0 code last)
    (here : code[position]? = some instruction) :
    ∃ depth after, Jack.depthAfter? 0 (code.take position) = some depth ∧
      instruction.depth? depth = some after ∧ instruction.Settles depth after := by
  obtain ⟨inside, same⟩ := List.getElem?_eq_some_iff.mp here
  have split : code.take position ++ instruction :: code.drop (position + 1) = code := by
    rw [← same, ← List.drop_eq_getElem_cons inside, List.take_append_drop]
  rw [← split] at disciplined
  exact disciplined.at_instruction

theorem Instruction.Settles.of_target? {name : String} {before after : Nat}
    (settles : instruction.Settles before after) (jumps : instruction.target? = some name) :
    after = 0 := by
  cases instruction with
  | jump target => exact settles
  | jumpIfFalse target => exact settles
  | _ => cases jumps

/-- All paths to a position find the depth that is counted from the first instruction on. -/
theorem Leads.depthAfter? (disciplined : Disciplined 0 code last) (leads : Leads code position depth) :
    Jack.depthAfter? 0 (code.take position) = some depth := by
  -- A jump arrives with nothing on the stack, and a label is counted with nothing: the two depths meet.
  induction leads with
  | start => rfl
  | @next instruction position depth after path here goesOn counted ih =>
    rw [List.take_add_one, here, depthAfter?_append, ih, Option.bind_some]
    exact (depthAfter?_singleton depth instruction).trans counted
  | @jump instruction name position depth after target path here jumps there counted ih =>
    obtain ⟨depth', after', reached, counted', settles⟩ := disciplined.at_position here
    have sameDepth : depth = depth' := Option.some.inj (ih.symm.trans reached)
    rw [← sameDepth, counted] at counted'
    have empty : after = 0 := (Option.some.inj counted').trans (settles.of_target? jumps)
    obtain ⟨atLabel, _, reachedLabel, _, zero⟩ := disciplined.at_position there
    rw [reachedLabel, empty, show atLabel = 0 from zero]

namespace Machine

variable {callee : Callee} {scratch : UInt16 → Word} {machine after : Machine}

theorem length_run? {operation : Operation} {stack stack' : List Word}
    (runs : operation.run? stack = some stack') :
    (Instruction.apply operation).depth? stack.length = some stack'.length := by
  cases operation <;> rcases stack with _ | ⟨top, _ | ⟨below, stack⟩⟩ <;> cases runs <;>
    simp [Instruction.depth?, Instruction.takes, Instruction.gives, Operation.operands]

theorem stack_pop? {segment : Segment} {index : UInt16} {word : Word}
    (pops : machine.pop? segment index word = some after) :
    after.position = machine.position ∧ after.stack = machine.stack := by
  cases segment with
  | constant => cases pops
  | pointer =>
    simp only [pop?] at pops
    split at pops
    · cases pops
      exact ⟨rfl, rfl⟩
    · split at pops
      · cases pops
        exact ⟨rfl, rfl⟩
      · cases pops
  | _ =>
    cases pops
    exact ⟨rfl, rfl⟩

theorem target?_spec {name : String} {target : Nat} (found : target? code name = some target) :
    code[target]? = some (.label name) := by
  obtain ⟨inside, is, _⟩ := List.findIdx?_eq_some_iff_getElem.mp found
  rw [List.getElem?_eq_getElem inside, eq_of_beq is]

theorem leads_next? (leads : Leads code machine.position machine.stack.length)
    (steps : machine.next? callee code scratch = some after) :
    Leads code after.position after.stack.length := by
  cases here : code[machine.position]? with
  | none => simp [next?, here] at steps
  | some instruction =>
    cases instruction with
    | push segment index =>
      simp only [next?, here] at steps
      obtain ⟨word, _, rfl⟩ := Option.map_eq_some_iff.mp steps
      exact leads.next here rfl (depth?_push segment index)
    | pop segment index =>
      simp only [next?, here] at steps
      split at steps
      · rename_i word stack same
        obtain ⟨position, length⟩ := stack_pop? steps
        rw [position, length]
        rw [same] at leads
        exact leads.next here rfl (depth?_pop segment index)
      · cases steps
    | apply operation =>
      simp only [next?, here] at steps
      obtain ⟨stack, runs, rfl⟩ := Option.map_eq_some_iff.mp steps
      exact leads.next here rfl (length_run? runs)
    | label name =>
      simp only [next?, here] at steps
      cases steps
      exact leads.next here rfl rfl
    | jump name =>
      simp only [next?, here] at steps
      obtain ⟨target, found, rfl⟩ := Option.map_eq_some_iff.mp steps
      exact leads.jump here rfl (target?_spec found) rfl
    | jumpIfFalse name =>
      simp only [next?, here] at steps
      split at steps
      · rename_i word stack same
        rw [same] at leads
        split at steps
        · obtain ⟨target, found, rfl⟩ := Option.map_eq_some_iff.mp steps
          exact leads.jump here rfl (target?_spec found) rfl
        · cases steps
          exact leads.next here rfl rfl
      · cases steps
    | call name argumentCount =>
      simp only [next?, here] at steps
      split at steps
      · rename_i enough
        cases steps
        refine leads.next here rfl ?_
        rw [Instruction.depth?, Instruction.takes, if_pos enough]
        simp [Instruction.gives]
      · cases steps
    | function name localCount => simp [next?, here] at steps
    | ret => simp [next?, here] at steps

def Steps (callee : Callee) (code : List Instruction) (machine after : Machine) : Prop :=
  ∃ scratch, machine.next? callee code scratch = some after

theorem leads_of_steps (leads : Leads code machine.position machine.stack.length)
    (steps : Relation.ReflTransGen (Steps callee code) machine after) :
    Leads code after.position after.stack.length := by
  induction steps with
  | refl => exact leads
  | tail _ last ih =>
    obtain ⟨scratch, step⟩ := last
    exact leads_next? ih step

end Machine

end Jack
