import Jack.Proofs.Machine.Basic
import Jack.Proofs.Vm.Command
import Mathlib.Logic.Relation

namespace Jack

/-- What is done at one position of a program. A conditional jump takes a word off the stack and
tells on which words it is taken. -/
inductive Action where
  | push (segment : Segment) (index : UInt16)
  | pop (segment : Segment) (index : UInt16)
  | apply (operation : Operation)
  | label (name : String)
  | jump (target : String)
  | jumpWhen (taken : Word → Bool) (target : String)
  | call (name : String) (argumentCount : UInt16)
  | function (name : String) (localCount : UInt16)
  | ret

/-- `if-goto` jumps on every word except zero. -/
def Command.action : Command → Action
  | push segment index => .push segment index
  | pop segment index => .pop segment index
  | apply operation => .apply operation
  | label name => .label name
  | goto target => .jump target
  | ifGoto target => .jumpWhen (· ≠ 0) target
  | call name argumentCount => .call name argumentCount
  | function name localCount => .function name localCount
  | ret => .ret

def Instruction.action (taken : Word → Bool) : Instruction → Action
  | push segment index => .push segment index
  | pop segment index => .pop segment index
  | apply operation => .apply operation
  | label name => .label name
  | jump target => .jump target
  | jumpIfFalse target => .jumpWhen taken target
  | call name argumentCount => .call name argumentCount
  | function name localCount => .function name localCount
  | ret => .ret

/-- The program of code whose conditional jumps are taken on the given words. -/
def programOf (taken : Word → Bool) (code : List Instruction) : List Action :=
  code.map (Instruction.action taken)

def programOfLines? (lines : List String) : Option (List Action) :=
  lines.mapM fun line => (Command.ofLine? line).map Command.action

def textProgram (code : List Instruction) : List Action :=
  (commandsOf code).map Command.action

theorem programOfLines?_vmLines (code : List Instruction) :
    programOfLines? (vmLines code) = some (textProgram code) := by
  have reads : (fun command : Command => (Command.ofLine? command.text).map Command.action) =
      fun command => pure command.action := by
    funext command
    rw [command.ofLine?_text]
    rfl
  rw [programOfLines?, vmLines_eq, List.mapM_map]
  exact (congrArg (List.mapM · (commandsOf code)) reads).trans List.mapM_pure

structure Shared where
  heap : Word → Word
  statics : UInt16 → Word
  temp : UInt16 → Word

/-- The functions that are not in the program: from a name, the argument words and the common memory
to a word and the memory after the call, if there is an end to it. -/
def Outside : Type :=
  String → List Word → Shared → Option (Word × Shared)

namespace Machine

def moveTo (position : Nat) (machine : Machine) : Machine :=
  { machine with position := position }

def shared (machine : Machine) : Shared :=
  ⟨machine.store.heap, machine.store.statics, machine.temp⟩

def share (memory : Shared) (machine : Machine) : Machine :=
  { machine with
    store := { machine.store with heap := memory.heap, statics := memory.statics }
    temp := memory.temp }

def leaving (stack : List Word) (machine : Machine) : Machine :=
  { machine with stack := stack }

def pushed (word : Word) (machine : Machine) : Machine :=
  machine.leaving (word :: machine.stack)

/-- The words on top of the stack in the order in which they were pushed. -/
def argumentsOf (count : UInt16) (machine : Machine) : List Word :=
  (machine.stack.take count.toNat).reverse

def withoutArguments (count : UInt16) (machine : Machine) : Machine :=
  machine.leaving (machine.stack.drop count.toNat)

def entered (count : UInt16) (machine : Machine) : Machine :=
  { machine with
    stack := []
    store := { machine.store with
      arguments := fun index => ((machine.argumentsOf count)[index.toNat]?).getD 0 } }

def clearLocals (count : UInt16) (machine : Machine) : Machine :=
  { machine with
    store := { machine.store with
      locals := fun index => if index < count then 0 else machine.store.locals index } }

end Machine

def Action.run? (machine : Machine) : Action → Option Machine
  | push segment index => (machine.push? segment index).map fun word => machine.pushed word
  | pop segment index =>
    match machine.stack with
    | word :: stack => (machine.leaving stack).pop? segment index word
    | [] => none
  | apply operation => (operation.run? machine.stack).map fun stack => machine.leaving stack
  | label _ => some machine
  | function _ localCount => some (machine.clearLocals localCount)
  | jump _ | jumpWhen _ _ | call _ _ | ret => none

/-- The function that runs, and the callers that wait for it, the last one first. -/
structure Vm where
  running : Machine
  waiting : List Machine

/-- Where control can go from a position: to the next one, to labels and to functions. -/
structure Links where
  next : Nat
  label : String → Nat → Prop
  entry : String → Nat → Prop

/-- What an action does. It gets stuck where words or labels are missing, and the outermost function
does not return. -/
inductive Acts (outside : Outside) (links : Links) : Action → Vm → Vm → Prop where
  | goesOn {action : Action} {s : Vm} {after : Machine} (runs : action.run? s.running = some after) :
    Acts outside links action s ⟨after.moveTo links.next, s.waiting⟩
  | jumps {name : String} {target : Nat} {s : Vm} (there : links.label name target) :
    Acts outside links (.jump name) s ⟨s.running.moveTo target, s.waiting⟩
  | taken {taken : Word → Bool} {name : String} {target : Nat} {word : Word} {stack : List Word}
    {s : Vm} (top : s.running.stack = word :: stack) (holds : taken word)
    (there : links.label name target) :
    Acts outside links (.jumpWhen taken name) s ⟨(s.running.leaving stack).moveTo target, s.waiting⟩
  | passed {taken : Word → Bool} {name : String} {word : Word} {stack : List Word} {s : Vm}
    (top : s.running.stack = word :: stack) (fails : taken word = false) :
    Acts outside links (.jumpWhen taken name) s
      ⟨(s.running.leaving stack).moveTo links.next, s.waiting⟩
  | enters {name : String} {count : UInt16} {target : Nat} {s : Vm}
    (enough : count.toNat ≤ s.running.stack.length) (there : links.entry name target) :
    Acts outside links (.call name count) s
      ⟨(s.running.entered count).moveTo target,
        (s.running.withoutArguments count).moveTo links.next :: s.waiting⟩
  | consults {name : String} {count : UInt16} {word : Word} {memory : Shared} {s : Vm}
    (enough : count.toNat ≤ s.running.stack.length) (missing : ∀ target, ¬ links.entry name target)
    (answers : outside name (s.running.argumentsOf count) s.running.shared = some (word, memory)) :
    Acts outside links (.call name count) s
      ⟨(((s.running.withoutArguments count).share memory).pushed word).moveTo links.next, s.waiting⟩
  | returns {word : Word} {stack : List Word} {caller : Machine} {waiting : List Machine} {s : Vm}
    (top : s.running.stack = word :: stack) (waits : s.waiting = caller :: waiting) :
    Acts outside links .ret s ⟨(caller.share s.running.shared).pushed word, waiting⟩

def Action.isHeader : Action → Bool
  | function _ _ => true
  | _ => false

/-- The number of headers up to a position, which tells the function that the position is in. -/
def headersUpTo : List Action → Nat → Nat
  | [], _ => 0
  | action :: _, 0 => action.isHeader.toNat
  | action :: program, position + 1 => action.isHeader.toNat + headersUpTo program position

/-- Labels are known in their own function, and functions everywhere. -/
def linksAt (program : List Action) (position : Nat) : Links where
  next := position + 1
  label name target := program[target]? = some (.label name) ∧
    headersUpTo program target = headersUpTo program position
  entry name target := ∃ localCount, program[target]? = some (.function name localCount)

def Vm.Step (outside : Outside) (program : List Action) (s t : Vm) : Prop :=
  ∃ action, program[s.running.position]? = some action ∧
    Acts outside (linksAt program s.running.position) action s t

def Vm.Reaches (outside : Outside) (program : List Action) : Vm → Vm → Prop :=
  Relation.ReflTransGen (Step outside program)

def Machine.place (place : Nat → Nat) (machine : Machine) : Machine :=
  machine.moveTo (place machine.position)

def Vm.place (place : Nat → Nat) (s : Vm) : Vm :=
  ⟨s.running.place place, s.waiting.map (Machine.place place)⟩

structure Links.Moved (place : Nat → Nat) (links links' : Links) : Prop where
  next : links'.next = place links.next
  label : ∀ name target, links'.label name target ↔ ∃ t, links.label name t ∧ place t = target
  entry : ∀ name target, links'.entry name target ↔ ∃ t, links.entry name t ∧ place t = target

theorem Machine.pop?_moveTo (segment : Segment) (index : UInt16) (word : Word) (position : Nat)
    (machine : Machine) :
    (machine.moveTo position).pop? segment index word =
      (machine.pop? segment index word).map (moveTo position) := by
  cases segment with
  | pointer =>
    by_cases first : index = 0
    · subst first
      rfl
    · by_cases second : index = 1
      · subst second
        rfl
      · simp [pop?, first, second]
  | _ => rfl

theorem Action.run?_moveTo (action : Action) (position : Nat) (machine : Machine) :
    action.run? (machine.moveTo position) = (action.run? machine).map (Machine.moveTo position) := by
  cases action with
  | push segment index =>
    have same : (machine.moveTo position).push? segment index = machine.push? segment index := by
      cases segment <;> rfl
    rw [run?, run?, same, Option.map_map]
    rfl
  | pop segment index =>
    obtain ⟨p, stack, store, that, temp⟩ := machine
    cases stack with
    | nil => rfl
    | cons word stack =>
      exact Machine.pop?_moveTo segment index word position ⟨p, stack, store, that, temp⟩
  | apply operation =>
    rw [run?, run?, Option.map_map]
    rfl
  | _ => rfl

/-- Acting does not depend on what the positions are. -/
theorem acts_place {outside : Outside} {place : Nat → Nat} {links links' : Links} {action : Action}
    {s u : Vm} (moved : links.Moved place links') :
    Acts outside links' action (s.place place) u ↔
      ∃ t, Acts outside links action s t ∧ t.place place = u := by
  constructor
  · intro acts
    cases acts with
    | goesOn runs =>
      rw [show (s.place place).running = s.running.place place from rfl, Machine.place,
        Action.run?_moveTo] at runs
      obtain ⟨after, runs', rfl⟩ := Option.map_eq_some_iff.mp runs
      refine ⟨_, .goesOn runs', ?_⟩
      rw [moved.next]
      rfl
    | jumps there =>
      obtain ⟨target, there', rfl⟩ := (moved.label _ _).mp there
      exact ⟨_, .jumps there', rfl⟩
    | taken top holds there =>
      obtain ⟨target, there', rfl⟩ := (moved.label _ _).mp there
      exact ⟨_, .taken top holds there', rfl⟩
    | passed top fails =>
      refine ⟨_, .passed top fails, ?_⟩
      rw [moved.next]
      rfl
    | enters enough there =>
      obtain ⟨target, there', rfl⟩ := (moved.entry _ _).mp there
      refine ⟨_, .enters enough there', ?_⟩
      rw [moved.next]
      rfl
    | @consults name count word memory _ enough missing answers =>
      have missing' : ∀ target, ¬ links.entry name target :=
        fun target there => missing _ ((moved.entry name _).mpr ⟨target, there, rfl⟩)
      refine ⟨_, .consults enough missing' answers, ?_⟩
      rw [moved.next]
      rfl
    | returns top waits =>
      obtain ⟨caller, waiting, waits', rfl, rfl⟩ := List.map_eq_cons_iff.mp waits
      exact ⟨_, .returns top waits', rfl⟩
  · rintro ⟨t, acts, rfl⟩
    cases acts with
    | goesOn runs =>
      have runs' := congrArg (Option.map (Machine.moveTo (place s.running.position))) runs
      rw [← Action.run?_moveTo] at runs'
      have acts : Acts outside links' action (s.place place) _ := .goesOn runs'
      rw [moved.next] at acts
      exact acts
    | jumps there => exact .jumps ((moved.label _ _).mpr ⟨_, there, rfl⟩)
    | taken top holds there => exact .taken top holds ((moved.label _ _).mpr ⟨_, there, rfl⟩)
    | @passed taken name word stack _ top fails =>
      have acts : Acts outside links' (.jumpWhen taken name) (s.place place) _ := .passed top fails
      rw [moved.next] at acts
      exact acts
    | @enters name count target _ enough there =>
      have acts : Acts outside links' (.call name count) (s.place place) _ :=
        .enters enough ((moved.entry _ _).mpr ⟨_, there, rfl⟩)
      rw [moved.next] at acts
      exact acts
    | @consults name count word memory _ enough missing answers =>
      have missing' : ∀ target, ¬ links'.entry name target := by
        intro target there
        obtain ⟨t, there', _⟩ := (moved.entry name target).mp there
        exact missing t there'
      have acts : Acts outside links' (.call name count) (s.place place) _ :=
        .consults enough missing' answers
      rw [moved.next] at acts
      exact acts
    | @returns word stack caller waiting _ top waits =>
      have waits' : (s.place place).waiting =
          caller.place place :: waiting.map (Machine.place place) := by
        rw [Vm.place, waits, List.map_cons]
      have acts : Acts outside links' .ret (s.place place) _ := .returns top waits'
      exact acts

end Jack
