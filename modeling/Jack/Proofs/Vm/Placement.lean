import Jack.Proofs.Vm.Machine
import Mathlib.Order.Monotone.Basic

namespace Jack

/-- The position in the text of the first command of the instruction at a position. A jump on zero is two
lines, so the positions after it are shifted. -/
def placeIn : List Instruction → Nat → Nat
  | [], position => position
  | _, 0 => 0
  | instruction :: code, position + 1 => instruction.commands.length + placeIn code position

variable {code : List Instruction} {instruction : Instruction} {position : Nat}

@[simp] theorem placeIn_zero (code : List Instruction) : placeIn code 0 = 0 := by
  cases code <;> rfl

@[simp] theorem placeIn_cons_succ (instruction : Instruction) (code : List Instruction)
    (position : Nat) : placeIn (instruction :: code) (position + 1) =
      instruction.commands.length + placeIn code position := rfl

theorem Instruction.length_commands_pos (instruction : Instruction) :
    0 < instruction.commands.length := by
  cases instruction <;> simp [commands]

theorem textProgram_cons (instruction : Instruction) (code : List Instruction) :
    textProgram (instruction :: code) =
      instruction.commands.map Command.action ++ textProgram code := by
  simp [textProgram, commandsOf]

theorem placeIn_succ (here : code[position]? = some instruction) :
    placeIn code (position + 1) = placeIn code position + instruction.commands.length := by
  induction code generalizing position with
  | nil => cases here
  | cons first code ih =>
    cases position with
    | zero =>
      cases here
      simp
    | succ position =>
      have found : code[position]? = some instruction := here
      rw [placeIn_cons_succ, placeIn_cons_succ, ih found, Nat.add_assoc]

theorem placeIn_lt_succ (code : List Instruction) (position : Nat) :
    placeIn code position < placeIn code (position + 1) := by
  induction code generalizing position with
  | nil => exact Nat.lt_succ_self position
  | cons first code ih =>
    have positive := first.length_commands_pos
    cases position with
    | zero =>
      rw [placeIn_zero, placeIn_cons_succ]
      omega
    | succ position =>
      have later := ih position
      rw [placeIn_cons_succ, placeIn_cons_succ]
      omega

theorem placeIn_strictMono (code : List Instruction) : StrictMono (placeIn code) :=
  strictMono_nat_of_lt_succ (placeIn_lt_succ code)

theorem textProgram_at_place (here : code[position]? = some instruction) {k : Nat}
    (inside : k < instruction.commands.length) :
    (textProgram code)[placeIn code position + k]? =
      (instruction.commands[k]?).map Command.action := by
  induction code generalizing position with
  | nil => cases here
  | cons first code ih =>
    rw [textProgram_cons]
    cases position with
    | zero =>
      cases here
      rw [placeIn_zero, Nat.zero_add, List.getElem?_append_left (by simpa using inside),
        List.getElem?_map]
    | succ position =>
      have found : code[position]? = some instruction := here
      rw [placeIn_cons_succ, List.getElem?_append_right (by simp; omega), ← ih found]
      congr 1
      simp
      omega

theorem textProgram_at_end (here : code[position]? = none) :
    (textProgram code)[placeIn code position]? = none := by
  induction code generalizing position with
  | nil => rfl
  | cons first code ih =>
    cases position with
    | zero => cases here
    | succ position =>
      have found : code[position]? = none := here
      rw [textProgram_cons, placeIn_cons_succ, List.getElem?_append_right (by simp), ← ih found]
      congr 1
      simp

theorem exists_place {action : Action} {place : Nat} (here : (textProgram code)[place]? = some action) :
    ∃ position instruction k, code[position]? = some instruction ∧
      place = placeIn code position + k ∧ k < instruction.commands.length ∧
      (instruction.commands[k]?).map Command.action = some action := by
  induction code generalizing place with
  | nil => cases here
  | cons first code ih =>
    rw [textProgram_cons] at here
    by_cases inside : place < first.commands.length
    · rw [List.getElem?_append_left (by simpa using inside), List.getElem?_map] at here
      exact ⟨0, first, place, rfl, by simp, inside, here⟩
    · rw [List.getElem?_append_right (by simpa using inside)] at here
      obtain ⟨position, instruction, k, found, same, within, is⟩ := ih here
      refine ⟨position + 1, instruction, k, found, ?_, within, is⟩
      rw [List.length_map] at same
      rw [placeIn_cons_succ]
      omega

theorem programOf_getElem? (taken : Word → Bool) (code : List Instruction) (position : Nat) :
    (programOf taken code)[position]? = (code[position]?).map (Instruction.action taken) :=
  List.getElem?_map

/-- What other positions refer to. -/
def Action.isMark : Action → Bool
  | label _ | function _ _ => true
  | _ => false

theorem Instruction.action_of_mark (taken : Word → Bool) {k : Nat} {action : Action}
    (mark : action.isMark) (is : (instruction.commands[k]?).map Command.action = some action) :
    k = 0 ∧ instruction.action taken = action := by
  cases instruction with
  | jumpIfFalse target =>
    rcases k with _ | _ | k
    · cases is
      cases mark
    · cases is
      cases mark
    · cases is
  | _ =>
    rcases k with _ | k
    · cases is
      exact ⟨rfl, rfl⟩
    · cases is

theorem Instruction.commands_of_mark {taken : Word → Bool} (mark : (instruction.action taken).isMark) :
    (instruction.commands[0]?).map Command.action = some (instruction.action taken) := by
  cases instruction with
  | label _ | function _ _ => rfl
  | _ => cases mark

theorem textProgram_mark_iff (taken : Word → Bool) {action : Action} (mark : action.isMark)
    {target : Nat} : (textProgram code)[target]? = some action ↔
      ∃ t, (programOf taken code)[t]? = some action ∧ placeIn code t = target := by
  constructor
  · intro here
    obtain ⟨t, instruction, k, found, rfl, _, is⟩ := exists_place here
    obtain ⟨rfl, same⟩ := instruction.action_of_mark taken mark is
    refine ⟨t, ?_, rfl⟩
    rw [programOf_getElem?, found, Option.map_some, same]
  · rintro ⟨t, here, rfl⟩
    rw [programOf_getElem?] at here
    obtain ⟨instruction, found, rfl⟩ := Option.map_eq_some_iff.mp here
    have first := textProgram_at_place found instruction.length_commands_pos
    rw [Nat.add_zero] at first
    rw [first, Instruction.commands_of_mark mark]

theorem headersUpTo_append_right (first later : List Action) (position : Nat) :
    headersUpTo (first ++ later) (first.length + position) =
      first.countP Action.isHeader + headersUpTo later position := by
  induction first with
  | nil => simp
  | cons action first ih =>
    rw [List.length_cons, Nat.succ_add, List.cons_append, headersUpTo, ih, List.countP_cons]
    cases action.isHeader with
    | true =>
      simp
      omega
    | false => simp

theorem countP_commands (taken : Word → Bool) (instruction : Instruction) :
    (instruction.commands.map Command.action).countP Action.isHeader =
      (instruction.action taken).isHeader.toNat := by
  cases instruction <;> rfl

theorem headersUpTo_commands (taken : Word → Bool) (instruction : Instruction) {k : Nat}
    (inside : k < instruction.commands.length) (later : List Action) :
    headersUpTo (instruction.commands.map Command.action ++ later) k =
      (instruction.action taken).isHeader.toNat := by
  cases instruction with
  | jumpIfFalse target =>
    have cases : k = 0 ∨ k = 1 := by
      have : k < 2 := inside
      omega
    rcases cases with rfl | rfl <;> rfl
  | _ =>
    obtain rfl : k = 0 := Nat.lt_one_iff.mp inside
    rfl

theorem headersUpTo_place (taken : Word → Bool) (here : code[position]? = some instruction) {k : Nat}
    (inside : k < instruction.commands.length) :
    headersUpTo (textProgram code) (placeIn code position + k) =
      headersUpTo (programOf taken code) position := by
  induction code generalizing position with
  | nil => cases here
  | cons first code ih =>
    rw [textProgram_cons, programOf, List.map_cons]
    cases position with
    | zero =>
      cases here
      rw [placeIn_zero, Nat.zero_add, headersUpTo_commands taken _ inside]
      rfl
    | succ position =>
      have found : code[position]? = some instruction := here
      have length : first.commands.length = (first.commands.map Command.action).length := by simp
      rw [placeIn_cons_succ, Nat.add_assoc, length, headersUpTo_append_right, ih found,
        countP_commands taken]
      rfl

theorem headersUpTo_placeIn {taken : Word → Bool} {action : Action}
    (here : (programOf taken code)[position]? = some action) :
    headersUpTo (textProgram code) (placeIn code position) =
      headersUpTo (programOf taken code) position := by
  rw [programOf_getElem?] at here
  obtain ⟨instruction, found, _⟩ := Option.map_eq_some_iff.mp here
  exact headersUpTo_place taken found instruction.length_commands_pos

/-- From the last command of an instruction control goes where it goes from the instruction. -/
theorem linksAt_place (taken : Word → Bool) (here : code[position]? = some instruction) {k : Nat}
    (last : k + 1 = instruction.commands.length) :
    Links.Moved (placeIn code) (linksAt (programOf taken code) position)
      (linksAt (textProgram code) (placeIn code position + k)) where
  next := by
    rw [linksAt, linksAt, placeIn_succ here, ← last]
    rfl
  label := by
    intro name target
    have together := headersUpTo_place taken here (k := k) (by omega)
    constructor
    · rintro ⟨there, same⟩
      obtain ⟨t, there', rfl⟩ := (textProgram_mark_iff taken rfl).mp there
      rw [headersUpTo_placeIn there', together] at same
      exact ⟨t, ⟨there', same⟩, rfl⟩
    · rintro ⟨t, ⟨there, same⟩, rfl⟩
      rw [← headersUpTo_placeIn there, ← together] at same
      exact ⟨(textProgram_mark_iff taken rfl).mpr ⟨t, there, rfl⟩, same⟩
  entry := by
    intro name target
    constructor
    · rintro ⟨localCount, there⟩
      obtain ⟨t, there', rfl⟩ := (textProgram_mark_iff taken rfl).mp there
      exact ⟨t, ⟨localCount, there'⟩, rfl⟩
    · rintro ⟨t, ⟨localCount, there⟩, rfl⟩
      exact ⟨localCount, (textProgram_mark_iff taken rfl).mpr ⟨t, there, rfl⟩⟩

end Jack
