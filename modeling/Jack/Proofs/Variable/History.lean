import Jack.Proofs.Session
import Jack.Proofs.Variable.Log
import Jack.Variable.Stack

namespace Jack

inductive TableOperation where
  | define (name type : String) (kind : VariableKind)
  | startSubroutine
deriving DecidableEq, Repr

/-- A definition is told with the slot that it answered. -/
inductive TableEvent where
  | defined (entry : Variable)
  | started
deriving DecidableEq, Repr

def ScopeStack.step (operation : TableOperation) (stack : ScopeStack) : TableEvent × ScopeStack :=
  match operation with
  | .define name type kind =>
    let (index, next) := stack.define name type kind
    (.defined ⟨name, type, kind, index⟩, next)
  | .startSubroutine => (.started, stack.startSubroutine)

/-- A table does not answer definitions: the slot is the number of names before. -/
def VariableTable.step (operation : TableOperation) (table : VariableTable) :
    TableEvent × VariableTable :=
  match operation with
  | .define name type kind =>
    (.defined ⟨name, type, kind, table.count kind⟩, table.define name type kind)
  | .startSubroutine => (.started, table.startSubroutine)

namespace TableEvent

def entry? : TableEvent → Option Variable
  | defined entry => some entry
  | started => none

def isDefinition : TableEvent → Bool
  | defined _ => true
  | started => false

end TableEvent

-- Histories have the newest event first.

section

variable (history : List TableEvent)

def definitions : List Variable :=
  history.filterMap TableEvent.entry?

/-- All variables since the last subroutine was started, and those of the class before it. -/
def liveEntries : List Variable :=
  definitions (history.takeWhile TableEvent.isDefinition) ++
    (definitions (history.dropWhile TableEvent.isDefinition)).filter (·.kind.scope = .classScope)

theorem liveEntries_defined (entry : Variable) :
    liveEntries (.defined entry :: history) = entry :: liveEntries history := rfl

theorem liveEntries_started :
    liveEntries (.started :: history) = (liveEntries history).filter (·.kind.scope = .classScope) := by
  have all : definitions history = definitions (history.takeWhile TableEvent.isDefinition) ++
      definitions (history.dropWhile TableEvent.isDefinition) := by
    rw [definitions, definitions, definitions, ← List.filterMap_append,
      List.takeWhile_append_dropWhile]
  have started : liveEntries (.started :: history) =
      (definitions history).filter (·.kind.scope = .classScope) := rfl
  rw [started, all, liveEntries]
  simp

end

def Variable.declaration (entry : Variable) : Declaration :=
  ⟨entry.name, entry.type, entry.kind⟩

def logOf (entries : List Variable) : Log :=
  entries.map Variable.declaration

/-- Each entry has the number of names of its kind before it as its slot. -/
def Slotted : List Variable → Prop
  | [] => True
  | entry :: older => entry.index = ((logOf older).count entry.kind).toUInt16 ∧ Slotted older

section

variable {entries : List Variable}

theorem names_logOf (entries : List Variable) (kind : VariableKind) :
    (logOf entries).names kind = (entries.filter (·.kind = kind)).map (·.name) := by
  rw [Log.names, logOf, List.filter_map, List.map_map]
  rfl

theorem logOf_ofClass (entries : List Variable) :
    logOf (entries.filter (·.kind.scope = .classScope)) = (logOf entries).ofClass := by
  rw [Log.ofClass, logOf, logOf, List.filter_map]
  rfl

theorem Slotted.ofClass (slotted : Slotted entries) :
    Slotted (entries.filter (·.kind.scope = .classScope)) := by
  induction entries with
  | nil => trivial
  | cons entry older ih =>
    obtain ⟨slot, others⟩ := slotted
    by_cases lasting : entry.kind.scope = .classScope
    · rw [List.filter_cons_of_pos (by simpa using lasting)]
      refine ⟨?_, ih others⟩
      rw [slot, logOf_ofClass, Log.count, Log.count, Log.names_ofClass _ lasting]
    · rw [List.filter_cons_of_neg (by simpa using lasting)]
      exact ih others

theorem Slotted.latest?_logOf (slotted : Slotted entries) (kind : VariableKind) (name : String) :
    (logOf entries).latest? kind name =
      entries.find? fun entry => entry.kind = kind ∧ entry.name = name := by
  induction entries with
  | nil => rfl
  | cons entry older ih =>
    obtain ⟨ownName, type, ownKind, index⟩ := entry
    obtain ⟨slot, others⟩ := slotted
    obtain rfl : index = ((logOf older).count ownKind).toUInt16 := slot
    rw [logOf, List.map_cons, Variable.declaration, Log.latest?, ← logOf]
    by_cases same : ownKind = kind ∧ ownName = name
    · obtain ⟨rfl, rfl⟩ := same
      rw [List.find?_cons_of_pos (by simp), if_pos ⟨rfl, rfl⟩]
    · rw [List.find?_cons_of_neg (by simpa using same), if_neg same, ih others]

theorem Slotted.slots_of_nodup (slotted : Slotted entries) {kind : VariableKind}
    (nodup : ((logOf entries).names kind).Nodup) :
    ((entries.filter (·.kind = kind)).map (·.index)).reverse =
      (List.range (entries.filter (·.kind = kind)).length).map Nat.toUInt16 := by
  induction entries with
  | nil => rfl
  | cons entry older ih =>
    obtain ⟨slot, others⟩ := slotted
    rw [names_logOf] at nodup
    by_cases same : entry.kind = kind
    · rw [List.filter_cons_of_pos (by simpa using same)] at nodup ⊢
      obtain ⟨new, rest⟩ := List.nodup_cons.mp nodup
      rw [← names_logOf] at rest
      have index : entry.index = ((older.filter (·.kind = kind)).length).toUInt16 := by
        rw [slot, Log.count, same, List.toFinset_card_of_nodup rest, names_logOf, List.length_map]
      rw [List.map_cons, List.reverse_cons, ih others rest, List.length_cons, List.range_succ,
        List.map_append, index]
      rfl
    · rw [List.filter_cons_of_neg (by simpa using same)] at nodup ⊢
      rw [← names_logOf] at nodup
      exact ih others nodup

theorem map_toNat_range {n : Nat} (few : n ≤ 65536) :
    ((List.range n).map Nat.toUInt16).map UInt16.toNat = List.range n := by
  rw [List.map_map]
  refine (List.map_congr_left ?_).trans (List.map_id _)
  intro slot member
  exact UInt16.toNat_ofNat_of_lt' (Nat.lt_of_lt_of_le (List.mem_range.mp member) few)

end

end Jack
