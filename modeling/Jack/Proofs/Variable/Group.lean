import Jack.Proofs.Variable.Slot

namespace Jack

/-- The names of one kind in one scope, the newest first. `offset` slots come before theirs. -/
structure Group where
  kind : VariableKind
  offset : Nat
  names : List String

namespace Group

def slot? (group : Group) (name : String) : Option Nat :=
  if name ∈ group.names then some (group.offset + slotIn group.names name) else none

def next (group : Group) : Nat :=
  group.offset + group.names.toFinset.card

def declare (group : Group) (name : String) : Group :=
  { group with names := name :: group.names }

end Group

def findSlot? (groups : List Group) (name : String) : Option (VariableKind × Nat) :=
  groups.findSome? fun group => (group.slot? name).map (group.kind, ·)

section

variable {names hidden : List String} {name : String}

theorem card_append (apart : names.Disjoint hidden) :
    (names ++ hidden).toFinset.card = names.toFinset.card + hidden.toFinset.card := by
  rw [List.toFinset_append, Finset.card_union_of_disjoint]
  exact List.disjoint_toFinset_iff_disjoint.mpr apart

theorem slotIn_append (apart : names.Disjoint hidden) (member : name ∈ names) :
    slotIn (names ++ hidden) name = hidden.toFinset.card + slotIn names name := by
  induction names with
  | nil => cases member
  | cons first older ih =>
    have rest : older.Disjoint hidden := (List.disjoint_cons_left.mp apart).2
    rw [List.cons_append]
    by_cases same : first = name
    · rw [slotIn, slotIn, if_pos same, if_pos same, card_append rest, Nat.add_comm]
    · rw [slotIn, slotIn, if_neg same, if_neg same]
      exact ih rest ((List.mem_cons.mp member).resolve_left (Ne.symm same))

end

/-- The log declares the names of the group with its kind. Before them it can only have declared the
object at hand, and takes the slots of the offset for that. -/
structure Group.Within (group : Group) (log : Log) (hidden : List String) : Prop where
  names : log.names group.kind = group.names ++ hidden
  offset : hidden.toFinset.card = group.offset
  object : ∀ name ∈ hidden, name = "this"
  written : "this" ∉ group.names

namespace Group.Within

variable {group : Group} {log : Log} {hidden : List String}

theorem of_names {kind : VariableKind} {names : List String} (own : log.names kind = names)
    (written : "this" ∉ names) : Group.Within ⟨kind, 0, names⟩ log [] :=
  ⟨own.trans (List.append_nil names).symm, rfl, by simp, written⟩

theorem apart (within : group.Within log hidden) : group.names.Disjoint hidden := by
  intro name own before
  rw [within.object name before] at own
  exact within.written own

theorem offset_le_one (within : group.Within log hidden) : group.offset ≤ 1 := by
  have only : hidden.toFinset ⊆ {"this"} := by
    intro name member
    exact Finset.mem_singleton.mpr (within.object name (List.mem_toFinset.mp member))
  have le := Finset.card_le_card only
  rw [within.offset] at le
  exact le

theorem count (within : group.Within log hidden) : log.count group.kind = group.next := by
  rw [Log.count, within.names, card_append within.apart, within.offset, Nat.add_comm, next]

theorem next_lt (within : group.Within log hidden) {bound : Nat}
    (few : group.names.length < bound) : group.next < bound + 1 := by
  have le := List.toFinset_card_le group.names
  have one := within.offset_le_one
  unfold next
  omega

theorem slot? (within : group.Within log hidden) (few : group.names.length < 65536) {name : String}
    (differ : name ≠ "this") :
    (log.latest? group.kind name).map (fun entry => (entry.kind, entry.index.toNat)) =
      (group.slot? name).map (group.kind, ·) := by
  have seen : name ∈ log.names group.kind ↔ name ∈ group.names := by
    rw [within.names, List.mem_append]
    exact or_iff_left fun before => differ (within.object name before)
  by_cases member : name ∈ group.names
  · obtain ⟨entry, found⟩ := Option.isSome_iff_exists.mp (Log.latest?_isSome.mpr (seen.mpr member))
    obtain ⟨kind, _, index⟩ := Log.latest?_eq found
    -- One slot for the object and one for each name keep the sum below the size of a word.
    have below := slotIn_lt_length member
    have one := within.offset_le_one
    rw [within.names, slotIn_append within.apart member, within.offset] at index
    have exactly : entry.index.toNat = group.offset + slotIn group.names name := by
      rw [index]
      exact UInt16.toNat_ofNat_of_lt (by rw [UInt16.size]; omega)
    simp [found, kind, exactly, Group.slot?, member]
  · have missing : log.latest? group.kind name = none := by
      rw [← Option.not_isSome_iff_eq_none, Log.latest?_isSome, seen]
      exact member
    simp [missing, Group.slot?, member]

end Group.Within

/-- A table finds for a name what the groups give, unless the name is that of the object at hand. -/
def VariableTable.Shows (names : VariableTable) (groups : List Group) : Prop :=
  ∀ name, name ≠ "this" →
    (names.lookup? name).map (fun entry => (entry.kind, entry.index.toNat)) = findSlot? groups name

theorem VariableTable.Records.shows {names : VariableTable} {log : Log} {groups : List Group}
    (records : names.Records log)
    (kinds : groups.map Group.kind = [.argument, .localVar, .static, .field])
    (all : ∀ group ∈ groups, ∃ hidden, group.Within log hidden)
    (few : ∀ group ∈ groups, group.names.length < 65536) : names.Shows groups := by
  intro name differ
  rw [records.lookup?, Log.lookup?, ← kinds, List.findSome?_map, List.map_findSome?, findSlot?,
    ← List.head?_filterMap, ← List.head?_filterMap]
  congr 1
  apply List.filterMap_congr
  intro group member
  obtain ⟨hidden, within⟩ := all group member
  exact within.slot? (few group member) differ

end Jack
