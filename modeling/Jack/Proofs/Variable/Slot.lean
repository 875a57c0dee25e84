import Jack.Proofs.Variable.Log

namespace Jack

def slotIn : List String → String → Nat
  | [], _ => 0
  | first :: older, name => if first = name then older.toFinset.card else slotIn older name

section

variable {names : List String} {name other : String}

theorem slotIn_lt_length (member : name ∈ names) : slotIn names name < names.length := by
  induction names with
  | nil => cases member
  | cons first older ih =>
    have all := List.toFinset_card_le older
    by_cases same : first = name
    · rw [slotIn, if_pos same, List.length_cons]
      omega
    · have below := ih ((List.mem_cons.mp member).resolve_left (Ne.symm same))
      rw [slotIn, if_neg same, List.length_cons]
      omega

/-- Every name has a slot of its own, below the number of different names. -/
structure OwnSlots (names : List String) : Prop where
  below : ∀ name ∈ names, slotIn names name < names.toFinset.card
  apart : ∀ name ∈ names, ∀ other ∈ names, slotIn names name = slotIn names other → name = other

theorem slotIn_of_nodup (nodup : names.Nodup) (member : name ∈ names) :
    slotIn names name + names.idxOf name + 1 = names.length := by
  induction names with
  | nil => cases member
  | cons first older ih =>
    obtain ⟨new, rest⟩ := List.nodup_cons.mp nodup
    by_cases same : first = name
    · have all := List.toFinset_card_of_nodup rest
      rw [slotIn, if_pos same, List.length_cons, same, List.idxOf_cons_self]
      omega
    · have below := ih rest ((List.mem_cons.mp member).resolve_left (Ne.symm same))
      rw [slotIn, if_neg same, List.length_cons, List.idxOf_cons_ne _ same]
      omega

theorem ownSlots_of_nodup (nodup : names.Nodup) : OwnSlots names := by
  have all := List.toFinset_card_of_nodup nodup
  refine ⟨?_, ?_⟩
  · intro name member
    have place := slotIn_of_nodup nodup member
    omega
  · intro name member other memberOther same
    have place := slotIn_of_nodup nodup member
    have placeOther := slotIn_of_nodup nodup memberOther
    have index : names.idxOf name = names.idxOf other := by omega
    exact (List.idxOf_inj member).mp index

/-- A name declared again gets a slot beyond the last one, and the next new name gets that slot too. -/
theorem nodup_of_ownSlots (own : OwnSlots names) : names.Nodup := by
  induction names with
  | nil => exact List.nodup_nil
  | cons first older ih =>
    have top : slotIn (first :: older) first = older.toFinset.card := by
      rw [slotIn, if_pos rfl]
    -- If the first name stood among the older ones, its slot would be their number, which is out of range.
    have new : first ∉ older := by
      intro again
      have below := own.below first (by simp)
      rw [top, List.toFinset_cons, Finset.insert_eq_of_mem (by simpa using again)] at below
      omega
    have older_of : ∀ name ∈ older, slotIn (first :: older) name = slotIn older name := by
      intro name member
      have differ : first ≠ name := fun same => new (same ▸ member)
      rw [slotIn, if_neg differ]
    refine List.nodup_cons.mpr ⟨new, ih ⟨?_, ?_⟩⟩
    · intro name member
      have below := own.below name (List.mem_cons_of_mem _ member)
      have apart := own.apart name (List.mem_cons_of_mem _ member) first (by simp)
      rw [List.toFinset_cons, Finset.card_insert_of_notMem (by simpa using new),
        older_of name member] at below
      have noTop : slotIn older name ≠ older.toFinset.card := by
        intro same
        rw [older_of name member, top] at apart
        exact new (apart same ▸ member)
      omega
    · intro name member other memberOther same
      apply own.apart name (List.mem_cons_of_mem _ member) other (List.mem_cons_of_mem _ memberOther)
      rw [older_of name member, older_of other memberOther, same]

theorem ownSlots_iff_nodup : OwnSlots names ↔ names.Nodup :=
  ⟨nodup_of_ownSlots, ownSlots_of_nodup⟩

end

namespace Log

variable {log : Log} {kind : VariableKind} {name : String} {entry : Variable}

theorem latest?_eq (found : log.latest? kind name = some entry) :
    entry.kind = kind ∧ name ∈ log.names kind ∧
      entry.index = (slotIn (log.names kind) name).toUInt16 := by
  induction log with
  | nil => cases found
  | cons declaration older ih =>
    unfold latest? at found
    split at found
    · rename_i same
      obtain ⟨sameKind, sameName⟩ := same
      obtain ⟨first, type, kind'⟩ := declaration
      subst sameKind sameName
      cases found
      rw [names_cons_same, slotIn, if_pos rfl]
      exact ⟨rfl, by simp, rfl⟩
    · rename_i differ
      obtain ⟨sameKind, member, index⟩ := ih found
      by_cases isKind : declaration.kind = kind
      · obtain ⟨first, type, kind'⟩ := declaration
        subst isKind
        have other : first ≠ name := fun same => differ ⟨rfl, same⟩
        rw [names_cons_same, slotIn, if_neg other]
        exact ⟨sameKind, List.mem_cons_of_mem _ member, index⟩
      · rw [names_cons_other older declaration isKind]
        exact ⟨sameKind, member, index⟩

theorem latest?_of_lookup? (found : log.lookup? name = some entry) :
    log.latest? entry.kind name = some entry := by
  obtain ⟨kind, _, latest⟩ := List.exists_of_findSome?_eq_some found
  rwa [(latest?_eq latest).1]

end Log

end Jack
