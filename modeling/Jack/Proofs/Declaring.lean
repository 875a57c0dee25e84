import Jack.Proofs.Variable.History
import Jack.Proofs.Variable.Stack

namespace Jack

namespace VariableTable

/-- The table was made by a history. The buckets that no search comes to are empty. -/
structure Follows (history : List TableEvent) (table : VariableTable) : Prop where
  records : table.Records (logOf (liveEntries history))
  slotted : Slotted (liveEntries history)
  foreign : ∀ scope kind, VariableKind.scope kind ≠ scope → ((table.scope scope).bucket kind).isEmpty

theorem bucket_define_foreign (table : VariableTable) (name type : String) (kind : VariableKind)
    {scope : ScopeKind} {other : VariableKind} (foreign : other.scope ≠ scope) :
    ((table.define name type kind).scope scope).bucket other = (table.scope scope).bucket other := by
  cases kind <;> cases scope <;> cases other <;> first | rfl | exact absurd rfl foreign

namespace Follows

variable {history : List TableEvent} {table : VariableTable}

theorem shaped (follows : table.Follows history) : table.Shaped :=
  ⟨follows.records.classKind, follows.records.subroutineKind⟩

theorem empty : VariableTable.empty.Follows [] := by
  refine ⟨empty_records, trivial, ?_⟩
  intro scope kind _
  cases scope <;> cases kind <;> exact Std.TreeMap.isEmpty_emptyc

theorem define (follows : table.Follows history) (name type : String) (kind : VariableKind) :
    (table.define name type kind).Follows
      (.defined ⟨name, type, kind, table.count kind⟩ :: history) := by
  refine ⟨?_, ?_, ?_⟩
  · rw [liveEntries_defined]
    exact follows.records.define name type kind
  · rw [liveEntries_defined]
    exact ⟨follows.records.count kind, follows.slotted⟩
  · intro scope other foreign
    rw [bucket_define_foreign table name type kind foreign]
    exact follows.foreign scope other foreign

theorem startSubroutine (follows : table.Follows history) :
    table.startSubroutine.Follows (.started :: history) := by
  refine ⟨?_, ?_, ?_⟩
  · rw [liveEntries_started, logOf_ofClass]
    exact follows.records.startSubroutine
  · rw [liveEntries_started]
    exact follows.slotted.ofClass
  · intro scope kind foreign
    cases scope with
    | classScope => exact follows.foreign .classScope kind foreign
    | subroutineScope => exact Follows.empty.foreign .subroutineScope kind foreign

theorem step (follows : table.Follows history) (operation : TableOperation) :
    (table.step operation).2.Follows ((table.step operation).1 :: history) := by
  cases operation with
  | define name type kind => exact follows.define name type kind
  | startSubroutine => exact follows.startSubroutine

theorem run (operations : List TableOperation) :
    let session := Session.run VariableTable.step .empty operations
    session.state.Follows session.history := by
  refine Session.run_induction (motive := fun (session : Session TableEvent VariableTable) =>
    session.state.Follows session.history) Follows.empty ?_ operations
  intro session operation follows
  exact follows.step operation

theorem bucket_isEmpty (follows : table.Follows history) (kind : VariableKind) :
    (table.bucket kind).isEmpty ↔ ∀ entry ∈ liveEntries history, entry.kind ≠ kind := by
  rw [Std.TreeMap.isEmpty_eq_size_eq_zero, follows.records.size, beq_iff_eq, Log.count,
    Finset.card_eq_zero, List.toFinset_eq_empty_iff, names_logOf, List.map_eq_nil_iff,
    List.filter_eq_nil_iff]
  simp

theorem isEmpty (follows : table.Follows history) :
    table.isEmpty ↔ liveEntries history = [] := by
  have classArgument := follows.foreign .classScope .argument (by decide)
  have classLocal := follows.foreign .classScope .localVar (by decide)
  have subroutineStatic := follows.foreign .subroutineScope .static (by decide)
  have subroutineField := follows.foreign .subroutineScope .field (by decide)
  have buckets : table.isEmpty ↔ ∀ kind, (table.bucket kind).isEmpty := by
    simp only [VariableTable.isEmpty, Scope.isEmpty, Bool.and_eq_true]
    constructor
    · rintro ⟨⟨⟨⟨static, field⟩, _⟩, _⟩, ⟨_, argument⟩, localVar⟩ kind
      cases kind <;> assumption
    · intro own
      exact ⟨⟨⟨⟨own .static, own .field⟩, classArgument⟩, classLocal⟩,
        ⟨⟨subroutineStatic, subroutineField⟩, own .argument⟩, own .localVar⟩
  simp only [buckets, follows.bucket_isEmpty]
  rw [List.eq_nil_iff_forall_not_mem]
  constructor
  · intro noEntry entry member
    exact noEntry entry.kind entry member rfl
  · intro noEntry kind entry member _
    exact noEntry entry member

end Follows

end VariableTable

namespace VariableTable

theorem Shaped.step (operation : TableOperation) (table : VariableTable) (shaped : table.Shaped) :
    (table.step operation).2.Shaped := by
  cases operation with
  | define name type kind => exact shaped.define name type kind
  | startSubroutine => exact shaped.startSubroutine

theorem step_toStack (operation : TableOperation) (table : VariableTable) (shaped : table.Shaped) :
    table.toStack.step operation = ((table.step operation).1, (table.step operation).2.toStack) := by
  cases operation with
  | define name type kind => rw [ScopeStack.step, define_toStack shaped, step]
  | startSubroutine => rw [ScopeStack.step, startSubroutine_toStack shaped, step]

end VariableTable

def liveNames (history : List TableEvent) (kind : VariableKind) : List String :=
  ((liveEntries history).filter (·.kind = kind)).map (·.name)

theorem liveNames_eq (history : List TableEvent) (kind : VariableKind) :
    liveNames history kind = (logOf (liveEntries history)).names kind :=
  (names_logOf (liveEntries history) kind).symm

structure ScopeStack.Follows (history : List TableEvent) (stack : ScopeStack) : Prop where
  shape : ∃ subroutineScope classScope, stack.scopes = [subroutineScope, classScope] ∧
    subroutineScope.kind = .subroutineScope ∧ classScope.kind = .classScope
  /-- No declaration opens a scope. -/
  placed : ∀ kind, (stack.splitAt kind).2 ≠ []
  define : ∀ name type kind,
    (stack.define name type kind).1 = (liveNames history kind).toFinset.card.toUInt16
  count : ∀ kind, stack.count kind = (liveNames history kind).toFinset.card.toUInt16
  lookup : ∀ name, stack.lookup? name =
    [.argument, .localVar, .static, .field].findSome? fun kind =>
      (liveEntries history).find? fun entry => entry.kind = kind ∧ entry.name = name
  found : ∀ name entry, stack.lookup? name = some entry → stack.Knows name entry
  missing : ∀ name, stack.lookup? name = none → stack.Denies name
  live : ∀ name, (stack.lookup? name).isSome ↔ ∃ entry ∈ liveEntries history, entry.name = name
  isEmpty : stack.isEmpty ↔ liveEntries history = []
  slots : ∀ kind, (liveNames history kind).Nodup → (liveNames history kind).length ≤ 65536 →
    (((liveEntries history).filter (·.kind = kind)).map (·.index.toNat)).reverse =
      List.range (liveNames history kind).length

namespace VariableTable.Follows

variable {history : List TableEvent} {table : VariableTable}

theorem count (follows : table.Follows history) (kind : VariableKind) :
    table.count kind = (liveNames history kind).toFinset.card.toUInt16 := by
  rw [follows.records.count, liveNames_eq]
  rfl

theorem lookup?_toStack (follows : table.Follows history) (name : String) :
    table.toStack.lookup? name = (logOf (liveEntries history)).lookup? name := by
  rw [VariableTable.lookup?_toStack, follows.records.lookup?]

theorem toStack (follows : table.Follows history) : table.toStack.Follows history where
  shape := ⟨table.subroutineScope, table.classScope, rfl, follows.shaped.subroutineKind,
    follows.shaped.classKind⟩
  placed := splitAt_ne_nil follows.shaped
  define name type kind := by
    rw [define_toStack follows.shaped, follows.count]
  count kind := by
    rw [count_toStack follows.shaped, follows.count]
  lookup name := by
    rw [follows.lookup?_toStack, Log.lookup?]
    simp only [follows.slotted.latest?_logOf]
  found _ _ := ScopeStack.knows_of_lookup?
  missing _ := ScopeStack.denies_of_lookup?
  live name := by
    rw [follows.lookup?_toStack, Log.lookup?_isSome]
    simp [logOf, Variable.declaration]
  isEmpty := by
    rw [isEmpty_toStack]
    exact follows.isEmpty
  slots kind nodup few := by
    rw [liveNames_eq] at nodup
    rw [liveNames, List.length_map] at few ⊢
    have slots := congrArg (List.map UInt16.toNat) (follows.slotted.slots_of_nodup nodup)
    rw [map_toNat_range few, List.map_reverse, List.map_map] at slots
    exact slots

end VariableTable.Follows

/-- A stack of scopes says what a plain log of the definitions says, and it always has a scope for the
class with one for the subroutine inside. The pair of scopes that classes are read with answers alike. -/
theorem stack_follows_definitions (operations : List TableOperation) :
    let session := Session.run ScopeStack.step .empty operations
    session.state.Follows session.history ∧
      ∃ table, Session.run VariableTable.step .empty operations = ⟨session.history, table⟩ ∧
        table.Answers session.state := by
  have stack : Session.run ScopeStack.step .empty operations =
      (Session.run VariableTable.step .empty operations).map VariableTable.toStack :=
    Session.run_map (P := VariableTable.Shaped) .empty VariableTable.shaped_empty
      VariableTable.Shaped.step VariableTable.step_toStack operations
  have follows := VariableTable.Follows.run operations
  rw [stack]
  exact ⟨follows.toStack, _, rfl, VariableTable.answers_toStack follows.shaped⟩

end Jack
