import Jack.Variable.Table
import Mathlib.Data.Finset.Card
import Std.Data.TreeMap.Lemmas

namespace Jack

structure Declaration where
  name : String
  type : String
  kind : VariableKind
deriving DecidableEq, Repr

/-- Declarations, the newest first. -/
abbrev Log := List Declaration

namespace Log

def names (log : Log) (kind : VariableKind) : List String :=
  (log.filter (·.kind = kind)).map (·.name)

def count (log : Log) (kind : VariableKind) : Nat :=
  (log.names kind).toFinset.card

/-- The newest declaration of a name with a kind. Its slot is the number of different names of the
kind that were declared before it. -/
def latest? (kind : VariableKind) (name : String) : Log → Option Variable
  | [] => none
  | declaration :: older =>
    if declaration.kind = kind ∧ declaration.name = name then
      some ⟨name, declaration.type, kind, (count older kind).toUInt16⟩
    else latest? kind name older

/-- The variable a name stands for: arguments hide locals, and both hide the variables of the class. -/
def lookup? (log : Log) (name : String) : Option Variable :=
  [.argument, .localVar, .static, .field].findSome? (log.latest? · name)

def ofClass (log : Log) : Log :=
  log.filter (·.kind.scope = .classScope)

theorem mem_names {log : Log} {kind : VariableKind} {name : String} :
    name ∈ log.names kind ↔ ∃ declaration ∈ log, declaration.kind = kind ∧ declaration.name = name := by
  simp [names, and_assoc]

theorem names_cons_same (log : Log) (name type : String) (kind : VariableKind) :
    names (⟨name, type, kind⟩ :: log) kind = name :: log.names kind := by
  simp [names]

theorem names_cons_other (log : Log) (declaration : Declaration) {kind : VariableKind}
    (differ : declaration.kind ≠ kind) : names (declaration :: log) kind = log.names kind := by
  simp [names, differ]

theorem names_append (log older : Log) (kind : VariableKind) :
    names (log ++ older) kind = log.names kind ++ older.names kind := by
  simp [names]

theorem names_reverse (log : Log) (kind : VariableKind) :
    names log.reverse kind = (log.names kind).reverse := by
  simp [names]

theorem names_eq_nil {log : Log} {kind : VariableKind} (other : ∀ new ∈ log, new.kind ≠ kind) :
    log.names kind = [] := by
  rw [names, List.map_eq_nil_iff, List.filter_eq_nil_iff]
  intro new member same
  exact other new member (of_decide_eq_true same)

theorem names_eq_map {log : Log} {kind : VariableKind} (all : ∀ new ∈ log, new.kind = kind) :
    log.names kind = log.map (·.name) := by
  rw [names, List.filter_eq_self.mpr]
  intro new member
  exact decide_eq_true (all new member)

theorem count_cons_known {log : Log} {name type : String} {kind : VariableKind}
    (known : name ∈ log.names kind) : count (⟨name, type, kind⟩ :: log) kind = log.count kind := by
  rw [count, names_cons_same, List.toFinset_cons, Finset.insert_eq_of_mem (by simpa using known)]
  rfl

theorem count_cons_new {log : Log} {name type : String} {kind : VariableKind}
    (new : name ∉ log.names kind) : count (⟨name, type, kind⟩ :: log) kind = log.count kind + 1 := by
  rw [count, names_cons_same, List.toFinset_cons, Finset.card_insert_of_notMem (by simpa using new)]
  rfl

theorem count_cons_other (log : Log) (declaration : Declaration) {kind : VariableKind}
    (differ : declaration.kind ≠ kind) : count (declaration :: log) kind = log.count kind := by
  rw [count, names_cons_other log declaration differ]
  rfl

theorem latest?_isSome {log : Log} {kind : VariableKind} {name : String} :
    (log.latest? kind name).isSome ↔ name ∈ log.names kind := by
  induction log with
  | nil => simp [latest?, names]
  | cons declaration older ih =>
    unfold latest?
    split
    · rename_i same
      simp only [Option.isSome_some, true_iff]
      exact mem_names.mpr ⟨declaration, by simp, same⟩
    · rename_i differ
      rw [ih, mem_names, mem_names]
      simp [differ]

theorem lookup?_isSome {log : Log} {name : String} :
    (log.lookup? name).isSome ↔ name ∈ log.map (·.name) := by
  simp only [lookup?, List.findSome?_isSome_iff, latest?_isSome, mem_names, List.mem_map]
  constructor
  · intro seen
    obtain ⟨kind, _, declaration, member, _, same⟩ := seen
    exact ⟨declaration, member, same⟩
  · intro seen
    obtain ⟨declaration, member, same⟩ := seen
    refine ⟨declaration.kind, ?_, declaration, member, rfl, same⟩
    cases declaration.kind <;> simp

theorem names_ofClass (log : Log) {kind : VariableKind} (lasting : kind.scope = .classScope) :
    log.ofClass.names kind = log.names kind := by
  unfold names ofClass
  rw [List.filter_filter]
  congr 2
  funext declaration
  by_cases same : declaration.kind = kind <;> simp [same, lasting]

theorem names_ofClass_short (log : Log) {kind : VariableKind} (short : kind.scope ≠ .classScope) :
    log.ofClass.names kind = [] := by
  rw [names, List.map_eq_nil_iff, List.filter_eq_nil_iff]
  intro declaration member same
  have lasting := (List.mem_filter.mp member).2
  simp only [decide_eq_true_eq] at same lasting
  exact short (same ▸ lasting)

theorem latest?_ofClass (log : Log) {kind : VariableKind} (name : String)
    (lasting : kind.scope = .classScope) : log.ofClass.latest? kind name = log.latest? kind name := by
  induction log with
  | nil => rfl
  | cons declaration older ih =>
    by_cases same : declaration.kind = kind
    · have kept : ofClass (declaration :: older) = declaration :: ofClass older := by
        simp [ofClass, same, lasting]
      rw [kept]
      simp only [latest?, count, names_ofClass older lasting, ih]
    · by_cases kept : declaration.kind.scope = .classScope
      · simp only [ofClass, List.filter_cons, kept, decide_true, if_true, latest?, same, false_and,
          if_false]
        exact ih
      · simp only [ofClass, List.filter_cons, kept, decide_false, Bool.false_eq_true, if_false,
          latest?, same, false_and]
        exact ih

end Log

namespace VariableTable

def declare (table : VariableTable) (declarations : List Declaration) : VariableTable :=
  declarations.foldl (fun table new => table.define new.name new.type new.kind) table

@[simp] theorem declare_nil (table : VariableTable) : table.declare [] = table := rfl

@[simp] theorem declare_append (table : VariableTable) (first later : List Declaration) :
    table.declare (first ++ later) = (table.declare first).declare later :=
  List.foldl_append

def bucket (table : VariableTable) (kind : VariableKind) : Bucket :=
  (table.scope kind.scope).bucket kind

structure Records (table : VariableTable) (log : Log) : Prop where
  classKind : table.classScope.kind = .classScope
  subroutineKind : table.subroutineScope.kind = .subroutineScope
  latest : ∀ kind name, (table.bucket kind)[name]? = log.latest? kind name
  size : ∀ kind, (table.bucket kind).size = log.count kind

theorem empty_records : empty.Records [] := by
  refine ⟨rfl, rfl, ?_, ?_⟩
  · intro kind name
    cases kind <;> exact Std.TreeMap.getElem?_emptyc
  · intro kind
    cases kind <;> exact Std.TreeMap.size_emptyc

theorem bucket_define_same (table : VariableTable) (name type : String) (kind : VariableKind) :
    (table.define name type kind).bucket kind =
      (table.bucket kind).insert name ⟨name, type, kind, (table.bucket kind).size.toUInt16⟩ := by
  cases kind <;> rfl

theorem bucket_define_other (table : VariableTable) (name type : String)
    {kind other : VariableKind} (differ : other ≠ kind) :
    (table.define name type kind).bucket other = table.bucket other := by
  cases kind <;> cases other <;> first | rfl | exact absurd rfl differ

namespace Records

variable {table : VariableTable} {log : Log}

theorem define (records : table.Records log) (name type : String) (kind : VariableKind) :
    (table.define name type kind).Records (⟨name, type, kind⟩ :: log) := by
  have classKind := records.classKind
  have subroutineKind := records.subroutineKind
  refine ⟨?_, ?_, ?_, ?_⟩
  · cases kind <;> exact classKind
  · cases kind <;> exact subroutineKind
  · intro other wanted
    by_cases same : other = kind
    · subst same
      rw [bucket_define_same, Std.TreeMap.getElem?_insert, records.latest, records.size]
      by_cases found : name = wanted
      · simp [Log.latest?, found]
      · simp [Log.latest?, found, Std.LawfulEqCmp.compare_eq_iff_eq]
    · rw [bucket_define_other table name type same, records.latest]
      simp [Log.latest?, Ne.symm same]
  · intro other
    by_cases same : other = kind
    · subst same
      rw [bucket_define_same, Std.TreeMap.size_insert, Std.TreeMap.contains_eq_isSome_getElem?,
        records.latest, records.size]
      by_cases known : name ∈ log.names other
      · rw [Log.count_cons_known known, if_pos (Log.latest?_isSome.mpr known)]
      · rw [Log.count_cons_new known, if_neg (fun isSome => known (Log.latest?_isSome.mp isSome))]
    · rw [bucket_define_other table name type same, records.size,
        Log.count_cons_other log ⟨name, type, kind⟩ (Ne.symm same)]

theorem declare (records : table.Records log) (declarations : List Declaration) :
    (table.declare declarations).Records (declarations.reverse ++ log) := by
  induction declarations generalizing table log with
  | nil => exact records
  | cons new later ih =>
    have defined := ih (records.define new.name new.type new.kind)
    simpa [VariableTable.declare] using defined

theorem startSubroutine (records : table.Records log) : table.startSubroutine.Records log.ofClass := by
  have kept : ∀ kind : VariableKind, kind.scope = .classScope →
      table.startSubroutine.bucket kind = table.bucket kind := by
    intro kind lasting
    simp only [bucket, lasting]
    rfl
  refine ⟨records.classKind, rfl, ?_, ?_⟩
  · intro kind name
    by_cases lasting : kind.scope = .classScope
    · rw [kept kind lasting, records.latest, log.latest?_ofClass name lasting]
    · have missing : log.ofClass.latest? kind name = none := by
        rw [← Option.not_isSome_iff_eq_none, Log.latest?_isSome, log.names_ofClass_short lasting]
        simp
      rw [missing]
      cases kind <;> first | exact absurd rfl lasting | exact Std.TreeMap.getElem?_emptyc
  · intro kind
    by_cases lasting : kind.scope = .classScope
    · rw [kept kind lasting, records.size, Log.count, Log.count, log.names_ofClass lasting]
    · rw [Log.count, log.names_ofClass_short lasting]
      cases kind <;> first | exact absurd rfl lasting | exact Std.TreeMap.size_emptyc

theorem lookup? (records : table.Records log) (name : String) :
    table.lookup? name = log.lookup? name := by
  have argument := records.latest .argument name
  have localVar := records.latest .localVar name
  have static := records.latest .static name
  have field := records.latest .field name
  have classKind := records.classKind
  have subroutineKind := records.subroutineKind
  simp only [bucket, scope, VariableKind.scope, Scope.bucket] at argument localVar static field
  simp only [VariableTable.lookup?, Scope.lookup?, classKind, subroutineKind, ScopeKind.kinds,
    Log.lookup?, List.findSome?_cons, List.findSome?_nil, Scope.bucket, argument, localVar, static,
    field]
  cases log.latest? .argument name <;> cases log.latest? .localVar name <;> rfl

theorem count (records : table.Records log) (kind : VariableKind) :
    table.count kind = (log.count kind).toUInt16 := by
  rw [VariableTable.count, Scope.count, ← records.size kind]
  rfl

end Records

end VariableTable

end Jack
