import Mathlib.Data.List.TakeDrop
import Jack.Variable.Stack

namespace Jack

namespace VariableTable

structure Shaped (table : VariableTable) : Prop where
  classKind : table.classScope.kind = .classScope
  subroutineKind : table.subroutineScope.kind = .subroutineScope

theorem shaped_empty : empty.Shaped :=
  ⟨rfl, rfl⟩

variable {table : VariableTable}

theorem Shaped.define (shaped : table.Shaped) (name type : String) (kind : VariableKind) :
    (table.define name type kind).Shaped := by
  have classKind := shaped.classKind
  have subroutineKind := shaped.subroutineKind
  cases kind <;> exact ⟨classKind, subroutineKind⟩

theorem Shaped.startSubroutine (shaped : table.Shaped) : table.startSubroutine.Shaped :=
  ⟨shaped.classKind, rfl⟩

theorem splitAt_subroutineScope (shaped : table.Shaped) :
    table.toStack.splitAt .subroutineScope = ([], [table.subroutineScope, table.classScope]) := by
  rw [ScopeStack.splitAt, toStack, List.span_eq_takeWhile_dropWhile]
  simp [shaped.subroutineKind]

theorem splitAt_classScope (shaped : table.Shaped) :
    table.toStack.splitAt .classScope = ([table.subroutineScope], [table.classScope]) := by
  rw [ScopeStack.splitAt, toStack, List.span_eq_takeWhile_dropWhile]
  simp [shaped.subroutineKind, shaped.classKind]

theorem splitAt_ne_nil (shaped : table.Shaped) (kind : ScopeKind) :
    (table.toStack.splitAt kind).2 ≠ [] := by
  cases kind with
  | classScope => simp [splitAt_classScope shaped]
  | subroutineScope => simp [splitAt_subroutineScope shaped]

theorem define_toStack (shaped : table.Shaped) (name type : String) (kind : VariableKind) :
    table.toStack.define name type kind =
      (table.count kind, (table.define name type kind).toStack) := by
  have outer := splitAt_classScope shaped
  have inner := splitAt_subroutineScope shaped
  cases kind with
  | static => rw [ScopeStack.define, VariableKind.scope, outer]; rfl
  | field => rw [ScopeStack.define, VariableKind.scope, outer]; rfl
  | argument => rw [ScopeStack.define, VariableKind.scope, inner]; rfl
  | localVar => rw [ScopeStack.define, VariableKind.scope, inner]; rfl

theorem startSubroutine_toStack (shaped : table.Shaped) :
    table.toStack.startSubroutine = table.startSubroutine.toStack := by
  simp [ScopeStack.startSubroutine, toStack, startSubroutine, shaped.subroutineKind, shaped.classKind]

theorem lookup?_toStack (table : VariableTable) (name : String) :
    table.toStack.lookup? name = table.lookup? name := by
  simp only [ScopeStack.lookup?, toStack, lookup?, List.findSome?_cons, List.findSome?_nil]
  cases table.subroutineScope.lookup? name <;> cases table.classScope.lookup? name <;> rfl

theorem count_toStack (shaped : table.Shaped) (kind : VariableKind) :
    table.toStack.count kind = table.count kind := by
  cases kind <;>
    simp [ScopeStack.count, toStack, count, scope, VariableKind.scope, shaped.subroutineKind,
      shaped.classKind]

theorem isEmpty_toStack (table : VariableTable) : table.toStack.isEmpty = table.isEmpty := by
  simp [ScopeStack.isEmpty, toStack, isEmpty, Bool.and_comm]

theorem find_toStack (table : VariableTable) (name : String) :
    table.toStack.find name = table.find name := by
  rw [ScopeStack.find, lookup?_toStack]
  rfl

end VariableTable

structure VariableTable.Answers (table : VariableTable) (stack : ScopeStack) : Prop where
  lookup : ∀ name, table.lookup? name = stack.lookup? name
  kindOf : ∀ name, table.kindOf? name = stack.kindOf? name
  typeOf : ∀ name, table.typeOf name = stack.typeOf name
  indexOf : ∀ name, table.indexOf name = stack.indexOf name
  resolve : ∀ name offset, table.resolve name offset = stack.resolve name offset
  count : ∀ kind, table.count kind = stack.count kind
  isEmpty : table.isEmpty = stack.isEmpty

theorem VariableTable.answers_toStack {table : VariableTable} (shaped : table.Shaped) :
    table.Answers table.toStack where
  lookup name := (table.lookup?_toStack name).symm
  kindOf name := by rw [kindOf?, ScopeStack.kindOf?, lookup?_toStack]
  typeOf name := by rw [typeOf, ScopeStack.typeOf, find_toStack]
  indexOf name := by rw [indexOf, ScopeStack.indexOf, find_toStack]
  resolve name offset := by rw [resolve, ScopeStack.resolve, find_toStack]
  count kind := (count_toStack shaped kind).symm
  isEmpty := table.isEmpty_toStack.symm

namespace ScopeStack

variable {stack : ScopeStack} {name : String}

structure Knows (stack : ScopeStack) (name : String) (entry : Variable) : Prop where
  kindOf : stack.kindOf? name = some entry.kind
  typeOf : stack.typeOf name = .ok entry.type
  indexOf : stack.indexOf name = .ok entry.index
  resolve : ∀ offset, stack.resolve name offset = .ok entry

structure Denies (stack : ScopeStack) (name : String) : Prop where
  kindOf : stack.kindOf? name = none
  typeOf : stack.typeOf name = .error (.undefinedSymbol name)
  indexOf : stack.indexOf name = .error (.undefinedSymbol name)
  resolve : ∀ offset, stack.resolve name offset = .error ⟨.undefinedSymbol name, offset⟩

theorem knows_of_lookup? {entry : Variable} (found : stack.lookup? name = some entry) :
    stack.Knows name entry := by
  have same : stack.find name = .ok entry := by
    rw [find, found]
  constructor
  · rw [kindOf?, found, Option.map_some]
  · rw [typeOf, same]
    rfl
  · rw [indexOf, same]
    rfl
  · intro offset
    rw [resolve, same]
    rfl

theorem denies_of_lookup? (missing : stack.lookup? name = none) : stack.Denies name := by
  have same : stack.find name = .error (.undefinedSymbol name) := by
    rw [find, missing]
  constructor
  · rw [kindOf?, missing, Option.map_none]
  · rw [typeOf, same]
    rfl
  · rw [indexOf, same]
    rfl
  · intro offset
    rw [resolve, same]
    rfl

end ScopeStack

end Jack
