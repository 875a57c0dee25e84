import Jack.Variable.Basic
import Std.Data.TreeMap.Basic

namespace Jack

inductive ScopeKind where
  | classScope | subroutineScope
deriving DecidableEq, Repr

/-- The kinds a scope is searched for, in the order of the search. -/
def ScopeKind.kinds : ScopeKind → List VariableKind
  | classScope => [.static, .field]
  | subroutineScope => [.argument, .localVar]

def VariableKind.scope : VariableKind → ScopeKind
  | static | field => .classScope
  | argument | localVar => .subroutineScope

abbrev Bucket := Std.TreeMap String Variable

/-- One bucket for each kind. A scope can hold kinds that are not its own; the search passes them
over. -/
structure Scope where
  kind : ScopeKind
  static : Bucket
  field : Bucket
  argument : Bucket
  localVar : Bucket

namespace Scope

def empty (kind : ScopeKind) : Scope :=
  ⟨kind, ∅, ∅, ∅, ∅⟩

def bucket (scope : Scope) : VariableKind → Bucket
  | .static => scope.static
  | .field => scope.field
  | .argument => scope.argument
  | .localVar => scope.localVar

def setBucket (scope : Scope) (kind : VariableKind) (bucket : Bucket) : Scope :=
  match kind with
  | .static => { scope with static := bucket }
  | .field => { scope with field := bucket }
  | .argument => { scope with argument := bucket }
  | .localVar => { scope with localVar := bucket }

@[simp] theorem bucket_setBucket_same (scope : Scope) (kind : VariableKind) (bucket : Bucket) :
    (scope.setBucket kind bucket).bucket kind = bucket := by
  cases kind <;> rfl

theorem bucket_setBucket_other (scope : Scope) {kind other : VariableKind} (bucket : Bucket)
    (differ : other ≠ kind) : (scope.setBucket kind bucket).bucket other = scope.bucket other := by
  cases kind <;> cases other <;> first | rfl | exact absurd rfl differ

/-- The number of names of a kind, modulo 2^16. -/
def count (scope : Scope) (kind : VariableKind) : UInt16 :=
  (scope.bucket kind).size.toUInt16

/-- Declares a name: its slot is the number of names of its kind before. A name declared again
keeps only its newest declaration. -/
def insert (scope : Scope) (name type : String) (kind : VariableKind) : Scope :=
  scope.setBucket kind ((scope.bucket kind).insert name ⟨name, type, kind, scope.count kind⟩)

def lookup? (scope : Scope) (name : String) : Option Variable :=
  scope.kind.kinds.findSome? fun kind => (scope.bucket kind)[name]?

def isEmpty (scope : Scope) : Bool :=
  scope.static.isEmpty && scope.field.isEmpty && scope.argument.isEmpty && scope.localVar.isEmpty

end Scope

end Jack
