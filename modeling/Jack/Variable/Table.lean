import Jack.Fault
import Jack.Variable.Scope

namespace Jack

structure VariableTable where
  classScope : Scope
  subroutineScope : Scope

namespace VariableTable

def empty : VariableTable :=
  ⟨.empty .classScope, .empty .subroutineScope⟩

/-- Forgets the arguments and locals of the subroutine before. -/
def startSubroutine (table : VariableTable) : VariableTable :=
  { table with subroutineScope := .empty .subroutineScope }

def scope (table : VariableTable) : ScopeKind → Scope
  | .classScope => table.classScope
  | .subroutineScope => table.subroutineScope

/-- The number of names of a kind, which is also the slot of the next one. -/
def count (table : VariableTable) (kind : VariableKind) : UInt16 :=
  (table.scope kind.scope).count kind

def define (table : VariableTable) (name type : String) (kind : VariableKind) : VariableTable :=
  match kind.scope with
  | .classScope => { table with classScope := table.classScope.insert name type kind }
  | .subroutineScope => { table with subroutineScope := table.subroutineScope.insert name type kind }

/-- The variable a name stands for. The subroutine hides the class. -/
def lookup? (table : VariableTable) (name : String) : Option Variable :=
  match table.subroutineScope.lookup? name with
  | some entry => some entry
  | none => table.classScope.lookup? name

def find (table : VariableTable) (name : String) : Except Cause Variable :=
  match table.lookup? name with
  | some entry => .ok entry
  | none => .error (.undefinedSymbol name)

def kindOf? (table : VariableTable) (name : String) : Option VariableKind :=
  (table.lookup? name).map (·.kind)

def typeOf (table : VariableTable) (name : String) : Except Cause String :=
  (table.find name).map (·.type)

def indexOf (table : VariableTable) (name : String) : Except Cause UInt16 :=
  (table.find name).map (·.index)

def resolve (table : VariableTable) (name : String) (offset : Nat) : Except Fault Variable :=
  (table.find name).mapError (⟨·, offset⟩)

def isEmpty (table : VariableTable) : Bool :=
  table.classScope.isEmpty && table.subroutineScope.isEmpty

end VariableTable

end Jack
