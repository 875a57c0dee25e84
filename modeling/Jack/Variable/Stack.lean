import Jack.Variable.Table

namespace Jack

structure ScopeStack where
  scopes : List Scope

namespace ScopeStack

def empty : ScopeStack :=
  ⟨[.empty .subroutineScope, .empty .classScope]⟩

def startSubroutine (stack : ScopeStack) : ScopeStack :=
  ⟨.empty .subroutineScope :: stack.scopes.filter (·.kind ≠ .subroutineScope)⟩

/-- The scopes inside the innermost one of a kind, and those from there outwards. -/
def splitAt (stack : ScopeStack) (kind : ScopeKind) : List Scope × List Scope :=
  stack.scopes.span (·.kind ≠ kind)

/-- Declares a name in the innermost scope for its kind, or in a new one if there is none. The slot of
the name comes with the stack. -/
def define (stack : ScopeStack) (name type : String) (kind : VariableKind) : UInt16 × ScopeStack :=
  match stack.splitAt kind.scope with
  | (inner, scope :: outer) => (scope.count kind, ⟨inner ++ scope.insert name type kind :: outer⟩)
  | (_, []) =>
    let scope := Scope.empty kind.scope
    (scope.count kind, ⟨scope.insert name type kind :: stack.scopes⟩)

def lookup? (stack : ScopeStack) (name : String) : Option Variable :=
  stack.scopes.findSome? (·.lookup? name)

def find (stack : ScopeStack) (name : String) : Except Cause Variable :=
  match stack.lookup? name with
  | some entry => .ok entry
  | none => .error (.undefinedSymbol name)

def kindOf? (stack : ScopeStack) (name : String) : Option VariableKind :=
  (stack.lookup? name).map (·.kind)

def typeOf (stack : ScopeStack) (name : String) : Except Cause String :=
  (stack.find name).map (·.type)

def indexOf (stack : ScopeStack) (name : String) : Except Cause UInt16 :=
  (stack.find name).map (·.index)

def resolve (stack : ScopeStack) (name : String) (offset : Nat) : Except Fault Variable :=
  (stack.find name).mapError (⟨·, offset⟩)

def count (stack : ScopeStack) (kind : VariableKind) : UInt16 :=
  match stack.scopes.find? (·.kind = kind.scope) with
  | some scope => scope.count kind
  | none => 0

def isEmpty (stack : ScopeStack) : Bool :=
  stack.scopes.all (·.isEmpty)

end ScopeStack

def VariableTable.toStack (table : VariableTable) : ScopeStack :=
  ⟨[table.subroutineScope, table.classScope]⟩

end Jack
