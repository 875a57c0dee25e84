namespace Jack

inductive VariableKind where
  | static | field | argument | localVar
deriving DecidableEq, Repr

namespace VariableKind

def text : VariableKind → String
  | static => "static"
  | field => "field"
  | argument => "argument"
  | localVar => "local"

end VariableKind

structure Variable where
  name : String
  type : String
  kind : VariableKind
  index : UInt16
deriving DecidableEq, Repr

end Jack
