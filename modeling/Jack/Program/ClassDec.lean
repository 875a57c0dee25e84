import Jack.Program.Statement

namespace Jack

inductive TypeName where
  | builtin (token : Token)
  | className (name : Name)
deriving Repr

namespace TypeName

def text : TypeName → String
  | builtin token => token.text
  | className name => name.token.text

def node : TypeName → Node
  | builtin token => .token token
  | className name => name.node

end TypeName

structure VariableDec where
  keyword : Token
  type : TypeName
  names : List (Name × Token)
deriving Repr

def VariableDec.node (production : Production) (declaration : VariableDec) : Node :=
  .branch production
    (.token declaration.keyword :: declaration.type.node ::
      declaration.names.flatMap fun (name, separator) => [name.node, .token separator])

structure Parameter where
  type : TypeName
  name : Name
  comma? : Option Token
deriving Repr

def Parameter.nodes (parameter : Parameter) : List Node :=
  parameter.type.node :: parameter.name.node :: (parameter.comma?.map Node.token).toList

inductive SubroutineKind where
  | ctor | function | method
deriving DecidableEq, Repr

namespace SubroutineKind

def ofKind? : LexemeKind → Option SubroutineKind
  | .keyword .constructorKw => some ctor
  | .keyword .functionKw => some function
  | .keyword .methodKw => some method
  | _ => none

/-- What a subroutine does before its statements: a constructor makes room for the fields, a method
takes its first argument for the object at hand. -/
def prologue (fieldCount : UInt16) : SubroutineKind → List Instruction
  | ctor => [.push .constant fieldCount, .call "Memory.alloc" 1, .pop .pointer 0]
  | function => []
  | method => [.push .argument 0, .pop .pointer 0]

end SubroutineKind

structure SubroutineBody where
  opening : Token
  locals : List VariableDec
  statements : List Statement
  closing : Token
deriving Repr

def SubroutineBody.node (body : SubroutineBody) : Node :=
  .branch .subroutineBody
    (.token body.opening :: (body.locals.map (VariableDec.node .varDec) ++
      [.branch .statements (statementNodes body.statements), .token body.closing]))

structure Subroutine where
  keyword : Token
  kind : SubroutineKind
  returnType : TypeName
  name : Name
  opening : Token
  parameters : List Parameter
  closing : Token
  body : SubroutineBody
deriving Repr

def Subroutine.node (subroutine : Subroutine) : Node :=
  .branch .subroutineDec
    [.token subroutine.keyword, subroutine.returnType.node, subroutine.name.node,
      .token subroutine.opening,
      .branch .parameterList (subroutine.parameters.flatMap Parameter.nodes),
      .token subroutine.closing, subroutine.body.node]

structure ClassDec where
  keyword : Token
  name : Name
  opening : Token
  declarations : List VariableDec
  subroutines : List Subroutine
  closing : Token
deriving Repr

def ClassDec.node (declaration : ClassDec) : Node :=
  .branch .classDec
    (.token declaration.keyword :: declaration.name.node :: .token declaration.opening ::
      (declaration.declarations.map (VariableDec.node .classVarDec) ++
        (declaration.subroutines.map Subroutine.node ++ [.token declaration.closing])))

end Jack
