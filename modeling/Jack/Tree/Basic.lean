import Jack.Token.Basic
import Jack.Variable.Basic

namespace Jack

inductive Category where
  | static | field | argument | localVar | className | subroutine
deriving DecidableEq, Repr

namespace Category

def text : Category → String
  | static => "static"
  | field => "field"
  | argument => "argument"
  | localVar => "local"
  | className => "class"
  | subroutine => "subroutine"

def ofVariable : VariableKind → Category
  | .static => static
  | .field => field
  | .argument => argument
  | .localVar => localVar

end Category

structure Resolution where
  category : Category
  isDeclaration : Bool
  index : Option UInt16
deriving DecidableEq, Repr

namespace Resolution

def ofVariable (kind : VariableKind) (isDeclaration : Bool) (index : UInt16) : Resolution :=
  ⟨.ofVariable kind, isDeclaration, some index⟩

def className (isDeclaration : Bool) : Resolution :=
  ⟨.className, isDeclaration, none⟩

def subroutine (isDeclaration : Bool) : Resolution :=
  ⟨.subroutine, isDeclaration, none⟩

end Resolution

structure Leaf where
  token : Token
  resolution? : Option Resolution
deriving DecidableEq, Repr

inductive Production where
  | classDec | classVarDec | subroutineDec | parameterList | subroutineBody | varDec | statements
  | letStatement | ifStatement | whileStatement | doStatement | returnStatement
  | expression | term | expressionList
deriving DecidableEq, Repr

namespace Production

def tag : Production → String
  | classDec => "class"
  | classVarDec => "classVarDec"
  | subroutineDec => "subroutineDec"
  | parameterList => "parameterList"
  | subroutineBody => "subroutineBody"
  | varDec => "varDec"
  | statements => "statements"
  | letStatement => "letStatement"
  | ifStatement => "ifStatement"
  | whileStatement => "whileStatement"
  | doStatement => "doStatement"
  | returnStatement => "returnStatement"
  | expression => "expression"
  | term => "term"
  | expressionList => "expressionList"

end Production

inductive Node where
  | leaf (leaf : Leaf)
  | branch (production : Production) (children : List Node)
deriving Repr

namespace Node

def token (token : Token) : Node :=
  leaf ⟨token, none⟩

def name (token : Token) (resolution : Resolution) : Node :=
  leaf ⟨token, some resolution⟩

def production? : Node → Option Production
  | leaf _ => none
  | branch production _ => some production

def children : Node → List Node
  | leaf _ => []
  | branch _ children => children

def isLeaf : Node → Bool
  | leaf _ => true
  | branch _ _ => false

mutual

def leaves : Node → List Leaf
  | leaf found => [found]
  | branch _ children => leavesOfAll children

def leavesOfAll : List Node → List Leaf
  | [] => []
  | node :: nodes => node.leaves ++ leavesOfAll nodes

end

mutual

/-- Every branch of a production, a branch before those inside it. -/
def findAll (wanted : Production) : Node → List Node
  | leaf _ => []
  | branch production children =>
    if production = wanted then branch production children :: findAllIn wanted children
    else findAllIn wanted children

def findAllIn (wanted : Production) : List Node → List Node
  | [] => []
  | node :: nodes => node.findAll wanted ++ findAllIn wanted nodes

end

def tokens (node : Node) : List Token :=
  node.leaves.map (·.token)

def resolved (node : Node) : List Leaf :=
  node.leaves.filter (·.resolution?.isSome)

end Node

end Jack
