import Jack.Program.Operator
import Jack.Tree.Basic

namespace Jack

structure Name where
  token : Token
  resolution : Resolution
deriving DecidableEq, Repr

namespace Name

def use (token : Token) (entry : Variable) : Name :=
  ⟨token, .ofVariable entry.kind false entry.index⟩

def node (name : Name) : Node :=
  .name name.token name.resolution

end Name

mutual

inductive Term where
  | constant (token : Token) (value : Constant)
  | use (name : Name)
  | element (array : Name) (opening : Token) (index : Expression) (closing : Token)
  | call (call : Call)
  | group (opening : Token) (inner : Expression) (closing : Token)
  | unary (token : Token) (operator : UnaryOperator) (operand : Term)
deriving Repr

/-- Operators have no precedence: an expression is the expression before its last operator, that
operator, and a term. -/
inductive Expression where
  | term (term : Term)
  | binary (left : Expression) (token : Token) (operator : BinaryOperator) (right : Term)
deriving Repr

inductive Call where
  | plain (subroutine : Name) (opening : Token) (arguments : Arguments) (closing : Token)
  | qualified (qualifier : Name) (dot : Token) (subroutine : Name) (opening : Token)
      (arguments : Arguments) (closing : Token)
deriving Repr

inductive Arguments where
  | none
  | one (value : Expression)
  | more (before : Arguments) (comma : Token) (value : Expression)
deriving Repr

end

def Arguments.count : Arguments → Nat
  | none => 0
  | one _ => 1
  | more before _ _ => before.count + 1

mutual

def Term.node : Term → Node
  | .constant token _ => .branch .term [.token token]
  | .use name => .branch .term [name.node]
  | .element array opening index closing =>
    .branch .term [array.node, .token opening, index.node, .token closing]
  | .call call => .branch .term call.nodes
  | .group opening inner closing => .branch .term [.token opening, inner.node, .token closing]
  | .unary token _ operand => .branch .term [.token token, operand.node]

def Expression.node : Expression → Node
  | .term term => .branch .expression [term.node]
  | .binary left token _ right =>
    .branch .expression (left.nodesBefore [.token token, right.node])

def Expression.nodesBefore : Expression → List Node → List Node
  | .term term, later => term.node :: later
  | .binary left token _ right, later => left.nodesBefore (.token token :: right.node :: later)

def Call.nodes : Call → List Node
  | .plain subroutine opening arguments closing =>
    [subroutine.node, .token opening, arguments.node, .token closing]
  | .qualified qualifier dot subroutine opening arguments closing =>
    [qualifier.node, .token dot, subroutine.node, .token opening, arguments.node, .token closing]

def Arguments.node : Arguments → Node
  | .none => .branch .expressionList []
  | .one value => .branch .expressionList [value.node]
  | .more before comma value =>
    .branch .expressionList (before.nodesBefore [.token comma, value.node])

def Arguments.nodesBefore : Arguments → List Node → List Node
  | .none, later => later
  | .one value, later => value.node :: later
  | .more before comma value, later => before.nodesBefore (.token comma :: value.node :: later)

end

end Jack
