import Jack.Program.Expression

namespace Jack

mutual

inductive Statement where
  | assign (keyword : Token) (target : Name) (equals : Token) (value : Expression)
      (semicolon : Token)
  | assignElement (keyword : Token) (array : Name) (opening : Token) (index : Expression)
      (closing equals : Token) (value : Expression) (semicolon : Token)
  | when (keyword opening : Token) (condition : Expression) (closing : Token) (body : Block)
  | whenElse (keyword opening : Token) (condition : Expression) (closing : Token) (body : Block)
      (elseKeyword : Token) (alternative : Block)
  | loop (keyword opening : Token) (condition : Expression) (closing : Token) (body : Block)
  | call (keyword : Token) (call : Call) (semicolon : Token)
  | leave (keyword semicolon : Token)
  | leaveWith (keyword : Token) (value : Expression) (semicolon : Token)
deriving Repr

inductive Block where
  | braces (opening : Token) (statements : List Statement) (closing : Token)
deriving Repr

end

mutual

def Statement.node : Statement → Node
  | .assign keyword target equals value semicolon =>
    .branch .letStatement
      [.token keyword, target.node, .token equals, value.node, .token semicolon]
  | .assignElement keyword array opening index closing equals value semicolon =>
    .branch .letStatement
      [.token keyword, array.node, .token opening, index.node, .token closing, .token equals,
        value.node, .token semicolon]
  | .when keyword opening condition closing body =>
    .branch .ifStatement
      (.token keyword :: .token opening :: condition.node :: .token closing :: body.nodes)
  | .whenElse keyword opening condition closing body elseKeyword alternative =>
    .branch .ifStatement
      (.token keyword :: .token opening :: condition.node :: .token closing ::
        (body.nodes ++ .token elseKeyword :: alternative.nodes))
  | .loop keyword opening condition closing body =>
    .branch .whileStatement
      (.token keyword :: .token opening :: condition.node :: .token closing :: body.nodes)
  | .call keyword call semicolon =>
    .branch .doStatement (.token keyword :: (call.nodes ++ [.token semicolon]))
  | .leave keyword semicolon => .branch .returnStatement [.token keyword, .token semicolon]
  | .leaveWith keyword value semicolon =>
    .branch .returnStatement [.token keyword, value.node, .token semicolon]

def Block.nodes : Block → List Node
  | .braces opening statements closing =>
    [.token opening, .branch .statements (statementNodes statements), .token closing]

def statementNodes : List Statement → List Node
  | [] => []
  | statement :: statements => statement.node :: statementNodes statements

end

end Jack
