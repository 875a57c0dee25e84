import Jack.Program.Statement

namespace Jack

mutual

def Term.mostArguments : Term → Nat
  | .constant _ _ | .use _ => 0
  | .element _ _ index _ => index.mostArguments
  | .call call => call.mostArguments
  | .group _ inner _ => inner.mostArguments
  | .unary _ _ operand => operand.mostArguments

def Expression.mostArguments : Expression → Nat
  | .term term => term.mostArguments
  | .binary left _ _ right => max left.mostArguments right.mostArguments

def Call.mostArguments : Call → Nat
  | .plain _ _ arguments _ | .qualified _ _ _ _ arguments _ =>
    max arguments.count arguments.mostArguments

/-- The longest list among those inside the values, not counting the list at hand. -/
def Arguments.mostArguments : Arguments → Nat
  | .none => 0
  | .one value => value.mostArguments
  | .more before _ value => max before.mostArguments value.mostArguments

end

mutual

def Statement.mostArguments : Statement → Nat
  | .assign _ _ _ value _ => value.mostArguments
  | .assignElement _ _ _ index _ _ value _ => max index.mostArguments value.mostArguments
  | .when _ _ condition _ body => max condition.mostArguments body.mostArguments
  | .whenElse _ _ condition _ body _ alternative =>
    max condition.mostArguments (max body.mostArguments alternative.mostArguments)
  | .loop _ _ condition _ body => max condition.mostArguments body.mostArguments
  | .call _ call _ => call.mostArguments
  | .leave _ _ => 0
  | .leaveWith _ value _ => value.mostArguments

def Block.mostArguments : Block → Nat
  | .braces _ statements _ => mostArgumentsOfAll statements

def mostArgumentsOfAll : List Statement → Nat
  | [] => 0
  | statement :: statements => max statement.mostArguments (mostArgumentsOfAll statements)

end

end Jack
