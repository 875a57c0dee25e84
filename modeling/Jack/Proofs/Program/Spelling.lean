import Jack.Parse.ClassDec

namespace Jack

/-- The object at hand is a variable that no identifier names. -/
theorem Token.text_ne_this {token : Token} (isName : token.isIdentifier) : token.text ≠ "this" := by
  intro same
  have kind : classify token.text = some (.keyword .thisKw) := by
    rw [same]
    decide
  rw [token.classified] at kind
  simp only [Option.some.injEq] at kind
  simp [Token.isIdentifier, kind] at isName

mutual

def Term.tokens : Term → List Token
  | .constant token _ => [token]
  | .use name => [name.token]
  | .element array opening index closing => array.token :: opening :: (index.tokens ++ [closing])
  | .call call => call.tokens
  | .group opening inner closing => opening :: (inner.tokens ++ [closing])
  | .unary token _ operand => token :: operand.tokens

def Expression.tokens : Expression → List Token
  | .term term => term.tokens
  | .binary left token _ right => left.tokens ++ token :: right.tokens

def Call.tokens : Call → List Token
  | .plain subroutine opening arguments closing =>
    subroutine.token :: opening :: (arguments.tokens ++ [closing])
  | .qualified qualifier dot subroutine opening arguments closing =>
    qualifier.token :: dot :: subroutine.token :: opening :: (arguments.tokens ++ [closing])

def Arguments.tokens : Arguments → List Token
  | .none => []
  | .one value => value.tokens
  | .more before comma value => before.tokens ++ comma :: value.tokens

end

theorem Call.tokens_ne_nil (call : Call) : call.tokens ≠ [] := by
  cases call <;> simp [Call.tokens]

theorem Term.tokens_ne_nil (term : Term) : term.tokens ≠ [] := by
  cases term with
  | call call => exact call.tokens_ne_nil
  | _ => simp [Term.tokens]

theorem Expression.tokens_ne_nil (value : Expression) : value.tokens ≠ [] := by
  cases value with
  | term term => exact term.tokens_ne_nil
  | binary left token operator right => simp [Expression.tokens]

mutual

def Term.Grammatical : Term → Prop
  | .constant token value => Constant.ofKind? token.kind = some value
  | .use name => name.token.isIdentifier
  | .element array opening index closing =>
    array.token.isIdentifier ∧ opening.isSymbol '[' ∧ index.Grammatical ∧ closing.isSymbol ']'
  | .call call => call.Grammatical
  | .group opening inner closing =>
    opening.isSymbol '(' ∧ inner.Grammatical ∧ closing.isSymbol ')'
  | .unary token operator operand =>
    TermStart.ofKind? token.kind = some (.unary operator) ∧ operand.Grammatical

def Expression.Grammatical : Expression → Prop
  | .term term => term.Grammatical
  | .binary left token operator right =>
    left.Grammatical ∧ BinaryOperator.ofKind? token.kind = some operator ∧ right.Grammatical

def Call.Grammatical : Call → Prop
  | .plain subroutine opening arguments closing =>
    subroutine.token.isIdentifier ∧ opening.isSymbol '(' ∧ arguments.Grammatical ∧
      closing.isSymbol ')'
  | .qualified qualifier dot subroutine opening arguments closing =>
    qualifier.token.isIdentifier ∧ dot.isSymbol '.' ∧ subroutine.token.isIdentifier ∧
      opening.isSymbol '(' ∧ arguments.Grammatical ∧ closing.isSymbol ')'

def Arguments.Grammatical : Arguments → Prop
  | .none => True
  | .one value => value.Grammatical
  | .more before comma value =>
    before ≠ .none ∧ before.Grammatical ∧ comma.isSymbol ',' ∧ value.Grammatical

end

mutual

def Statement.tokens : Statement → List Token
  | .assign keyword target equals value semicolon =>
    keyword :: target.token :: equals :: (value.tokens ++ [semicolon])
  | .assignElement keyword array opening index closing equals value semicolon =>
    keyword :: array.token :: opening ::
      (index.tokens ++ closing :: equals :: (value.tokens ++ [semicolon]))
  | .when keyword opening condition closing body =>
    keyword :: opening :: (condition.tokens ++ closing :: body.tokens)
  | .whenElse keyword opening condition closing body elseKeyword alternative =>
    keyword :: opening ::
      (condition.tokens ++ closing :: (body.tokens ++ elseKeyword :: alternative.tokens))
  | .loop keyword opening condition closing body =>
    keyword :: opening :: (condition.tokens ++ closing :: body.tokens)
  | .call keyword call semicolon => keyword :: (call.tokens ++ [semicolon])
  | .leave keyword semicolon => [keyword, semicolon]
  | .leaveWith keyword value semicolon => keyword :: (value.tokens ++ [semicolon])

def Block.tokens : Block → List Token
  | .braces opening statements closing => opening :: (statementTokens statements ++ [closing])

def statementTokens : List Statement → List Token
  | [] => []
  | statement :: statements => statement.tokens ++ statementTokens statements

end

mutual

def Statement.Grammatical : Statement → Prop
  | .assign keyword target equals value semicolon =>
    keyword.isKeyword .letKw ∧ target.token.isIdentifier ∧ equals.isSymbol '=' ∧
      value.Grammatical ∧ semicolon.isSymbol ';'
  | .assignElement keyword array opening index closing equals value semicolon =>
    keyword.isKeyword .letKw ∧ array.token.isIdentifier ∧ opening.isSymbol '[' ∧
      index.Grammatical ∧ closing.isSymbol ']' ∧ equals.isSymbol '=' ∧ value.Grammatical ∧
      semicolon.isSymbol ';'
  | .when keyword opening condition closing body =>
    keyword.isKeyword .ifKw ∧ opening.isSymbol '(' ∧ condition.Grammatical ∧
      closing.isSymbol ')' ∧ body.Grammatical
  | .whenElse keyword opening condition closing body elseKeyword alternative =>
    keyword.isKeyword .ifKw ∧ opening.isSymbol '(' ∧ condition.Grammatical ∧
      closing.isSymbol ')' ∧ body.Grammatical ∧ elseKeyword.isKeyword .elseKw ∧
      alternative.Grammatical
  | .loop keyword opening condition closing body =>
    keyword.isKeyword .whileKw ∧ opening.isSymbol '(' ∧ condition.Grammatical ∧
      closing.isSymbol ')' ∧ body.Grammatical
  | .call keyword call semicolon =>
    keyword.isKeyword .doKw ∧ call.Grammatical ∧ semicolon.isSymbol ';'
  | .leave keyword semicolon => keyword.isKeyword .returnKw ∧ semicolon.isSymbol ';'
  | .leaveWith keyword value semicolon =>
    keyword.isKeyword .returnKw ∧ value.Grammatical ∧ semicolon.isSymbol ';'

def Block.Grammatical : Block → Prop
  | .braces opening statements closing =>
    opening.isSymbol '{' ∧ GrammaticalAll statements ∧ closing.isSymbol '}'

def GrammaticalAll : List Statement → Prop
  | [] => True
  | statement :: statements => statement.Grammatical ∧ GrammaticalAll statements

end

namespace TypeName

def token : TypeName → Token
  | builtin token => token
  | className name => name.token

def Grammatical : TypeName → Prop
  | builtin token => isBuiltinType token.kind
  | className name => name.token.isIdentifier

def IsReturn : TypeName → Prop
  | builtin token => token.isKeyword .voidKw ∨ isBuiltinType token.kind
  | className name => name.token.isIdentifier

end TypeName

def nameTokens (names : List (Name × Token)) : List Token :=
  names.flatMap fun (name, separator) => [name.token, separator]

def GrammaticalNames : List (Name × Token) → Prop
  | [] => False
  | [(name, separator)] => name.token.isIdentifier ∧ separator.isSymbol ';'
  | (name, separator) :: names =>
    name.token.isIdentifier ∧ separator.isSymbol ',' ∧ GrammaticalNames names

namespace VariableDec

def tokens (declaration : VariableDec) : List Token :=
  declaration.keyword :: declaration.type.token :: nameTokens declaration.names

/-- `ofKeyword?` tells which keywords may begin the declaration. -/
def Grammatical (ofKeyword? : LexemeKind → Option VariableKind) (declaration : VariableDec) : Prop :=
  (ofKeyword? declaration.keyword.kind).isSome ∧ declaration.type.Grammatical ∧
    GrammaticalNames declaration.names

end VariableDec

def Parameter.tokens (parameter : Parameter) : List Token :=
  parameter.type.token :: parameter.name.token :: parameter.comma?.toList

def GrammaticalParameters : List Parameter → Prop
  | [] => True
  | [parameter] =>
    parameter.type.Grammatical ∧ parameter.name.token.isIdentifier ∧ parameter.comma? = none
  | parameter :: parameters =>
    parameter.type.Grammatical ∧ parameter.name.token.isIdentifier ∧
      (∃ comma, parameter.comma? = some comma ∧ comma.isSymbol ',') ∧
      GrammaticalParameters parameters

namespace SubroutineBody

def tokens (body : SubroutineBody) : List Token :=
  body.opening :: (body.locals.flatMap VariableDec.tokens ++
    (statementTokens body.statements ++ [body.closing]))

def Grammatical (body : SubroutineBody) : Prop :=
  body.opening.isSymbol '{' ∧
    (∀ declaration ∈ body.locals, declaration.Grammatical VariableKind.ofLocalKeyword?) ∧
    GrammaticalAll body.statements ∧ body.closing.isSymbol '}'

end SubroutineBody

namespace Subroutine

def tokens (subroutine : Subroutine) : List Token :=
  subroutine.keyword :: subroutine.returnType.token :: subroutine.name.token ::
    subroutine.opening :: (subroutine.parameters.flatMap Parameter.tokens ++
      subroutine.closing :: subroutine.body.tokens)

def Grammatical (subroutine : Subroutine) : Prop :=
  SubroutineKind.ofKind? subroutine.keyword.kind = some subroutine.kind ∧
    subroutine.returnType.IsReturn ∧ subroutine.name.token.isIdentifier ∧
    subroutine.opening.isSymbol '(' ∧ GrammaticalParameters subroutine.parameters ∧
    subroutine.closing.isSymbol ')' ∧ subroutine.body.Grammatical

end Subroutine

namespace ClassDec

def tokens (declaration : ClassDec) : List Token :=
  declaration.keyword :: declaration.name.token :: declaration.opening ::
    (declaration.declarations.flatMap VariableDec.tokens ++
      (declaration.subroutines.flatMap Subroutine.tokens ++ [declaration.closing]))

def Grammatical (declaration : ClassDec) : Prop :=
  declaration.keyword.isKeyword .classKw ∧ declaration.name.token.isIdentifier ∧
    declaration.opening.isSymbol '{' ∧
    (∀ group ∈ declaration.declarations,
      group.Grammatical VariableKind.ofClassKeyword?) ∧
    (∀ subroutine ∈ declaration.subroutines, subroutine.Grammatical) ∧
    declaration.closing.isSymbol '}'

end ClassDec

end Jack
