import Jack.Token.Basic

namespace Jack

inductive Phrase where
  | term | operations | expression | call | expressionList | moreExpressions
  | statement | block | statements
deriving DecidableEq, Repr

namespace Grammar

def operatorMarks : List Char :=
  ['+', '-', '*', '/', '&', '|', '<', '>', '=']

def constantWords : List Keyword :=
  [.trueKw, .falseKw, .nullKw, .thisKw]

/-- The tokens of a phrase, and those among them that use a variable. -/
inductive Derives : Phrase → List Token → List Token → Prop where
  -- term
  | integer {token : Token} {value : UInt16} (kind : token.kind = .integer value) :
    Derives .term [token] []
  | string {token : Token} {contents : String} (kind : token.kind = .string contents) :
    Derives .term [token] []
  | keyword {token : Token} {word : Keyword} (constant : word ∈ constantWords)
    (isWord : token.isKeyword word) : Derives .term [token] []
  | use {name : Token} (isName : name.isIdentifier) : Derives .term [name] [name]
  | element {array opening closing : Token} {index used : List Token} (isName : array.isIdentifier)
    (opens : opening.isSymbol '[') (inside : Derives .expression index used)
    (closes : closing.isSymbol ']') :
    Derives .term (array :: opening :: (index ++ [closing])) (array :: used)
  | called {call used : List Token} (derived : Derives .call call used) : Derives .term call used
  | group {opening closing : Token} {inner used : List Token} (opens : opening.isSymbol '(')
    (inside : Derives .expression inner used) (closes : closing.isSymbol ')') :
    Derives .term (opening :: (inner ++ [closing])) used
  | unary {operator : Token} {operand used : List Token}
    (isOperator : operator.isSymbol '-' ∨ operator.isSymbol '~')
    (derived : Derives .term operand used) : Derives .term (operator :: operand) used
  -- expression
  | expression {first later used usedLater : List Token} (derived : Derives .term first used)
    (rest : Derives .operations later usedLater) :
    Derives .expression (first ++ later) (used ++ usedLater)
  | noOperation : Derives .operations [] []
  | operation {operator : Token} {mark : Char} {operand later used usedLater : List Token}
    (isMark : mark ∈ operatorMarks) (isOperator : operator.isSymbol mark)
    (derived : Derives .term operand used) (rest : Derives .operations later usedLater) :
    Derives .operations (operator :: (operand ++ later)) (used ++ usedLater)
  -- subroutineCall and expressionList
  | plainCall {name opening closing : Token} {arguments used : List Token}
    (isName : name.isIdentifier) (opens : opening.isSymbol '(')
    (derived : Derives .expressionList arguments used) (closes : closing.isSymbol ')') :
    Derives .call (name :: opening :: (arguments ++ [closing])) used
  | qualifiedCall {qualifier dot name opening closing : Token} {arguments used : List Token}
    (isQualifier : qualifier.isIdentifier) (dots : dot.isSymbol '.') (isName : name.isIdentifier)
    (opens : opening.isSymbol '(') (derived : Derives .expressionList arguments used)
    (closes : closing.isSymbol ')') :
    Derives .call (qualifier :: dot :: name :: opening :: (arguments ++ [closing])) used
  | noExpressions : Derives .expressionList [] []
  | expressions {first later used usedLater : List Token} (derived : Derives .expression first used)
    (rest : Derives .moreExpressions later usedLater) :
    Derives .expressionList (first ++ later) (used ++ usedLater)
  | noMore : Derives .moreExpressions [] []
  | more {comma : Token} {value later used usedLater : List Token} (separates : comma.isSymbol ',')
    (derived : Derives .expression value used) (rest : Derives .moreExpressions later usedLater) :
    Derives .moreExpressions (comma :: (value ++ later)) (used ++ usedLater)
  -- statement
  | assign {keyword target equals semicolon : Token} {value used : List Token}
    (isLet : keyword.isKeyword .letKw) (isName : target.isIdentifier) (assigns : equals.isSymbol '=')
    (derived : Derives .expression value used) (ends : semicolon.isSymbol ';') :
    Derives .statement (keyword :: target :: equals :: (value ++ [semicolon])) (target :: used)
  | assignElement {keyword array opening closing equals semicolon : Token}
    {index value used usedLater : List Token}
    (isLet : keyword.isKeyword .letKw) (isName : array.isIdentifier) (opens : opening.isSymbol '[')
    (inside : Derives .expression index used) (closes : closing.isSymbol ']')
    (assigns : equals.isSymbol '=') (derived : Derives .expression value usedLater)
    (ends : semicolon.isSymbol ';') :
    Derives .statement
      (keyword :: array :: opening :: (index ++ closing :: equals :: (value ++ [semicolon])))
      (array :: (used ++ usedLater))
  | when {keyword opening closing : Token} {condition body used usedLater : List Token}
    (isIf : keyword.isKeyword .ifKw) (opens : opening.isSymbol '(')
    (tested : Derives .expression condition used) (closes : closing.isSymbol ')')
    (derived : Derives .block body usedLater) :
    Derives .statement (keyword :: opening :: (condition ++ closing :: body)) (used ++ usedLater)
  | whenElse {keyword opening closing elseKeyword : Token}
    {condition body alternative used usedLater usedElse : List Token}
    (isIf : keyword.isKeyword .ifKw) (opens : opening.isSymbol '(')
    (tested : Derives .expression condition used) (closes : closing.isSymbol ')')
    (derived : Derives .block body usedLater) (isElse : elseKeyword.isKeyword .elseKw)
    (otherwise : Derives .block alternative usedElse) :
    Derives .statement
      (keyword :: opening :: (condition ++ closing :: (body ++ elseKeyword :: alternative)))
      (used ++ (usedLater ++ usedElse))
  | loop {keyword opening closing : Token} {condition body used usedLater : List Token}
    (isWhile : keyword.isKeyword .whileKw) (opens : opening.isSymbol '(')
    (tested : Derives .expression condition used) (closes : closing.isSymbol ')')
    (derived : Derives .block body usedLater) :
    Derives .statement (keyword :: opening :: (condition ++ closing :: body)) (used ++ usedLater)
  | call {keyword semicolon : Token} {call used : List Token} (isDo : keyword.isKeyword .doKw)
    (derived : Derives .call call used) (ends : semicolon.isSymbol ';') :
    Derives .statement (keyword :: (call ++ [semicolon])) used
  | leave {keyword semicolon : Token} (isReturn : keyword.isKeyword .returnKw)
    (ends : semicolon.isSymbol ';') : Derives .statement [keyword, semicolon] []
  | leaveWith {keyword semicolon : Token} {value used : List Token}
    (isReturn : keyword.isKeyword .returnKw) (derived : Derives .expression value used)
    (ends : semicolon.isSymbol ';') : Derives .statement (keyword :: (value ++ [semicolon])) used
  -- statements
  | block {opening closing : Token} {inner used : List Token} (opens : opening.isSymbol '{')
    (inside : Derives .statements inner used) (closes : closing.isSymbol '}') :
    Derives .block (opening :: (inner ++ [closing])) used
  | noStatements : Derives .statements [] []
  | statements {first later used usedLater : List Token} (derived : Derives .statement first used)
    (rest : Derives .statements later usedLater) :
    Derives .statements (first ++ later) (used ++ usedLater)

inductive Repeated {α : Type} (part : List Token → List α → Prop) : List Token → List α → Prop where
  | none : Repeated part [] []
  | next {first later : List Token} {found foundLater : List α} (derived : part first found)
    (rest : Repeated part later foundLater) : Repeated part (first ++ later) (found ++ foundLater)

def IsType (token : Token) : Prop :=
  token.isKeyword .intKw ∨ token.isKeyword .charKw ∨ token.isKeyword .booleanKw ∨ token.isIdentifier

inductive DerivesNames : List Token → List String → Prop where
  | last {name semicolon : Token} (isName : name.isIdentifier) (ends : semicolon.isSymbol ';') :
    DerivesNames [name, semicolon] [name.text]
  | more {name comma : Token} {later : List Token} {declared : List String}
    (isName : name.isIdentifier) (separates : comma.isSymbol ',')
    (rest : DerivesNames later declared) :
    DerivesNames (name :: comma :: later) (name.text :: declared)

inductive DerivesClassVarDec : List Token → List String → Prop where
  | ofClass {keyword type : Token} {names : List Token} {declared : List String}
    (begins : keyword.isKeyword .staticKw ∨ keyword.isKeyword .fieldKw) (isType : IsType type)
    (derived : DerivesNames names declared) :
    DerivesClassVarDec (keyword :: type :: names) declared

inductive DerivesVarDec : List Token → List String → Prop where
  | locals {keyword type : Token} {names : List Token} {declared : List String}
    (begins : keyword.isKeyword .varKw) (isType : IsType type)
    (derived : DerivesNames names declared) : DerivesVarDec (keyword :: type :: names) declared

inductive DerivesParameters : List Token → List String → Prop where
  | last {type name : Token} (isType : IsType type) (isName : name.isIdentifier) :
    DerivesParameters [type, name] [name.text]
  | more {type name comma : Token} {later : List Token} {declared : List String}
    (isType : IsType type) (isName : name.isIdentifier) (separates : comma.isSymbol ',')
    (rest : DerivesParameters later declared) :
    DerivesParameters (type :: name :: comma :: later) (name.text :: declared)

inductive DerivesParameterList : List Token → List String → Prop where
  | none : DerivesParameterList [] []
  | some {parameters : List Token} {declared : List String}
    (derived : DerivesParameters parameters declared) : DerivesParameterList parameters declared

/-- The names that a subroutine declares, and the tokens in it that use a variable. -/
structure Usage where
  declared : List String
  used : List Token

inductive DerivesSubroutineBody : List Token → List String → List Token → Prop where
  | body {opening closing : Token} {locals statements : List Token} {declared : List String}
    {used : List Token} (opens : opening.isSymbol '{')
    (declares : Repeated DerivesVarDec locals declared)
    (derived : Derives .statements statements used) (closes : closing.isSymbol '}') :
    DerivesSubroutineBody (opening :: (locals ++ (statements ++ [closing]))) declared used

inductive DerivesSubroutine : List Token → List Usage → Prop where
  | subroutine {keyword type name opening closing : Token} {parameters body : List Token}
    {declared locals : List String} {used : List Token}
    (begins : keyword.isKeyword .constructorKw ∨ keyword.isKeyword .functionKw ∨
      keyword.isKeyword .methodKw)
    (isType : type.isKeyword .voidKw ∨ IsType type) (isName : name.isIdentifier)
    (opens : opening.isSymbol '(') (declares : DerivesParameterList parameters declared)
    (closes : closing.isSymbol ')') (derived : DerivesSubroutineBody body locals used) :
    DerivesSubroutine (keyword :: type :: name :: opening :: (parameters ++ closing :: body))
      [⟨declared ++ locals, used⟩]

/-- The tokens of a class, the names of its variables, and what each of its subroutines declares and
uses. -/
inductive DerivesClass : List Token → List String → List Usage → Prop where
  | classDec {keyword name opening closing : Token} {declarations subroutines : List Token}
    {classNames : List String} {usages : List Usage} (isClass : keyword.isKeyword .classKw)
    (isName : name.isIdentifier) (opens : opening.isSymbol '{')
    (declares : Repeated DerivesClassVarDec declarations classNames)
    (derived : Repeated DerivesSubroutine subroutines usages) (closes : closing.isSymbol '}') :
    DerivesClass (keyword :: name :: opening :: (declarations ++ (subroutines ++ [closing])))
      classNames usages

end Grammar

end Jack
