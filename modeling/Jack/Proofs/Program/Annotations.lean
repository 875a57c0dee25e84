import Jack.Proofs.Program.Code
import Jack.Proofs.Variable.Group

namespace Jack

/-- What a name stands for, whether it is declared there, and its slot if it is a variable. -/
structure Meaning where
  category : Category
  isDeclaration : Bool
  slot? : Option Nat
deriving DecidableEq, Repr

namespace Meaning

def ofVariable (kind : VariableKind) (isDeclaration : Bool) (slot : Nat) : Meaning :=
  ⟨.ofVariable kind, isDeclaration, some slot⟩

def className (isDeclaration : Bool) : Meaning :=
  ⟨.className, isDeclaration, none⟩

def subroutine (isDeclaration : Bool) : Meaning :=
  ⟨.subroutine, isDeclaration, none⟩

def use? (groups : List Group) (name : String) : Option Meaning :=
  (findSlot? groups name).map fun (kind, slot) => ofVariable kind false slot

/-- The qualifier of a call is a class if it begins with a capital letter or no group declares it. -/
def qualifier (groups : List Group) (name : String) : Meaning :=
  if name.toList.head?.any Char.isUpper then className false
  else (use? groups name).getD (className false)

end Meaning

abbrev Annotated := Token × Option Meaning

namespace Token

def plain (token : Token) : Annotated :=
  (token, none)

def named (token : Token) (meaning : Meaning) : Annotated :=
  (token, some meaning)

def use (groups : List Group) (token : Token) : Annotated :=
  (token, Meaning.use? groups token.text)

def qualifier (groups : List Group) (token : Token) : Annotated :=
  token.named (.qualifier groups token.text)

end Token

section

variable (groups : List Group)

mutual

def Term.annotated : Term → List Annotated
  | .constant token _ => [token.plain]
  | .use name => [name.token.use groups]
  | .element array opening index closing =>
    array.token.use groups :: opening.plain :: (index.annotated ++ [closing.plain])
  | .call call => call.annotated
  | .group opening inner closing => opening.plain :: (inner.annotated ++ [closing.plain])
  | .unary token _ operand => token.plain :: operand.annotated

def Expression.annotated : Expression → List Annotated
  | .term term => term.annotated
  | .binary left token _ right => left.annotated ++ token.plain :: right.annotated

def Call.annotated : Call → List Annotated
  | .plain subroutine opening arguments closing =>
    subroutine.token.named (.subroutine false) :: opening.plain ::
      (arguments.annotated ++ [closing.plain])
  | .qualified qualifier dot subroutine opening arguments closing =>
    qualifier.token.qualifier groups :: dot.plain :: subroutine.token.named (.subroutine false) ::
      opening.plain :: (arguments.annotated ++ [closing.plain])

def Arguments.annotated : Arguments → List Annotated
  | .none => []
  | .one value => value.annotated
  | .more before comma value => before.annotated ++ comma.plain :: value.annotated

end

mutual

def Statement.annotated : Statement → List Annotated
  | .assign keyword target equals value semicolon =>
    keyword.plain :: target.token.use groups :: equals.plain ::
      (value.annotated groups ++ [semicolon.plain])
  | .assignElement keyword array opening index closing equals value semicolon =>
    keyword.plain :: array.token.use groups :: opening.plain ::
      (index.annotated groups ++ closing.plain :: equals.plain ::
        (value.annotated groups ++ [semicolon.plain]))
  | .when keyword opening condition closing body =>
    keyword.plain :: opening.plain ::
      (condition.annotated groups ++ closing.plain :: body.annotated)
  | .whenElse keyword opening condition closing body elseKeyword alternative =>
    keyword.plain :: opening.plain :: (condition.annotated groups ++ closing.plain ::
      (body.annotated ++ elseKeyword.plain :: alternative.annotated))
  | .loop keyword opening condition closing body =>
    keyword.plain :: opening.plain ::
      (condition.annotated groups ++ closing.plain :: body.annotated)
  | .call keyword call semicolon =>
    keyword.plain :: (call.annotated groups ++ [semicolon.plain])
  | .leave keyword semicolon => [keyword.plain, semicolon.plain]
  | .leaveWith keyword value semicolon =>
    keyword.plain :: (value.annotated groups ++ [semicolon.plain])

def Block.annotated : Block → List Annotated
  | .braces opening statements closing =>
    opening.plain :: (annotatedAll statements ++ [closing.plain])

def annotatedAll : List Statement → List Annotated
  | [] => []
  | statement :: statements => statement.annotated ++ annotatedAll statements

end

end

def TypeName.annotated : TypeName → Annotated
  | builtin token => token.plain
  | className name => name.token.named (.className false)

/-- A variable takes the slot that is next in its group, which then has one more name. -/
def annotatedNames (group : Group) : List (Name × Token) → List Annotated
  | [] => []
  | (name, separator) :: later =>
    name.token.named (.ofVariable group.kind true group.next) :: separator.plain ::
      annotatedNames (group.declare name.token.text) later

/-- `before` are the declarations of the scope so far, the newest first. -/
def VariableDec.annotated (kind : VariableKind) (before : Log) (declaration : VariableDec) :
    List Annotated :=
  declaration.keyword.plain :: declaration.type.annotated ::
    annotatedNames ⟨kind, 0, before.names kind⟩ declaration.names

def annotatedDecs (ofKeyword? : LexemeKind → Option VariableKind) :
    Log → List VariableDec → List Annotated
  | _, [] => []
  | before, declaration :: later =>
    (ofKeyword? declaration.keyword.kind).toList.flatMap (declaration.annotated · before) ++
      annotatedDecs ofKeyword? ((declaration.declaredBy ofKeyword?).reverse ++ before) later

def annotatedParameters (group : Group) : List Parameter → List Annotated
  | [] => []
  | parameter :: later =>
    parameter.type.annotated :: parameter.name.token.named (.ofVariable group.kind true group.next) ::
      (parameter.comma?.toList.map Token.plain ++
        annotatedParameters (group.declare parameter.name.token.text) later)

/-- The slots that a subroutine takes before those of its parameters: a method has its object first. -/
def SubroutineKind.objects : SubroutineKind → Nat
  | method => 1
  | ctor | function => 0

def VariableDec.texts (declaration : VariableDec) : List String :=
  declaration.names.map (·.1.token.text)

namespace Subroutine

def parameterTexts (subroutine : Subroutine) : List String :=
  subroutine.parameters.map (·.name.token.text)

def localTexts (subroutine : Subroutine) : List String :=
  subroutine.body.locals.flatMap VariableDec.texts

def groups (ofClass : Log) (subroutine : Subroutine) : List Group :=
  [⟨.argument, subroutine.kind.objects, subroutine.parameterTexts.reverse⟩,
    ⟨.localVar, 0, subroutine.localTexts.reverse⟩,
    ⟨.static, 0, ofClass.names .static⟩, ⟨.field, 0, ofClass.names .field⟩]

def annotated (ofClass : Log) (subroutine : Subroutine) : List Annotated :=
  let body := subroutine.body
  subroutine.keyword.plain :: subroutine.returnType.annotated ::
    subroutine.name.token.named (.subroutine true) :: subroutine.opening.plain ::
    (annotatedParameters ⟨.argument, subroutine.kind.objects, []⟩ subroutine.parameters ++
      subroutine.closing.plain :: body.opening.plain ::
      (annotatedDecs VariableKind.ofLocalKeyword? [] body.locals ++
        (annotatedAll (subroutine.groups ofClass) body.statements ++ [body.closing.plain])))

end Subroutine

namespace ClassDec

def annotated (declaration : ClassDec) : List Annotated :=
  declaration.keyword.plain :: declaration.name.token.named (.className true) ::
    declaration.opening.plain ::
    (annotatedDecs VariableKind.ofClassKeyword? [] declaration.declarations ++
      (declaration.subroutines.flatMap (Subroutine.annotated declaration.declared.reverse) ++
        [declaration.closing.plain]))

end ClassDec

def VariableDec.declaring (declaration : VariableDec) : List Token :=
  declaration.names.map (·.1.token)

def Subroutine.declaring (subroutine : Subroutine) : List Token :=
  subroutine.name.token :: (subroutine.parameters.map (·.name.token) ++
    subroutine.body.locals.flatMap VariableDec.declaring)

/-- The tokens that declare something: the name of the class, and the names of its variables and
subroutines with their parameters and locals. -/
def ClassDec.declaring (declaration : ClassDec) : List Token :=
  declaration.name.token :: (declaration.declarations.flatMap VariableDec.declaring ++
    declaration.subroutines.flatMap Subroutine.declaring)

end Jack
