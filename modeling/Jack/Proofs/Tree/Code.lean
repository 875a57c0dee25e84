import Jack.Tree.Basic
import Jack.Vm.Instruction
import Mathlib.Data.List.Dedup

namespace Jack

def Category.segment? : Category → Option Segment
  | static => some .static
  | field => some .thisCell
  | argument => some .argument
  | localVar => some .localVar
  | className | subroutine => none

namespace Leaf

def category? (leaf : Leaf) : Option Category :=
  leaf.resolution?.map (·.category)

def cell? (leaf : Leaf) : Option (Segment × UInt16) :=
  match leaf.category?.bind Category.segment?, leaf.resolution?.bind (·.index) with
  | some segment, some index => some (segment, index)
  | _, _ => none

def pushed (leaf : Leaf) : List Instruction :=
  leaf.cell?.toList.map fun (segment, index) => .push segment index

def popped (leaf : Leaf) : List Instruction :=
  leaf.cell?.toList.map fun (segment, index) => .pop segment index

end Leaf

structure DeclaredName where
  category? : Option Category
  name : String
  type : String
deriving DecidableEq, Repr

def Leaf.declaredAs (leaf : Leaf) (type : String) : DeclaredName :=
  ⟨leaf.category?, leaf.token.text, type⟩

namespace Node

def declaredNames (type : String) (names : List Node) : List DeclaredName :=
  names.filterMap fun
    | leaf name =>
      if name.resolution?.any (·.isDeclaration) then some (name.declaredAs type) else none
    | branch _ _ => none

def declaredParameters : List Node → List DeclaredName
  | leaf type :: leaf name :: _ :: later =>
    name.declaredAs type.token.text :: declaredParameters later
  | [leaf type, leaf name] => [name.declaredAs type.token.text]
  | _ => []

def declaredBy : Node → List DeclaredName
  | branch .classVarDec (_ :: leaf type :: names) => declaredNames type.token.text names
  | branch .varDec (_ :: leaf type :: names) => declaredNames type.token.text names
  | branch .parameterList parameters => declaredParameters parameters
  | _ => []

end Node

/-- What the code of a subroutine depends on besides its own branch. -/
structure Surroundings where
  className : String
  declarations : List DeclaredName

namespace Surroundings

def declaring (around : Surroundings) (more : List DeclaredName) : Surroundings :=
  ⟨around.className, around.declarations ++ more⟩

/-- The type with which the variable of a leaf was declared last. -/
def typeOf (around : Surroundings) (name : Leaf) : String :=
  ((around.declarations.reverse.find? fun declared =>
    declared.category? = name.category? ∧ declared.name = name.token.text).map (·.type)).getD ""

def count (around : Surroundings) (category : Category) : Nat :=
  ((around.declarations.filter (·.category? = some category)).map (·.name)).dedup.length

/-- A call without a qualifier is one of this class, on the object at hand. -/
def plainCall (around : Surroundings) (name : Leaf) (values : List Instruction) (count : Nat) :
    List Instruction :=
  .push .pointer 0 ::
    (values ++ [.call (around.className ++ "." ++ name.token.text) (count + 1).toUInt16])

/-- A qualifier that is a variable is the object of the call and tells its class by its type. -/
def qualifiedCall (around : Surroundings) (qualifier name : Leaf) (values : List Instruction)
    (count : Nat) : List Instruction :=
  if qualifier.cell?.isSome then
    qualifier.pushed ++
      (values ++ [.call (around.typeOf qualifier ++ "." ++ name.token.text) (count + 1).toUInt16])
  else values ++ [.call (qualifier.token.text ++ "." ++ name.token.text) count.toUInt16]

end Surroundings

namespace Token

def constantCode (token : Token) : List Instruction :=
  match token.kind with
  | .integer value => [.push .constant value]
  | .string contents =>
    .push .constant contents.length.toUInt16 :: .call "String.new" 1 ::
      contents.toList.flatMap fun c =>
        [.push .constant c.toNat.toUInt16, .call "String.appendChar" 2]
  | .keyword .trueKw => [.push .constant 0, .apply .not]
  | .keyword .falseKw => [.push .constant 0]
  | .keyword .nullKw => [.push .constant 0]
  | .keyword .thisKw => [.push .pointer 0]
  | _ => []

def unaryCode (token : Token) : List Instruction :=
  match token.kind with
  | .symbol '-' => [.apply .neg]
  | .symbol '~' => [.apply .not]
  | _ => []

def binaryCode (token : Token) : List Instruction :=
  match token.kind with
  | .symbol '+' => [.apply .add]
  | .symbol '-' => [.apply .sub]
  | .symbol '*' => [.call "Math.multiply" 2]
  | .symbol '/' => [.call "Math.divide" 2]
  | .symbol '&' => [.apply .and]
  | .symbol '|' => [.apply .or]
  | .symbol '<' => [.apply .lt]
  | .symbol '>' => [.apply .gt]
  | .symbol '=' => [.apply .eq]
  | _ => []

def prologueCode (token : Token) (fields : Nat) : List Instruction :=
  match token.kind with
  | .keyword .constructorKw =>
    [.push .constant fields.toUInt16, .call "Memory.alloc" 1, .pop .pointer 0]
  | .keyword .methodKw => [.push .argument 0, .pop .pointer 0]
  | _ => []

end Token

namespace Node

mutual

/-- The if and while statements in a tree, in the order in which they begin. -/
def branching : Node → List Production
  | leaf _ => []
  | branch .ifStatement children => .ifStatement :: branchingOfAll children
  | branch .whileStatement children => .whileStatement :: branchingOfAll children
  | branch _ children => branchingOfAll children

def branchingOfAll : List Node → List Production
  | [] => []
  | node :: nodes => node.branching ++ branchingOfAll nodes

end

/-- Where the if or while statement of a number goes when its condition fails. -/
def otherwise (number : Nat) : Production → String
  | .whileStatement => "WHILE_END" ++ toString number
  | _ => "IF_ELSE" ++ toString number

def valueCount (list : Node) : Nat :=
  (list.children.filter (·.production? == some .expression)).length

mutual

/-- The documented code of a statement or a part of one, read off the annotated tree alone, where the
subroutine has `first` if and while statements before it. -/
def code (around : Surroundings) (first : Nat) : Node → List Instruction
  | leaf _ => []
  | branch .statements children => statementsCode around first children
  | branch .letStatement children => letCode around first children
  | branch .ifStatement children => ifCode around first children
  | branch .whileStatement children => whileCode around first children
  | branch .doStatement children => doCode around first children
  | branch .returnStatement children => returnCode around first children
  | branch .expression children => expressionCode around first children
  | branch .term children => termCode around first children
  | branch .expressionList children => valuesCode around first children
  | branch _ _ => []

def statementsCode (around : Surroundings) (first : Nat) : List Node → List Instruction
  | [] => []
  | statement :: later =>
    statement.code around first ++
      statementsCode around (first + statement.branching.length) later

def letCode (around : Surroundings) (first : Nat) : List Node → List Instruction
  | [_, leaf name, _, value, _] => value.code around first ++ name.popped
  | [_, leaf array, _, index, _, _, value, _] =>
    array.pushed ++ (index.code around first ++ .apply .add :: (value.code around first ++
      [.pop .temp 0, .pop .pointer 1, .push .temp 0, .pop .thatCell 0]))
  | _ => []

def ifCode (around : Surroundings) (first : Nat) : List Node → List Instruction
  | [_, _, condition, _, _, body, _] =>
    condition.code around first ++ .jumpIfFalse ("IF_ELSE" ++ toString first) ::
      (body.code around (first + 1) ++ [.label ("IF_ELSE" ++ toString first)])
  | [_, _, condition, _, _, body, _, _, _, alternative, _] =>
    condition.code around first ++ .jumpIfFalse ("IF_ELSE" ++ toString first) ::
      (body.code around (first + 1) ++ .jump ("IF_END" ++ toString first) ::
        .label ("IF_ELSE" ++ toString first) ::
          (alternative.code around (first + 1 + body.branching.length) ++
            [.label ("IF_END" ++ toString first)]))
  | _ => []

def whileCode (around : Surroundings) (first : Nat) : List Node → List Instruction
  | [_, _, condition, _, _, body, _] =>
    .label ("WHILE_EXP" ++ toString first) :: (condition.code around first ++
      .jumpIfFalse ("WHILE_END" ++ toString first) :: (body.code around (first + 1) ++
        [.jump ("WHILE_EXP" ++ toString first), .label ("WHILE_END" ++ toString first)]))
  | _ => []

def doCode (around : Surroundings) (first : Nat) : List Node → List Instruction
  | [_, leaf name, _, values, _, _] =>
    around.plainCall name (values.code around first) values.valueCount ++ [.pop .temp 0]
  | [_, leaf qualifier, _, leaf name, _, values, _, _] =>
    around.qualifiedCall qualifier name (values.code around first) values.valueCount ++
      [.pop .temp 0]
  | _ => []

def returnCode (around : Surroundings) (first : Nat) : List Node → List Instruction
  | [_, _] => [.push .constant 0, .ret]
  | [_, value, _] => value.code around first ++ [.ret]
  | _ => []

/-- The first term, then every other term with the operator before it. -/
def expressionCode (around : Surroundings) (first : Nat) : List Node → List Instruction
  | [] => []
  | term :: later => term.code around first ++ operationsCode around first later

def operationsCode (around : Surroundings) (first : Nat) : List Node → List Instruction
  | leaf operator :: term :: later =>
    term.code around first ++ (operator.token.binaryCode ++ operationsCode around first later)
  | _ => []

/-- A leaf alone is a constant or a variable. What is in brackets after a name is an index or a list of
arguments. -/
def termCode (around : Surroundings) (first : Nat) : List Node → List Instruction
  | [leaf found] => if found.resolution?.isSome then found.pushed else found.token.constantCode
  | [leaf operator, operand] => operand.code around first ++ operator.token.unaryCode
  | [_, inner, _] => inner.code around first
  | [leaf name, leaf opening, inside, _] =>
    if opening.token.isSymbol '[' then
      name.pushed ++ (inside.code around first ++
        [.apply .add, .pop .pointer 1, .push .thatCell 0])
    else around.plainCall name (inside.code around first) inside.valueCount
  | [leaf qualifier, _, leaf name, _, values, _] =>
    around.qualifiedCall qualifier name (values.code around first) values.valueCount
  | _ => []

def valuesCode (around : Surroundings) (first : Nat) : List Node → List Instruction
  | [] => []
  | value :: later => value.code around first ++ valuesCode around first later

end

def subroutineCode (ofClass : Surroundings) : Node → List Instruction
  | branch .subroutineDec
      [leaf keyword, _, leaf name, _, parameters, _, branch .subroutineBody body] =>
    let around := ofClass.declaring (parameters.declaredBy ++ body.flatMap declaredBy)
    .function (ofClass.className ++ "." ++ name.token.text) (around.count .localVar).toUInt16 ::
      (keyword.token.prologueCode (ofClass.count .field) ++
        body.flatMap (code around 0))
  | _ => []

def surroundings : Node → Surroundings
  | branch .classDec (_ :: leaf name :: members) => ⟨name.token.text, members.flatMap declaredBy⟩
  | _ => ⟨"", []⟩

def classCode (tree : Node) : List Instruction :=
  tree.children.flatMap (subroutineCode tree.surroundings)

end Node

end Jack
