import Jack.Parse.ClassDec
import Jack.Proofs.Variable.Log

namespace Jack

structure Slot where
  kind : VariableKind
  index : UInt16
deriving DecidableEq, Repr

namespace Slot

def push (slot : Slot) : Instruction :=
  .push (.ofVariable slot.kind) slot.index

def pop (slot : Slot) : Instruction :=
  .pop (.ofVariable slot.kind) slot.index

end Slot

namespace Variable

def slot (entry : Variable) : Slot :=
  ⟨entry.kind, entry.index⟩

@[simp] theorem push_slot (entry : Variable) : entry.slot.push = entry.push := rfl

@[simp] theorem pop_slot (entry : Variable) : entry.slot.pop = entry.pop := rfl

end Variable

def Category.variableKind? : Category → Option VariableKind
  | static => some .static
  | field => some .field
  | argument => some .argument
  | localVar => some .localVar
  | className | subroutine => none

def Name.slot? (name : Name) : Option Slot :=
  match name.resolution.category.variableKind?, name.resolution.index with
  | some kind, some index => some ⟨kind, index⟩
  | _, _ => none

namespace Name

def pushCode (name : Name) : List Instruction :=
  name.slot?.toList.map Slot.push

def popCode (name : Name) : List Instruction :=
  name.slot?.toList.map Slot.pop

@[simp] theorem token_use (token : Token) (entry : Variable) : (use token entry).token = token := rfl

@[simp] theorem slot?_use (token : Token) (entry : Variable) :
    (use token entry).slot? = some entry.slot := by
  obtain ⟨name, type, kind, index⟩ := entry
  cases kind <;> rfl

@[simp] theorem slot?_className (token : Token) (isDeclaration : Bool) :
    (Name.mk token (.className isDeclaration)).slot? = none := rfl

@[simp] theorem pushCode_use (token : Token) (entry : Variable) :
    (use token entry).pushCode = [entry.push] := by
  simp [pushCode]

@[simp] theorem popCode_use (token : Token) (entry : Variable) :
    (use token entry).popCode = [entry.pop] := by
  simp [popCode]

end Name

/-- What the code of a subroutine depends on besides its own tree. -/
structure Context where
  className : String
  typeOf : String → String

def Arguments.values (arguments : Arguments) : List Node :=
  arguments.node.children.filter (·.production? == some .expression)

private theorem values_nodesBefore (arguments : Arguments) (later : List Node) :
    ((arguments.nodesBefore later).filter (·.production? == some .expression)).length =
      arguments.count + (later.filter (·.production? == some .expression)).length := by
  have production : ∀ value : Expression, value.node.production? = some .expression := by
    intro value
    cases value <;> rfl
  match arguments with
  | .none => simp [Arguments.nodesBefore, Arguments.count]
  | .one value =>
    simp only [Arguments.nodesBefore, List.filter_cons, production, BEq.rfl, if_true,
      List.length_cons, Arguments.count]
    omega
  | .more before comma value =>
    have plain : (Node.token comma).production? = none := rfl
    rw [Arguments.nodesBefore, values_nodesBefore before]
    simp only [List.filter_cons, plain, production, BEq.rfl, if_true, List.length_cons,
      Arguments.count, show (none == some Production.expression) = false from rfl,
      Bool.false_eq_true, if_false]
    omega

theorem Arguments.count_eq (arguments : Arguments) : arguments.count = arguments.values.length := by
  cases arguments with
  | none => rfl
  | one value => cases value <;> rfl
  | more before comma value =>
    have all := values_nodesBefore (.more before comma value) []
    exact all.symm

theorem Arguments.toNat_count (arguments : Arguments) (few : arguments.count < 65535) :
    arguments.values.length.toUInt16.toNat = arguments.count ∧
      (arguments.values.length + 1).toUInt16.toNat = arguments.count + 1 := by
  rw [← arguments.count_eq]
  constructor
  · exact UInt16.toNat_ofNat_of_lt (by rw [UInt16.size]; omega)
  · exact UInt16.toNat_ofNat_of_lt (by rw [UInt16.size]; omega)

mutual

def Term.code (context : Context) : Term → List Instruction
  | .constant _ value => value.code
  | .use name => name.pushCode
  | .element array _ index _ =>
    array.pushCode ++ (index.code context ++ [.apply .add, .pop .pointer 1, .push .thatCell 0])
  | .call call => call.code context
  | .group _ inner _ => inner.code context
  | .unary _ operator operand => operand.code context ++ [operator.code]

def Expression.code (context : Context) : Expression → List Instruction
  | .term term => term.code context
  | .binary left _ operator right =>
    left.code context ++ (right.code context ++ [operator.code])

/-- The object of a call goes before the arguments and is counted with them. -/
def Call.code (context : Context) : Call → List Instruction
  | .plain subroutine _ arguments _ =>
    .push .pointer 0 :: (arguments.code context ++
      [.call (context.className ++ "." ++ subroutine.token.text)
        (arguments.values.length + 1).toUInt16])
  | .qualified qualifier _ subroutine _ arguments _ =>
    match qualifier.slot? with
    | some slot =>
      slot.push :: (arguments.code context ++
        [.call (context.typeOf qualifier.token.text ++ "." ++ subroutine.token.text)
          (arguments.values.length + 1).toUInt16])
    | none =>
      arguments.code context ++
        [.call (qualifier.token.text ++ "." ++ subroutine.token.text)
          arguments.values.length.toUInt16]

def Arguments.code (context : Context) : Arguments → List Instruction
  | .none => []
  | .one value => value.code context
  | .more before _ value => before.code context ++ value.code context

end

mutual

/-- The number of if and while statements in a statement, itself included. -/
def Statement.branches : Statement → Nat
  | .assign .. | .assignElement .. | .call .. | .leave .. | .leaveWith .. => 0
  | .when _ _ _ _ body => 1 + body.branches
  | .whenElse _ _ _ _ body _ alternative => 1 + (body.branches + alternative.branches)
  | .loop _ _ _ _ body => 1 + body.branches

def Block.branches : Block → Nat
  | .braces _ statements _ => branchesOfAll statements

def branchesOfAll : List Statement → Nat
  | [] => 0
  | statement :: statements => statement.branches + branchesOfAll statements

end

mutual

/-- The code of a statement before which the subroutine has `first` if and while statements. -/
def Statement.code (context : Context) (first : Nat) : Statement → List Instruction
  | .assign _ target _ value _ => value.code context ++ target.popCode
  | .assignElement _ array _ index _ _ value _ =>
    array.pushCode ++ (index.code context ++ .apply .add :: (value.code context ++ storeCode))
  | .when _ _ condition _ body =>
    condition.code context ++ .jumpIfFalse (elseLabel first) ::
      (body.code context (first + 1) ++ [.label (elseLabel first)])
  | .whenElse _ _ condition _ body _ alternative =>
    condition.code context ++ .jumpIfFalse (elseLabel first) ::
      (body.code context (first + 1) ++ .jump (endLabel first) :: .label (elseLabel first) ::
        (alternative.code context (first + 1 + body.branches) ++ [.label (endLabel first)]))
  | .loop _ _ condition _ body =>
    .label (testLabel first) :: (condition.code context ++ .jumpIfFalse (exitLabel first) ::
      (body.code context (first + 1) ++ [.jump (testLabel first), .label (exitLabel first)]))
  | .call _ call _ => call.code context ++ [.pop .temp 0]
  | .leave _ _ => [.push .constant 0, .ret]
  | .leaveWith _ value _ => value.code context ++ [.ret]

def Block.code (context : Context) (first : Nat) : Block → List Instruction
  | .braces _ statements _ => codeOfAll context first statements

def codeOfAll (context : Context) (first : Nat) : List Statement → List Instruction
  | [] => []
  | statement :: statements =>
    statement.code context first ++ codeOfAll context (first + statement.branches) statements

end

def declaredNames (type : String) (kind : VariableKind) (names : List (Name × Token)) :
    List Declaration :=
  names.map fun (name, _) => ⟨name.token.text, type, kind⟩

namespace VariableDec

def declared (kind : VariableKind) (declaration : VariableDec) : List Declaration :=
  declaredNames declaration.type.text kind declaration.names

def declaredBy (ofKeyword? : LexemeKind → Option VariableKind) (declaration : VariableDec) :
    List Declaration :=
  (ofKeyword? declaration.keyword.kind).toList.flatMap (declaration.declared ·)

theorem declaredBy_eq {ofKeyword? : LexemeKind → Option VariableKind} {declaration : VariableDec}
    {kind : VariableKind} (same : ofKeyword? declaration.keyword.kind = some kind) :
    declaration.declaredBy ofKeyword? = declaration.declared kind := by
  simp [declaredBy, same]

theorem names_declaredBy {ofKeyword? : LexemeKind → Option VariableKind}
    {declaration : VariableDec} (isSome : (ofKeyword? declaration.keyword.kind).isSome) :
    (declaration.declaredBy ofKeyword?).map (·.name) =
      declaration.names.map (·.1.token.text) := by
  obtain ⟨kind, same⟩ := Option.isSome_iff_exists.mp isSome
  simp [declaredBy_eq same, declared, declaredNames]

end VariableDec

def Parameter.declared (parameter : Parameter) : Declaration :=
  ⟨parameter.name.token.text, parameter.type.text, .argument⟩

/-- The object that a method is called on is its first argument. -/
def SubroutineKind.declared (className : String) : SubroutineKind → List Declaration
  | method => [⟨"this", className, .argument⟩]
  | ctor | function => []

namespace Subroutine

def declared (className : String) (subroutine : Subroutine) : List Declaration :=
  subroutine.kind.declared className ++ (subroutine.parameters.map Parameter.declared ++
    subroutine.body.locals.flatMap (VariableDec.declaredBy VariableKind.ofLocalKeyword?))

end Subroutine

namespace ClassDec

def declared (declaration : ClassDec) : List Declaration :=
  declaration.declarations.flatMap (VariableDec.declaredBy VariableKind.ofClassKeyword?)

def log (declaration : ClassDec) (subroutine : Subroutine) : Log :=
  (subroutine.declared declaration.name.token.text).reverse ++ declaration.declared.reverse

def context (declaration : ClassDec) (subroutine : Subroutine) : Context :=
  ⟨declaration.name.token.text,
    fun name => (((declaration.log subroutine).lookup? name).map (·.type)).getD ""⟩

def functionName (declaration : ClassDec) (subroutine : Subroutine) : String :=
  declaration.name.token.text ++ "." ++ subroutine.name.token.text

def localCount (declaration : ClassDec) (subroutine : Subroutine) : UInt16 :=
  ((declaration.log subroutine).count .localVar).toUInt16

def fieldCount (declaration : ClassDec) : UInt16 :=
  (Log.count declaration.declared.reverse .field).toUInt16

def bodyCode (declaration : ClassDec) (subroutine : Subroutine) : List Instruction :=
  subroutine.kind.prologue declaration.fieldCount ++
    codeOfAll (declaration.context subroutine) 0 subroutine.body.statements

def subroutineCode (declaration : ClassDec) (subroutine : Subroutine) : List Instruction :=
  .function (declaration.functionName subroutine) (declaration.localCount subroutine) ::
    declaration.bodyCode subroutine

def code (declaration : ClassDec) : List Instruction :=
  declaration.subroutines.flatMap declaration.subroutineCode

end ClassDec

end Jack
