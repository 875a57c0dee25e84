import Jack.Proofs.Program.Code

namespace Jack

/-- The variable that the qualifier of a call stands for. A capital letter makes it a class. -/
def VariableTable.qualifier? (names : VariableTable) (qualifier : String) : Option Variable :=
  if qualifier.toList.head?.any Char.isUpper then none else names.lookup? qualifier

def VariableTable.typeIn (names : VariableTable) (name : String) : String :=
  ((names.lookup? name).map (·.type)).getD ""

def VariableTable.Knows (names : VariableTable) (name : String) : Prop :=
  (names.lookup? name).isSome

namespace Name

def Uses (names : VariableTable) (name : Name) : Prop :=
  ∃ entry, names.lookup? name.token.text = some entry ∧ name = use name.token entry

theorem Uses.knows {names : VariableTable} {name : Name} (uses : name.Uses names) :
    names.Knows name.token.text := by
  obtain ⟨entry, found, _⟩ := uses
  rw [VariableTable.Knows, found]
  rfl

def Qualifies (names : VariableTable) (name : Name) : Prop :=
  match names.qualifier? name.token.text with
  | some entry => name = use name.token entry
  | none => name.resolution = .className false

end Name

mutual

def Term.Resolved (names : VariableTable) : Term → Prop
  | .constant _ _ => True
  | .use name => name.Uses names
  | .element array _ index _ => array.Uses names ∧ index.Resolved names
  | .call call => call.Resolved names
  | .group _ inner _ => inner.Resolved names
  | .unary _ _ operand => operand.Resolved names

def Expression.Resolved (names : VariableTable) : Expression → Prop
  | .term term => term.Resolved names
  | .binary left _ _ right => left.Resolved names ∧ right.Resolved names

def Call.Resolved (names : VariableTable) : Call → Prop
  | .plain subroutine _ arguments _ =>
    subroutine.resolution = .subroutine false ∧ arguments.Resolved names
  | .qualified qualifier _ subroutine _ arguments _ =>
    qualifier.Qualifies names ∧ subroutine.resolution = .subroutine false ∧
      arguments.Resolved names

def Arguments.Resolved (names : VariableTable) : Arguments → Prop
  | .none => True
  | .one value => value.Resolved names
  | .more before _ value => before.Resolved names ∧ value.Resolved names

end

mutual

def Statement.Resolved (names : VariableTable) : Statement → Prop
  | .assign _ target _ value _ => target.Uses names ∧ value.Resolved names
  | .assignElement _ array _ index _ _ value _ =>
    array.Uses names ∧ index.Resolved names ∧ value.Resolved names
  | .when _ _ condition _ body => condition.Resolved names ∧ body.Resolved names
  | .whenElse _ _ condition _ body _ alternative =>
    condition.Resolved names ∧ body.Resolved names ∧ alternative.Resolved names
  | .loop _ _ condition _ body => condition.Resolved names ∧ body.Resolved names
  | .call _ call _ => call.Resolved names
  | .leave _ _ => True
  | .leaveWith _ value _ => value.Resolved names

def Block.Resolved (names : VariableTable) : Block → Prop
  | .braces _ statements _ => ResolvedAll names statements

def ResolvedAll (names : VariableTable) : List Statement → Prop
  | [] => True
  | statement :: statements => statement.Resolved names ∧ ResolvedAll names statements

end

def TypeName.Resolved : TypeName → Prop
  | .builtin _ => True
  | .className name => name.resolution = .className false

def ResolvedNames (type : String) (kind : VariableKind) :
    VariableTable → List (Name × Token) → Prop
  | _, [] => True
  | names, (name, _) :: later =>
    name.resolution = .ofVariable kind true (names.count kind) ∧
      ResolvedNames type kind (names.define name.token.text type kind) later

def VariableDec.Resolved (kind : VariableKind) (names : VariableTable) (declaration : VariableDec) :
    Prop :=
  declaration.type.Resolved ∧ ResolvedNames declaration.type.text kind names declaration.names

/-- Declarations one after the other, each told its kind by its first keyword. -/
def ResolvedDecs (ofKeyword? : LexemeKind → Option VariableKind) :
    VariableTable → List VariableDec → Prop
  | _, [] => True
  | names, declaration :: later =>
    (∀ kind, ofKeyword? declaration.keyword.kind = some kind → declaration.Resolved kind names) ∧
      ResolvedDecs ofKeyword? (names.declare (declaration.declaredBy ofKeyword?)) later

def ResolvedParameters : VariableTable → List Parameter → Prop
  | _, [] => True
  | names, parameter :: later =>
    parameter.type.Resolved ∧
      parameter.name.resolution = .ofVariable .argument true (names.count .argument) ∧
      ResolvedParameters (names.declare [parameter.declared]) later

namespace Subroutine

def table (className : String) (names : VariableTable) (subroutine : Subroutine) : VariableTable :=
  names.startSubroutine.declare (subroutine.declared className)

def Resolved (className : String) (names : VariableTable) (subroutine : Subroutine) : Prop :=
  let object := names.startSubroutine.declare (subroutine.kind.declared className)
  let parameters := object.declare (subroutine.parameters.map Parameter.declared)
  subroutine.returnType.Resolved ∧ subroutine.name.resolution = .subroutine true ∧
    ResolvedParameters object subroutine.parameters ∧
    ResolvedDecs VariableKind.ofLocalKeyword? parameters subroutine.body.locals ∧
    ResolvedAll (subroutine.table className names) subroutine.body.statements

end Subroutine

namespace ClassDec

def table (declaration : ClassDec) : VariableTable :=
  VariableTable.empty.declare declaration.declared

def tableIn (declaration : ClassDec) (subroutine : Subroutine) : VariableTable :=
  subroutine.table declaration.name.token.text declaration.table

def Resolved (declaration : ClassDec) : Prop :=
  declaration.name.resolution = .className true ∧
    ResolvedDecs VariableKind.ofClassKeyword? .empty declaration.declarations ∧
    ∀ subroutine ∈ declaration.subroutines,
      subroutine.Resolved declaration.name.token.text declaration.table

end ClassDec

end Jack
