import Jack.Proofs.Accepted
import Jack.Proofs.Token.Listed
import Jack.Proofs.Vm.Decode

namespace Jack

theorem Lacks.dotted {first last : String} (ofClass : OneLine first) (own : OneLine last) :
    OneLine (first ++ "." ++ last) :=
  (ofClass.append (by decide)).append own

theorem oneLine_elseLabel (number : Nat) : OneLine (elseLabel number) :=
  .append (by decide) (.number rfl number)

theorem oneLine_endLabel (number : Nat) : OneLine (endLabel number) :=
  .append (by decide) (.number rfl number)

theorem oneLine_testLabel (number : Nat) : OneLine (testLabel number) :=
  .append (by decide) (.number rfl number)

theorem oneLine_exitLabel (number : Nat) : OneLine (exitLabel number) :=
  .append (by decide) (.number rfl number)

namespace Name

theorem oneLineNames_pushCode (name : Name) : OneLineNames name.pushCode := by
  intro instruction member
  obtain ⟨slot, _, rfl⟩ := List.mem_map.mp member
  exact Instruction.oneLineName_push

theorem oneLineNames_popCode (name : Name) : OneLineNames name.popCode := by
  intro instruction member
  obtain ⟨slot, _, rfl⟩ := List.mem_map.mp member
  exact Instruction.oneLineName_pop

end Name

theorem Constant.oneLineNames_code (value : Constant) : OneLineNames value.code := by
  cases value with
  | string contents =>
    have new : OneLine "String.new" := by decide
    have append : OneLine "String.appendChar" := by decide
    have chars : OneLineNames (contents.toList.flatMap charCode) := by
      intro instruction member
      obtain ⟨c, _, inside⟩ := List.mem_flatMap.mp member
      have each : OneLineNames (charCode c) := by simp [charCode, append]
      exact each instruction inside
    simp [code, stringCode, new, chars]
  | integer value => simp [code]
  | truth => simp [code]
  | falsity => simp [code]
  | null => simp [code]
  | this => simp [code]

theorem UnaryOperator.oneLineName_code (operator : UnaryOperator) : operator.code.OneLineName := by
  cases operator <;> simp [code]

theorem BinaryOperator.oneLineName_code (operator : BinaryOperator) : operator.code.OneLineName := by
  have multiply : OneLine "Math.multiply" := by decide
  have divide : OneLine "Math.divide" := by decide
  cases operator <;> simp [code, multiply, divide]

structure Context.OneLineNames (context : Context) : Prop where
  className : OneLine context.className
  typeOf : ∀ name, OneLine (context.typeOf name)

section

variable {context : Context}

mutual

theorem Term.oneLineNames_code (whole : context.OneLineNames) (term : Term) :
    OneLineNames (term.code context) := by
  cases term with
  | constant token value => exact value.oneLineNames_code
  | use name => exact name.oneLineNames_pushCode
  | element array opening index closing =>
    have inside := index.oneLineNames_code whole
    simp [Term.code, array.oneLineNames_pushCode, inside]
  | call call => exact call.oneLineNames_code whole
  | group opening inner closing => exact inner.oneLineNames_code whole
  | unary token operator operand =>
    have inside := operand.oneLineNames_code whole
    simp [Term.code, inside, operator.oneLineName_code]

theorem Expression.oneLineNames_code (whole : context.OneLineNames) (value : Expression) :
    OneLineNames (value.code context) := by
  cases value with
  | term term => exact term.oneLineNames_code whole
  | binary left token operator right =>
    have first := left.oneLineNames_code whole
    have second := right.oneLineNames_code whole
    simp [Expression.code, first, second, operator.oneLineName_code]

theorem Call.oneLineNames_code (whole : context.OneLineNames) (call : Call) :
    OneLineNames (call.code context) := by
  cases call with
  | plain subroutine opening arguments closing =>
    have passed := arguments.oneLineNames_code whole
    have called := whole.className.dotted subroutine.token.oneLine_text
    simp [Call.code, passed, called]
  | qualified qualifier dot subroutine opening arguments closing =>
    have passed := arguments.oneLineNames_code whole
    cases object : qualifier.slot? with
    | some slot =>
      have called := (whole.typeOf qualifier.token.text).dotted subroutine.token.oneLine_text
      simp [Call.code, object, passed, called, Slot.push]
    | none =>
      have called := qualifier.token.oneLine_text.dotted subroutine.token.oneLine_text
      simp [Call.code, object, passed, called]

theorem Arguments.oneLineNames_code (whole : context.OneLineNames) (arguments : Arguments) :
    OneLineNames (arguments.code context) := by
  cases arguments with
  | none => exact oneLineNames_nil
  | one value => exact value.oneLineNames_code whole
  | more before comma value =>
    have first := before.oneLineNames_code whole
    have second := value.oneLineNames_code whole
    simp [Arguments.code, first, second]

end

mutual

theorem Statement.oneLineNames_code (whole : context.OneLineNames) (first : Nat)
    (statement : Statement) : OneLineNames (statement.code context first) := by
  cases statement with
  | assign keyword target equals value semicolon =>
    have right := value.oneLineNames_code whole
    exact oneLineNames_append.mpr ⟨right, target.oneLineNames_popCode⟩
  | assignElement keyword array opening index closing equals value semicolon =>
    have inside := index.oneLineNames_code whole
    have right := value.oneLineNames_code whole
    simp [Statement.code, array.oneLineNames_pushCode, inside, right, storeCode]
  | when keyword opening condition closing body =>
    have tested := condition.oneLineNames_code whole
    have inside := body.oneLineNames_code whole (first + 1)
    simp [Statement.code, tested, inside, oneLine_elseLabel]
  | whenElse keyword opening condition closing body elseKeyword alternative =>
    have tested := condition.oneLineNames_code whole
    have inside := body.oneLineNames_code whole (first + 1)
    have otherwise := alternative.oneLineNames_code whole (first + 1 + body.branches)
    simp [Statement.code, tested, inside, otherwise, oneLine_elseLabel, oneLine_endLabel]
  | loop keyword opening condition closing body =>
    have tested := condition.oneLineNames_code whole
    have inside := body.oneLineNames_code whole (first + 1)
    simp [Statement.code, tested, inside, oneLine_testLabel, oneLine_exitLabel]
  | call keyword call semicolon =>
    have called := call.oneLineNames_code whole
    simp [Statement.code, called]
  | leave keyword semicolon => simp [Statement.code]
  | leaveWith keyword value semicolon =>
    have right := value.oneLineNames_code whole
    simp [Statement.code, right]

theorem Block.oneLineNames_code (whole : context.OneLineNames) (first : Nat) (block : Block) :
    OneLineNames (block.code context first) := by
  cases block with
  | braces opening statements closing => exact oneLineNames_codeOfAll whole first statements

theorem oneLineNames_codeOfAll (whole : context.OneLineNames) (first : Nat)
    (statements : List Statement) : OneLineNames (codeOfAll context first statements) := by
  cases statements with
  | nil => exact oneLineNames_nil
  | cons statement statements =>
    have here := statement.oneLineNames_code whole first
    have later := oneLineNames_codeOfAll whole (first + statement.branches) statements
    exact oneLineNames_append.mpr ⟨here, later⟩

end

end

theorem TypeName.oneLine_text (type : TypeName) : OneLine type.text := by
  cases type with
  | builtin token => exact token.oneLine_text
  | className name => exact name.token.oneLine_text

theorem VariableDec.oneLine_type {ofKeyword? : LexemeKind → Option VariableKind}
    {declaration : VariableDec} {new : Declaration} (member : new ∈ declaration.declaredBy ofKeyword?) :
    OneLine new.type := by
  obtain ⟨kind, _, inside⟩ := List.mem_flatMap.mp member
  obtain ⟨name, _, rfl⟩ := List.mem_map.mp inside
  exact declaration.type.oneLine_text

theorem Log.type_of_latest? {log : Log} {kind : VariableKind} {name : String} {entry : Variable}
    (found : log.latest? kind name = some entry) : ∃ declaration ∈ log, declaration.type = entry.type := by
  induction log with
  | nil => cases found
  | cons declaration older ih =>
    unfold latest? at found
    split at found
    · cases found
      exact ⟨declaration, List.mem_cons_self, rfl⟩
    · obtain ⟨other, member, same⟩ := ih found
      exact ⟨other, List.mem_cons_of_mem _ member, same⟩

namespace ClassDec

variable (declaration : ClassDec) (subroutine : Subroutine)

theorem oneLine_type {new : Declaration} (member : new ∈ declaration.log subroutine) :
    OneLine new.type := by
  rcases List.mem_append.mp member with member | member
  · rcases List.mem_append.mp (List.mem_reverse.mp member) with object | member
    · cases method : subroutine.kind with
      | method =>
        rw [method] at object
        obtain rfl := List.mem_singleton.mp object
        exact declaration.name.token.oneLine_text
      | ctor =>
        rw [method] at object
        cases object
      | function =>
        rw [method] at object
        cases object
    · rcases List.mem_append.mp member with member | member
      · obtain ⟨parameter, _, rfl⟩ := List.mem_map.mp member
        exact parameter.type.oneLine_text
      · obtain ⟨group, _, inside⟩ := List.mem_flatMap.mp member
        exact group.oneLine_type inside
  · obtain ⟨group, _, inside⟩ := List.mem_flatMap.mp (List.mem_reverse.mp member)
    exact group.oneLine_type inside

theorem oneLineNames_context : (declaration.context subroutine).OneLineNames := by
  refine ⟨declaration.name.token.oneLine_text, ?_⟩
  intro name
  dsimp only [context]
  cases found : (declaration.log subroutine).lookup? name with
  | none => decide
  | some entry =>
    obtain ⟨kind, _, latest⟩ := List.exists_of_findSome?_eq_some found
    obtain ⟨new, member, same⟩ := Log.type_of_latest? latest
    have whole := declaration.oneLine_type subroutine member
    rwa [same] at whole

theorem oneLineNames_subroutineCode : OneLineNames (declaration.subroutineCode subroutine) := by
  have header : OneLine (declaration.functionName subroutine) :=
    declaration.name.token.oneLine_text.dotted subroutine.name.token.oneLine_text
  have alloc : OneLine "Memory.alloc" := by decide
  have prologue : OneLineNames (subroutine.kind.prologue declaration.fieldCount) := by
    cases subroutine.kind <;> simp [SubroutineKind.prologue, alloc]
  have body := oneLineNames_codeOfAll (declaration.oneLineNames_context subroutine) 0
    subroutine.body.statements
  simp [subroutineCode, bodyCode, header, prologue, body]

theorem oneLineNames_code : OneLineNames declaration.code := by
  intro instruction member
  obtain ⟨subroutine, _, inside⟩ := List.mem_flatMap.mp member
  exact declaration.oneLineNames_subroutineCode subroutine instruction inside

end ClassDec

end Jack
