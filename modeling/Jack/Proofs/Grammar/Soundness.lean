import Jack.Proofs.Grammar.Basic
import Jack.Proofs.Accepted

namespace Jack

open Grammar

namespace Grammar

def DerivesKnown (names : VariableTable) (phrase : Phrase) (tokens : List Token) : Prop :=
  ∃ used, Derives phrase tokens used ∧ ∀ token ∈ used, names.Knows token.text

theorem Derives.operations_snoc {first operand used usedLast : List Token} {operator : Token}
    {mark : Char} (derived : Derives .operations first used) (isMark : mark ∈ operatorMarks)
    (isOperator : operator.isSymbol mark) (last : Derives .term operand usedLast) :
    Derives .operations (first ++ operator :: operand) (used ++ usedLast) := by
  generalize same : Phrase.operations = phrase at derived
  induction derived with
  | noOperation =>
    have alone := Derives.operation isMark isOperator last .noOperation
    simpa using alone
  | operation isMark' isOperator' derived' rest ih_operand ih =>
    have longer := Derives.operation isMark' isOperator' derived' (ih same)
    simpa using longer
  | _ => cases same

theorem Derives.expression_snoc {first operand used usedLast : List Token} {operator : Token}
    {mark : Char} (derived : Derives .expression first used) (isMark : mark ∈ operatorMarks)
    (isOperator : operator.isSymbol mark) (last : Derives .term operand usedLast) :
    Derives .expression (first ++ operator :: operand) (used ++ usedLast) := by
  cases derived with
  | expression start rest =>
    have longer := Derives.expression start (rest.operations_snoc isMark isOperator last)
    simpa using longer

theorem Derives.moreExpressions_snoc {first value used usedLast : List Token} {comma : Token}
    (derived : Derives .moreExpressions first used) (separates : comma.isSymbol ',')
    (last : Derives .expression value usedLast) :
    Derives .moreExpressions (first ++ comma :: value) (used ++ usedLast) := by
  generalize same : Phrase.moreExpressions = phrase at derived
  induction derived with
  | noMore =>
    have alone := Derives.more separates last .noMore
    simpa using alone
  | more separates' derived' rest ih_value ih =>
    have longer := Derives.more separates' derived' (ih same)
    simpa using longer
  | _ => cases same

theorem Derives.expressionList_snoc {first value used usedLast : List Token} {comma : Token}
    (derived : Derives .expressionList first used) (nonempty : first ≠ [])
    (separates : comma.isSymbol ',') (last : Derives .expression value usedLast) :
    Derives .expressionList (first ++ comma :: value) (used ++ usedLast) := by
  cases derived with
  | noExpressions => exact absurd rfl nonempty
  | expressions start rest =>
    have longer := Derives.expressions start (rest.moreExpressions_snoc separates last)
    simpa using longer

theorem derives_constant {token : Token} {value : Constant}
    (constant : Constant.ofKind? token.kind = some value) : Derives .term [token] [] := by
  generalize same : token.kind = kind at constant
  cases kind with
  | integer number => exact .integer same
  | string contents => exact .string same
  | keyword word =>
    have isConstant : word ∈ constantWords := by cases word <;> first | decide | cases constant
    exact .keyword isConstant (by simp [Token.isKeyword, same])
  | symbol mark => cases constant
  | identifier => cases constant

theorem isSymbol_of_unary {token : Token} {operator : UnaryOperator}
    (start : TermStart.ofKind? token.kind = some (.unary operator)) :
    token.isSymbol '-' ∨ token.isSymbol '~' := by
  cases same : token.kind with
  | symbol mark =>
    simp only [same, TermStart.ofKind?, TermStart.ofSymbol?] at start
    split at start
    · cases start
    · simp only [Option.map_eq_some_iff, TermStart.unary.injEq] at start
      obtain ⟨other, found, rfl⟩ := start
      unfold UnaryOperator.ofSymbol? at found
      split at found
      · exact .inl (by simp [Token.isSymbol, same])
      · exact .inr (by simp [Token.isSymbol, same])
      · cases found
  | identifier => simp [same, TermStart.ofKind?] at start
  | keyword word => simp [same, TermStart.ofKind?] at start
  | integer value => simp [same, TermStart.ofKind?] at start
  | string contents => simp [same, TermStart.ofKind?] at start

theorem isSymbol_of_binary {token : Token} {operator : BinaryOperator}
    (isOperator : BinaryOperator.ofKind? token.kind = some operator) :
    ∃ mark ∈ operatorMarks, token.isSymbol mark := by
  unfold BinaryOperator.ofKind? at isOperator
  split at isOperator
  · rename_i mark same
    refine ⟨mark, ?_, by simp [Token.isSymbol, same]⟩
    unfold BinaryOperator.ofSymbol? at isOperator
    split at isOperator <;> cases isOperator <;> simp [operatorMarks]
  · cases isOperator

end Grammar

section

variable {names : VariableTable}

mutual

theorem Term.derives (term : Term) (grammatical : term.Grammatical) (resolved : term.Resolved names) :
    DerivesKnown names .term term.tokens := by
  cases term with
  | constant token value => exact ⟨[], derives_constant grammatical, by simp⟩
  | use name => exact ⟨[name.token], .use grammatical, by simpa using resolved.knows⟩
  | element array opening index closing =>
    obtain ⟨isName, opens, inside, closes⟩ := grammatical
    obtain ⟨used, derived, known⟩ := index.derives inside resolved.2
    exact ⟨array.token :: used, .element isName opens derived closes,
      List.forall_mem_cons.mpr ⟨resolved.1.knows, known⟩⟩
  | call call =>
    obtain ⟨used, derived, known⟩ := call.derives grammatical resolved
    exact ⟨used, .called derived, known⟩
  | group opening inner closing =>
    obtain ⟨opens, inside, closes⟩ := grammatical
    obtain ⟨used, derived, known⟩ := inner.derives inside resolved
    exact ⟨used, .group opens derived closes, known⟩
  | unary token operator operand =>
    obtain ⟨start, inside⟩ := grammatical
    obtain ⟨used, derived, known⟩ := operand.derives inside resolved
    exact ⟨used, .unary (isSymbol_of_unary start) derived, known⟩

theorem Expression.derives (value : Expression) (grammatical : value.Grammatical)
    (resolved : value.Resolved names) : DerivesKnown names .expression value.tokens := by
  cases value with
  | term term =>
    obtain ⟨used, derived, known⟩ := term.derives grammatical resolved
    have alone := Derives.expression derived .noOperation
    simp only [List.append_nil] at alone
    exact ⟨used, alone, known⟩
  | binary left token operator right =>
    obtain ⟨before, isOperator, operand⟩ := grammatical
    obtain ⟨used, derived, known⟩ := left.derives before resolved.1
    obtain ⟨usedLast, last, knownLast⟩ := right.derives operand resolved.2
    obtain ⟨mark, isMark, isSymbol⟩ := isSymbol_of_binary isOperator
    exact ⟨used ++ usedLast, derived.expression_snoc isMark isSymbol last,
      List.forall_mem_append.mpr ⟨known, knownLast⟩⟩

theorem Call.derives (call : Call) (grammatical : call.Grammatical) (resolved : call.Resolved names) :
    DerivesKnown names .call call.tokens := by
  cases call with
  | plain subroutine opening arguments closing =>
    obtain ⟨isName, opens, inside, closes⟩ := grammatical
    obtain ⟨used, derived, known⟩ := arguments.derives inside resolved.2
    exact ⟨used, .plainCall isName opens derived closes, known⟩
  | qualified qualifier dot subroutine opening arguments closing =>
    obtain ⟨isQualifier, dots, isName, opens, inside, closes⟩ := grammatical
    obtain ⟨used, derived, known⟩ := arguments.derives inside resolved.2.2
    exact ⟨used, .qualifiedCall isQualifier dots isName opens derived closes, known⟩

theorem Arguments.derives (arguments : Arguments) (grammatical : arguments.Grammatical)
    (resolved : arguments.Resolved names) : DerivesKnown names .expressionList arguments.tokens := by
  cases arguments with
  | none => exact ⟨[], .noExpressions, by simp⟩
  | one value =>
    obtain ⟨used, derived, known⟩ := value.derives grammatical resolved
    have alone := Derives.expressions derived .noMore
    simp only [List.append_nil] at alone
    exact ⟨used, alone, known⟩
  | more before comma value =>
    obtain ⟨isSome, inside, separates, last⟩ := grammatical
    obtain ⟨used, derived, known⟩ := before.derives inside resolved.1
    obtain ⟨usedLast, derivedLast, knownLast⟩ := value.derives last resolved.2
    have nonempty : before.tokens ≠ [] := by
      cases before with
      | none => exact absurd rfl isSome
      | one first => exact first.tokens_ne_nil
      | more first comma' second => simp [Arguments.tokens]
    exact ⟨used ++ usedLast, derived.expressionList_snoc nonempty separates derivedLast,
      List.forall_mem_append.mpr ⟨known, knownLast⟩⟩

end

mutual

theorem Statement.derives (statement : Statement) (grammatical : statement.Grammatical)
    (resolved : statement.Resolved names) : DerivesKnown names .statement statement.tokens := by
  cases statement with
  | assign keyword target equals value semicolon =>
    obtain ⟨isLet, isName, assigns, inside, ends⟩ := grammatical
    obtain ⟨used, derived, known⟩ := value.derives inside resolved.2
    exact ⟨target.token :: used, .assign isLet isName assigns derived ends,
      List.forall_mem_cons.mpr ⟨resolved.1.knows, known⟩⟩
  | assignElement keyword array opening index closing equals value semicolon =>
    obtain ⟨isLet, isName, opens, inside, closes, assigns, right, ends⟩ := grammatical
    obtain ⟨used, derived, known⟩ := index.derives inside resolved.2.1
    obtain ⟨usedLater, derivedLater, knownLater⟩ := value.derives right resolved.2.2
    exact ⟨array.token :: (used ++ usedLater),
      .assignElement isLet isName opens derived closes assigns derivedLater ends,
      List.forall_mem_cons.mpr ⟨resolved.1.knows, List.forall_mem_append.mpr ⟨known, knownLater⟩⟩⟩
  | when keyword opening condition closing body =>
    obtain ⟨isIf, opens, tested, closes, inside⟩ := grammatical
    obtain ⟨used, derived, known⟩ := condition.derives tested resolved.1
    obtain ⟨usedLater, derivedLater, knownLater⟩ := body.derives inside resolved.2
    exact ⟨used ++ usedLater, .when isIf opens derived closes derivedLater,
      List.forall_mem_append.mpr ⟨known, knownLater⟩⟩
  | whenElse keyword opening condition closing body elseKeyword alternative =>
    obtain ⟨isIf, opens, tested, closes, inside, isElse, otherwise⟩ := grammatical
    obtain ⟨used, derived, known⟩ := condition.derives tested resolved.1
    obtain ⟨usedLater, derivedLater, knownLater⟩ := body.derives inside resolved.2.1
    obtain ⟨usedElse, derivedElse, knownElse⟩ := alternative.derives otherwise resolved.2.2
    exact ⟨used ++ (usedLater ++ usedElse),
      .whenElse isIf opens derived closes derivedLater isElse derivedElse,
      List.forall_mem_append.mpr ⟨known, List.forall_mem_append.mpr ⟨knownLater, knownElse⟩⟩⟩
  | loop keyword opening condition closing body =>
    obtain ⟨isWhile, opens, tested, closes, inside⟩ := grammatical
    obtain ⟨used, derived, known⟩ := condition.derives tested resolved.1
    obtain ⟨usedLater, derivedLater, knownLater⟩ := body.derives inside resolved.2
    exact ⟨used ++ usedLater, .loop isWhile opens derived closes derivedLater,
      List.forall_mem_append.mpr ⟨known, knownLater⟩⟩
  | call keyword call semicolon =>
    obtain ⟨isDo, inside, ends⟩ := grammatical
    obtain ⟨used, derived, known⟩ := call.derives inside resolved
    exact ⟨used, .call isDo derived ends, known⟩
  | leave keyword semicolon =>
    obtain ⟨isReturn, ends⟩ := grammatical
    exact ⟨[], .leave isReturn ends, by simp⟩
  | leaveWith keyword value semicolon =>
    obtain ⟨isReturn, inside, ends⟩ := grammatical
    obtain ⟨used, derived, known⟩ := value.derives inside resolved
    exact ⟨used, .leaveWith isReturn derived ends, known⟩

theorem Block.derives (block : Block) (grammatical : block.Grammatical)
    (resolved : block.Resolved names) : DerivesKnown names .block block.tokens := by
  cases block with
  | braces opening statements closing =>
    obtain ⟨opens, inside, closes⟩ := grammatical
    obtain ⟨used, derived, known⟩ := derives_statements statements inside resolved
    exact ⟨used, .block opens derived closes, known⟩

theorem derives_statements (statements : List Statement) (grammatical : GrammaticalAll statements)
    (resolved : ResolvedAll names statements) :
    DerivesKnown names .statements (statementTokens statements) := by
  cases statements with
  | nil => exact ⟨[], .noStatements, by simp⟩
  | cons statement statements =>
    obtain ⟨used, derived, known⟩ := statement.derives grammatical.1 resolved.1
    obtain ⟨usedLater, derivedLater, knownLater⟩ :=
      derives_statements statements grammatical.2 resolved.2
    exact ⟨used ++ usedLater, .statements derived derivedLater,
      List.forall_mem_append.mpr ⟨known, knownLater⟩⟩

end

end

namespace Grammar

theorem repeated_of_forall {α β : Type} {part : List Token → List α → Prop} {items : List β}
    {tokens : β → List Token} {found : β → List α}
    (derived : ∀ item ∈ items, part (tokens item) (found item)) :
    Repeated part (items.flatMap tokens) (items.flatMap found) := by
  induction items with
  | nil => exact .none
  | cons item items ih =>
    exact .next (derived item (by simp)) (ih fun other member => derived other (by simp [member]))

theorem isType_of_builtin {token : Token} (builtin : isBuiltinType token.kind) : IsType token := by
  unfold isBuiltinType at builtin
  split at builtin
  · rename_i same
    exact .inl (by simp [Token.isKeyword, same])
  · rename_i same
    exact .inr (.inl (by simp [Token.isKeyword, same]))
  · rename_i same
    exact .inr (.inr (.inl (by simp [Token.isKeyword, same])))
  · cases builtin

theorem derivesNames {names : List (Name × Token)} (grammatical : GrammaticalNames names) :
    DerivesNames (nameTokens names) (names.map (·.1.token.text)) := by
  fun_induction GrammaticalNames names with
  | case1 => exact grammatical.elim
  | case2 name separator => exact .last grammatical.1 grammatical.2
  | case3 name separator names more ih =>
    obtain ⟨isName, separates, rest⟩ := grammatical
    exact .more isName separates (ih rest)

end Grammar

theorem TypeName.isType {type : TypeName} (grammatical : type.Grammatical) : IsType type.token := by
  cases type with
  | builtin token => exact isType_of_builtin grammatical
  | className name => exact .inr (.inr (.inr grammatical))

theorem TypeName.isReturn {type : TypeName} (grammatical : type.IsReturn) :
    type.token.isKeyword .voidKw ∨ IsType type.token := by
  cases type with
  | builtin token =>
    rcases grammatical with isVoid | builtin
    · exact .inl isVoid
    · exact .inr (isType_of_builtin builtin)
  | className name => exact .inr (.inr (.inr (.inr grammatical)))

namespace Grammar

theorem derivesParameters {parameters : List Parameter}
    (grammatical : GrammaticalParameters parameters) (nonempty : parameters ≠ []) :
    DerivesParameters (parameters.flatMap Parameter.tokens)
      (parameters.map (·.name.token.text)) := by
  fun_induction GrammaticalParameters parameters with
  | case1 => exact absurd rfl nonempty
  | case2 parameter =>
    obtain ⟨isType, isName, noComma⟩ := grammatical
    have last := DerivesParameters.last (TypeName.isType isType) isName
    simpa [Parameter.tokens, noComma] using last
  | case3 parameter parameters more ih =>
    obtain ⟨isType, isName, ⟨comma, same, separates⟩, rest⟩ := grammatical
    have longer := DerivesParameters.more (TypeName.isType isType) isName separates (ih rest more)
    simpa [Parameter.tokens, same] using longer

theorem derivesParameterList {parameters : List Parameter}
    (grammatical : GrammaticalParameters parameters) :
    DerivesParameterList (parameters.flatMap Parameter.tokens)
      (parameters.map (·.name.token.text)) := by
  by_cases empty : parameters = []
  · rw [empty]
    exact .none
  · exact .some (derivesParameters grammatical empty)

theorem Derives.isIdentifier {phrase : Phrase} {tokens used : List Token}
    (derived : Derives phrase tokens used) : ∀ token ∈ used, token.isIdentifier := by
  induction derived with
  | use isName => simpa using isName
  | element isName opens inside closes ih => exact List.forall_mem_cons.mpr ⟨isName, ih⟩
  | assign isLet isName assigns derived ends ih => exact List.forall_mem_cons.mpr ⟨isName, ih⟩
  | assignElement isLet isName opens inside closes assigns derived ends ih ihLater =>
    exact List.forall_mem_cons.mpr ⟨isName, List.forall_mem_append.mpr ⟨ih, ihLater⟩⟩
  | whenElse isIf opens tested closes derived isElse otherwise ih ihLater ihElse =>
    exact List.forall_mem_append.mpr ⟨ih, List.forall_mem_append.mpr ⟨ihLater, ihElse⟩⟩
  | expression derived rest ih ihLater => exact List.forall_mem_append.mpr ⟨ih, ihLater⟩
  | operation isMark isOperator derived rest ih ihLater =>
    exact List.forall_mem_append.mpr ⟨ih, ihLater⟩
  | expressions derived rest ih ihLater => exact List.forall_mem_append.mpr ⟨ih, ihLater⟩
  | more separates derived rest ih ihLater => exact List.forall_mem_append.mpr ⟨ih, ihLater⟩
  | when isIf opens tested closes derived ih ihLater =>
    exact List.forall_mem_append.mpr ⟨ih, ihLater⟩
  | loop isWhile opens tested closes derived ih ihLater =>
    exact List.forall_mem_append.mpr ⟨ih, ihLater⟩
  | statements derived rest ih ihLater => exact List.forall_mem_append.mpr ⟨ih, ihLater⟩
  | _ => first | assumption | simp

end Grammar

namespace VariableKind

theorem isKeyword_of_ofClassKeyword? {token : Token} (begins : (ofClassKeyword? token.kind).isSome) :
    token.isKeyword .staticKw ∨ token.isKeyword .fieldKw := by
  unfold ofClassKeyword? at begins
  split at begins
  · rename_i same
    exact .inl (by simp [Token.isKeyword, same])
  · rename_i same
    exact .inr (by simp [Token.isKeyword, same])
  · cases begins

theorem isKeyword_of_ofLocalKeyword? {token : Token} (begins : (ofLocalKeyword? token.kind).isSome) :
    token.isKeyword .varKw := by
  unfold ofLocalKeyword? at begins
  split at begins
  · rename_i same
    simp [Token.isKeyword, same]
  · cases begins

end VariableKind

theorem VariableDec.derivesClassVarDec {declaration : VariableDec}
    (grammatical : declaration.Grammatical VariableKind.ofClassKeyword?) :
    DerivesClassVarDec declaration.tokens
      ((declaration.declaredBy VariableKind.ofClassKeyword?).map (·.name)) := by
  obtain ⟨isSome, isType, names⟩ := grammatical
  rw [names_declaredBy isSome]
  exact .ofClass (VariableKind.isKeyword_of_ofClassKeyword? isSome) (TypeName.isType isType)
    (derivesNames names)

theorem VariableDec.derivesVarDec {declaration : VariableDec}
    (grammatical : declaration.Grammatical VariableKind.ofLocalKeyword?) :
    DerivesVarDec declaration.tokens
      ((declaration.declaredBy VariableKind.ofLocalKeyword?).map (·.name)) := by
  obtain ⟨isSome, isType, names⟩ := grammatical
  rw [names_declaredBy isSome]
  exact .locals (VariableKind.isKeyword_of_ofLocalKeyword? isSome) (TypeName.isType isType)
    (derivesNames names)

theorem SubroutineBody.derives {body : SubroutineBody} {names : VariableTable}
    (grammatical : body.Grammatical) (resolved : ResolvedAll names body.statements) :
    ∃ used, DerivesSubroutineBody body.tokens
        ((body.locals.flatMap (VariableDec.declaredBy VariableKind.ofLocalKeyword?)).map (·.name))
        used ∧
      ∀ token ∈ used, token.isIdentifier ∧ names.Knows token.text := by
  obtain ⟨opens, locals, statements, closes⟩ := grammatical
  obtain ⟨used, derived, known⟩ := derives_statements body.statements statements resolved
  have declares := repeated_of_forall fun declaration member =>
    VariableDec.derivesVarDec (locals declaration member)
  rw [← List.map_flatMap] at declares
  exact ⟨used, .body opens declares derived closes,
    fun token member => ⟨derived.isIdentifier token member, known token member⟩⟩

theorem SubroutineKind.isKeyword_of_ofKind? {token : Token} {kind : SubroutineKind}
    (begins : ofKind? token.kind = some kind) :
    token.isKeyword .constructorKw ∨ token.isKeyword .functionKw ∨ token.isKeyword .methodKw := by
  unfold ofKind? at begins
  split at begins
  · rename_i same
    exact .inl (by simp [Token.isKeyword, same])
  · rename_i same
    exact .inr (.inl (by simp [Token.isKeyword, same]))
  · rename_i same
    exact .inr (.inr (by simp [Token.isKeyword, same]))
  · cases begins

theorem Subroutine.mem_of_mem_declared {subroutine : Subroutine} {className name : String}
    (notThis : name ≠ "this") (member : name ∈ (subroutine.declared className).map (·.name)) :
    name ∈ subroutine.parameters.map (·.name.token.text) ++
      (subroutine.body.locals.flatMap
        (VariableDec.declaredBy VariableKind.ofLocalKeyword?)).map (·.name) := by
  have parameters : (subroutine.parameters.map Parameter.declared).map (·.name) =
      subroutine.parameters.map (·.name.token.text) := by
    simp [Parameter.declared]
  rw [declared, List.map_append, List.map_append, parameters] at member
  rcases List.mem_append.mp member with object | member
  · cases kind : subroutine.kind <;> simp_all [SubroutineKind.declared]
  · exact member

namespace ClassDec

variable {declaration : ClassDec} {subroutine : Subroutine}

theorem mem_of_knows {token : Token} (isName : token.isIdentifier)
    (known : (declaration.tableIn subroutine).Knows token.text) :
    token.text ∈ (subroutine.parameters.map (·.name.token.text) ++
      (subroutine.body.locals.flatMap
        (VariableDec.declaredBy VariableKind.ofLocalKeyword?)).map (·.name)) ++
      declaration.declared.map (·.name) := by
  rw [VariableTable.Knows, (declaration.tableIn_records subroutine).lookup?,
    Log.lookup?_isSome] at known
  simp only [log, List.map_append, List.map_reverse, List.mem_append, List.mem_reverse] at known
  rw [List.mem_append]
  exact known.imp_left (Subroutine.mem_of_mem_declared (Token.text_ne_this isName))

theorem derivesSubroutine (grammatical : subroutine.Grammatical)
    (resolved : subroutine.Resolved declaration.name.token.text declaration.table) :
    ∃ usage, DerivesSubroutine subroutine.tokens [usage] ∧
      ∀ token ∈ usage.used, token.text ∈ usage.declared ++ declaration.declared.map (·.name) := by
  obtain ⟨begins, isType, isName, opens, parameters, closes, body⟩ := grammatical
  obtain ⟨_, _, _, _, statements⟩ := resolved
  obtain ⟨used, derived, known⟩ := SubroutineBody.derives body statements
  refine ⟨⟨_, used⟩, .subroutine (SubroutineKind.isKeyword_of_ofKind? begins)
    (TypeName.isReturn isType) isName opens (derivesParameterList parameters) closes derived, ?_⟩
  intro token member
  exact mem_of_knows (known token member).1 (known token member).2

theorem derivesSubroutines {subroutines : List Subroutine}
    (all : ∀ subroutine ∈ subroutines, subroutine.Grammatical ∧
      subroutine.Resolved declaration.name.token.text declaration.table) :
    ∃ usages, Repeated DerivesSubroutine (subroutines.flatMap Subroutine.tokens) usages ∧
      ∀ usage ∈ usages, ∀ token ∈ usage.used,
        token.text ∈ usage.declared ++ declaration.declared.map (·.name) := by
  induction subroutines with
  | nil => exact ⟨[], .none, by simp⟩
  | cons subroutine subroutines ih =>
    obtain ⟨grammatical, resolved⟩ := all subroutine (by simp)
    obtain ⟨usage, derived, known⟩ := derivesSubroutine grammatical resolved
    obtain ⟨usages, rest, knownRest⟩ := ih fun other member => all other (by simp [member])
    exact ⟨usage :: usages, .next derived rest, List.forall_mem_cons.mpr ⟨known, knownRest⟩⟩

theorem derivesClass (grammatical : declaration.Grammatical) (resolved : declaration.Resolved) :
    ∃ classNames usages, DerivesClass declaration.tokens classNames usages ∧
      ∀ usage ∈ usages, ∀ token ∈ usage.used, token.text ∈ usage.declared ++ classNames := by
  obtain ⟨isClass, isName, opens, declarations, subroutines, closes⟩ := grammatical
  have all : ∀ subroutine ∈ declaration.subroutines, subroutine.Grammatical ∧
      subroutine.Resolved declaration.name.token.text declaration.table :=
    fun subroutine member => ⟨subroutines subroutine member, resolved.2.2 subroutine member⟩
  obtain ⟨usages, derived, known⟩ := derivesSubroutines all
  have declares := repeated_of_forall fun group member =>
    VariableDec.derivesClassVarDec (declarations group member)
  rw [← List.map_flatMap] at declares
  exact ⟨_, usages, .classDec isClass isName opens declares derived closes, known⟩

end ClassDec

end Jack
