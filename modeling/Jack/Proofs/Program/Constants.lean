import Jack.Proofs.Grammar.Soundness

namespace Jack

/-- The code has the pieces, one after the other, with other code before, between and after them. -/
inductive Holds : List Instruction → List (List Instruction) → Prop where
  | nothing {code : List Instruction} : Holds code []
  | next {before piece later : List Instruction} {pieces : List (List Instruction)}
    (rest : Holds later pieces) : Holds (before ++ (piece ++ later)) (piece :: pieces)

namespace Holds

variable {code later : List Instruction} {pieces others : List (List Instruction)}

theorem piece (piece : List Instruction) : Holds piece [piece] := by
  have alone : Holds ([] ++ (piece ++ [])) [piece] := .next .nothing
  rwa [List.nil_append, List.append_nil] at alone

theorem prepend (before : List Instruction) (holds : Holds code pieces) :
    Holds (before ++ code) pieces := by
  cases holds with
  | nothing => exact .nothing
  | next rest =>
    rw [← List.append_assoc]
    exact .next rest

theorem cons (instruction : Instruction) (holds : Holds code pieces) :
    Holds (instruction :: code) pieces :=
  holds.prepend [instruction]

theorem append (first : Holds code pieces) (second : Holds later others) :
    Holds (code ++ later) (pieces ++ others) := by
  induction first with
  | nothing => exact second.prepend _
  | next rest ih =>
    rw [List.append_assoc, List.append_assoc]
    exact .next ih

theorem extend (later : List Instruction) (holds : Holds code pieces) :
    Holds (code ++ later) pieces := by
  have whole := holds.append (.nothing : Holds later [])
  rwa [List.append_nil] at whole

theorem flatMap {α : Type} {parts : List α} {codeOf : α → List Instruction}
    {piecesIn : α → List (List Instruction)}
    (each : ∀ part ∈ parts, Holds (codeOf part) (piecesIn part)) :
    Holds (parts.flatMap codeOf) (parts.flatMap piecesIn) := by
  induction parts with
  | nil => exact .nothing
  | cons part parts ih =>
    have here := each part List.mem_cons_self
    have others := ih fun other member => each other (List.mem_cons_of_mem _ member)
    rw [List.flatMap_cons, List.flatMap_cons]
    exact here.append others

end Holds

def Token.constant? (token : Token) : Option Constant :=
  Constant.ofKind? token.kind

def constantsOf (tokens : List Token) : List Constant :=
  tokens.filterMap Token.constant?

def constantCodes (tokens : List Token) : List (List Instruction) :=
  (constantsOf tokens).map Constant.code

section

variable {token : Token} {tokens later : List Token}

@[simp] theorem constantCodes_nil : constantCodes [] = [] := rfl

@[simp] theorem constantCodes_append :
    constantCodes (tokens ++ later) = constantCodes tokens ++ constantCodes later := by
  rw [constantCodes, constantsOf, List.filterMap_append, List.map_append]
  rfl

theorem constantCodes_flatMap {α : Type} (items : List α) (tokensOf : α → List Token) :
    constantCodes (items.flatMap tokensOf) =
      items.flatMap fun item => constantCodes (tokensOf item) := by
  rw [constantCodes, constantsOf, List.filterMap_flatMap, List.map_flatMap]
  rfl

theorem constantCodes_cons_of_none {kind : LexemeKind} (same : token.kind == kind)
    (noValue : Constant.ofKind? kind = none) : constantCodes (token :: tokens) = constantCodes tokens := by
  have noConstant : token.constant? = none := by rw [Token.constant?, eq_of_beq same, noValue]
  rw [constantCodes, constantsOf, List.filterMap_cons_none noConstant]
  rfl

theorem constantCodes_symbol {mark : Char} (isMark : token.isSymbol mark) :
    constantCodes (token :: tokens) = constantCodes tokens :=
  constantCodes_cons_of_none isMark rfl

theorem constantCodes_name (isName : token.isIdentifier) :
    constantCodes (token :: tokens) = constantCodes tokens :=
  constantCodes_cons_of_none isName rfl

theorem constantCodes_keyword {word : Keyword} (isWord : token.isKeyword word)
    (noValue : Constant.ofKind? (.keyword word) = none) :
    constantCodes (token :: tokens) = constantCodes tokens :=
  constantCodes_cons_of_none isWord noValue

theorem constantCodes_constant {value : Constant}
    (constant : Constant.ofKind? token.kind = some value) : constantCodes [token] = [value.code] := by
  have found : token.constant? = some value := constant
  rw [constantCodes, constantsOf, List.filterMap_cons_some found]
  rfl

end

section

variable (context : Context)

mutual

theorem Term.holds_constants (term : Term) (grammatical : term.Grammatical) :
    Holds (term.code context) (constantCodes term.tokens) := by
  cases term with
  | constant token value =>
    rw [Term.tokens, constantCodes_constant grammatical]
    exact .piece _
  | use name =>
    rw [Term.tokens, constantCodes_name grammatical]
    exact .nothing
  | element array opening index closing =>
    obtain ⟨isName, opens, inside, closes⟩ := grammatical
    have built := index.holds_constants inside
    simpa [Term.code, Term.tokens, constantCodes_name isName, constantCodes_symbol opens,
      constantCodes_symbol closes] using (built.extend _).prepend _
  | call call => exact call.holds_constants grammatical
  | group opening inner closing =>
    obtain ⟨opens, inside, closes⟩ := grammatical
    have built := inner.holds_constants inside
    simpa [Term.code, Term.tokens, constantCodes_symbol opens, constantCodes_symbol closes] using
      built
  | unary token operator operand =>
    obtain ⟨start, inside⟩ := grammatical
    have built := operand.holds_constants inside
    have noConstant : constantCodes (token :: operand.tokens) = constantCodes operand.tokens := by
      rcases Grammar.isSymbol_of_unary start with isMark | isMark
      · exact constantCodes_symbol isMark
      · exact constantCodes_symbol isMark
    rw [Term.tokens, noConstant]
    exact built.extend _

theorem Expression.holds_constants (value : Expression) (grammatical : value.Grammatical) :
    Holds (value.code context) (constantCodes value.tokens) := by
  cases value with
  | term term => exact term.holds_constants grammatical
  | binary left token operator right =>
    obtain ⟨before, isOperator, operand⟩ := grammatical
    obtain ⟨mark, _, isMark⟩ := Grammar.isSymbol_of_binary isOperator
    have first := left.holds_constants before
    have second := right.holds_constants operand
    rw [Expression.tokens, constantCodes_append, constantCodes_symbol isMark]
    exact first.append (second.extend _)

theorem Call.holds_constants (call : Call) (grammatical : call.Grammatical) :
    Holds (call.code context) (constantCodes call.tokens) := by
  cases call with
  | plain subroutine opening arguments closing =>
    obtain ⟨isName, opens, inside, closes⟩ := grammatical
    have built := arguments.holds_constants inside
    simpa [Call.code, Call.tokens, constantCodes_name isName, constantCodes_symbol opens,
      constantCodes_symbol closes] using (built.extend _).cons _
  | qualified qualifier dot subroutine opening arguments closing =>
    obtain ⟨isQualifier, dots, isName, opens, inside, closes⟩ := grammatical
    have built := arguments.holds_constants inside
    have constants :
        constantCodes (Call.qualified qualifier dot subroutine opening arguments closing).tokens =
          constantCodes arguments.tokens := by
      simp [Call.tokens, constantCodes_name isQualifier, constantCodes_symbol dots,
        constantCodes_name isName, constantCodes_symbol opens, constantCodes_symbol closes]
    rw [constants, Call.code]
    split
    · exact (built.extend _).cons _
    · exact built.extend _

theorem Arguments.holds_constants (arguments : Arguments) (grammatical : arguments.Grammatical) :
    Holds (arguments.code context) (constantCodes arguments.tokens) := by
  cases arguments with
  | none => exact .nothing
  | one value => exact value.holds_constants grammatical
  | more before comma value =>
    obtain ⟨_, inside, separates, last⟩ := grammatical
    have first := before.holds_constants inside
    have second := value.holds_constants last
    rw [Arguments.tokens, constantCodes_append, constantCodes_symbol separates]
    exact first.append second

end

mutual

theorem Statement.holds_constants (first : Nat) (statement : Statement)
    (grammatical : statement.Grammatical) :
    Holds (statement.code context first) (constantCodes statement.tokens) := by
  cases statement with
  | assign keyword target equals value semicolon =>
    obtain ⟨isLet, isName, assigns, right, ends⟩ := grammatical
    have built := value.holds_constants context right
    simpa [Statement.code, Statement.tokens, constantCodes_keyword isLet rfl,
      constantCodes_name isName, constantCodes_symbol assigns, constantCodes_symbol ends] using
      built.extend _
  | assignElement keyword array opening index closing equals value semicolon =>
    obtain ⟨isLet, isName, opens, inside, closes, assigns, right, ends⟩ := grammatical
    have place := index.holds_constants context inside
    have built := value.holds_constants context right
    simpa [Statement.code, Statement.tokens, constantCodes_keyword isLet rfl,
      constantCodes_name isName, constantCodes_symbol opens, constantCodes_symbol closes,
      constantCodes_symbol assigns, constantCodes_symbol ends] using
      (place.append ((built.extend _).cons _)).prepend _
  | when keyword opening condition closing body =>
    obtain ⟨isIf, opens, tested, closes, inner⟩ := grammatical
    have test := condition.holds_constants context tested
    have built := body.holds_constants (first + 1) inner
    simpa [Statement.code, Statement.tokens, constantCodes_keyword isIf rfl,
      constantCodes_symbol opens, constantCodes_symbol closes] using
      test.append ((built.extend _).cons _)
  | whenElse keyword opening condition closing body elseKeyword alternative =>
    obtain ⟨isIf, opens, tested, closes, inner, isElse, otherwise⟩ := grammatical
    have test := condition.holds_constants context tested
    have built := body.holds_constants (first + 1) inner
    have other := alternative.holds_constants (first + 1 + body.branches) otherwise
    simpa [Statement.code, Statement.tokens, constantCodes_keyword isIf rfl,
      constantCodes_symbol opens, constantCodes_symbol closes, constantCodes_keyword isElse rfl] using
      test.append ((built.append (((other.extend _).cons _).cons _)).cons _)
  | loop keyword opening condition closing body =>
    obtain ⟨isWhile, opens, tested, closes, inner⟩ := grammatical
    have test := condition.holds_constants context tested
    have built := body.holds_constants (first + 1) inner
    simpa [Statement.code, Statement.tokens, constantCodes_keyword isWhile rfl,
      constantCodes_symbol opens, constantCodes_symbol closes] using
      (test.append ((built.extend _).cons _)).cons _
  | call keyword call semicolon =>
    obtain ⟨isDo, called, ends⟩ := grammatical
    have built := call.holds_constants context called
    simpa [Statement.code, Statement.tokens, constantCodes_keyword isDo rfl,
      constantCodes_symbol ends] using built.extend _
  | leave keyword semicolon =>
    obtain ⟨isReturn, ends⟩ := grammatical
    rw [Statement.tokens, constantCodes_keyword isReturn rfl, constantCodes_symbol ends]
    exact .nothing
  | leaveWith keyword value semicolon =>
    obtain ⟨isReturn, right, ends⟩ := grammatical
    have built := value.holds_constants context right
    simpa [Statement.code, Statement.tokens, constantCodes_keyword isReturn rfl,
      constantCodes_symbol ends] using built.extend _

theorem Block.holds_constants (first : Nat) (block : Block) (grammatical : block.Grammatical) :
    Holds (block.code context first) (constantCodes block.tokens) := by
  cases block with
  | braces opening statements closing =>
    obtain ⟨opens, inner, closes⟩ := grammatical
    have built := holds_constants_codeOfAll first statements inner
    simpa [Block.code, Block.tokens, constantCodes_symbol opens, constantCodes_symbol closes] using
      built

theorem holds_constants_codeOfAll (first : Nat) (statements : List Statement)
    (grammatical : GrammaticalAll statements) :
    Holds (codeOfAll context first statements) (constantCodes (statementTokens statements)) := by
  cases statements with
  | nil => exact .nothing
  | cons statement statements =>
    have here := statement.holds_constants first grammatical.1
    have later := holds_constants_codeOfAll (first + statement.branches) statements grammatical.2
    rw [statementTokens, constantCodes_append]
    exact here.append later

end

end

namespace Grammar

variable {token : Token} {tokens : List Token} {declared : List String}

theorem IsType.constantCodes_cons (isType : IsType token) :
    constantCodes (token :: tokens) = constantCodes tokens := by
  rcases isType with isInt | isChar | isBoolean | isName
  · exact constantCodes_keyword isInt rfl
  · exact constantCodes_keyword isChar rfl
  · exact constantCodes_keyword isBoolean rfl
  · exact constantCodes_name isName

theorem DerivesNames.constantCodes_eq_nil (derived : DerivesNames tokens declared) :
    constantCodes tokens = [] := by
  induction derived with
  | last isName ends => rw [constantCodes_name isName, constantCodes_symbol ends, constantCodes_nil]
  | more isName separates rest ih => rw [constantCodes_name isName, constantCodes_symbol separates, ih]

theorem DerivesClassVarDec.constantCodes_eq_nil (derived : DerivesClassVarDec tokens declared) :
    constantCodes tokens = [] := by
  obtain ⟨begins, isType, names⟩ := derived
  rcases begins with isStatic | isField
  · rw [constantCodes_keyword isStatic rfl, isType.constantCodes_cons, names.constantCodes_eq_nil]
  · rw [constantCodes_keyword isField rfl, isType.constantCodes_cons, names.constantCodes_eq_nil]

theorem DerivesVarDec.constantCodes_eq_nil (derived : DerivesVarDec tokens declared) :
    constantCodes tokens = [] := by
  obtain ⟨begins, isType, names⟩ := derived
  rw [constantCodes_keyword begins rfl, isType.constantCodes_cons, names.constantCodes_eq_nil]

theorem DerivesParameters.constantCodes_eq_nil (derived : DerivesParameters tokens declared) :
    constantCodes tokens = [] := by
  induction derived with
  | last isType isName => rw [isType.constantCodes_cons, constantCodes_name isName, constantCodes_nil]
  | more isType isName separates rest ih =>
    rw [isType.constantCodes_cons, constantCodes_name isName, constantCodes_symbol separates, ih]

theorem DerivesParameterList.constantCodes_eq_nil (derived : DerivesParameterList tokens declared) :
    constantCodes tokens = [] := by
  cases derived with
  | none => rfl
  | some parameters => exact parameters.constantCodes_eq_nil

end Grammar

open Grammar

theorem SubroutineBody.constantCodes_tokens {body : SubroutineBody} (grammatical : body.Grammatical) :
    constantCodes body.tokens = constantCodes (statementTokens body.statements) := by
  obtain ⟨opens, locals, _, closes⟩ := grammatical
  have noConstants : constantCodes (body.locals.flatMap VariableDec.tokens) = [] := by
    rw [constantCodes_flatMap]
    exact List.flatMap_eq_nil_iff.mpr fun group member =>
      (VariableDec.derivesVarDec (locals group member)).constantCodes_eq_nil
  rw [tokens, constantCodes_symbol opens, constantCodes_append, noConstants, constantCodes_append,
    constantCodes_symbol closes, constantCodes_nil, List.append_nil, List.nil_append]

theorem Subroutine.constantCodes_tokens {subroutine : Subroutine} (grammatical : subroutine.Grammatical) :
    constantCodes subroutine.tokens = constantCodes (statementTokens subroutine.body.statements) := by
  obtain ⟨begins, isReturn, isName, opens, parameters, closes, body⟩ := grammatical
  have keyword : ∀ tokens, constantCodes (subroutine.keyword :: tokens) = constantCodes tokens := by
    intro tokens
    rcases SubroutineKind.isKeyword_of_ofKind? begins with isWord | isWord | isWord
    · exact constantCodes_keyword isWord rfl
    · exact constantCodes_keyword isWord rfl
    · exact constantCodes_keyword isWord rfl
  have type : ∀ tokens, constantCodes (subroutine.returnType.token :: tokens) = constantCodes tokens := by
    intro tokens
    rcases TypeName.isReturn isReturn with isVoid | isType
    · exact constantCodes_keyword isVoid rfl
    · exact isType.constantCodes_cons
  rw [tokens, keyword, type, constantCodes_name isName, constantCodes_symbol opens, constantCodes_append,
    (derivesParameterList parameters).constantCodes_eq_nil, constantCodes_symbol closes,
    SubroutineBody.constantCodes_tokens body, List.nil_append]

namespace ClassDec

variable {declaration : ClassDec}

theorem constantCodes_tokens (grammatical : declaration.Grammatical) :
    constantCodes declaration.tokens =
      declaration.subroutines.flatMap fun subroutine => constantCodes subroutine.tokens := by
  obtain ⟨isClass, isName, opens, groups, _, closes⟩ := grammatical
  have noConstants : constantCodes (declaration.declarations.flatMap VariableDec.tokens) = [] := by
    rw [constantCodes_flatMap]
    exact List.flatMap_eq_nil_iff.mpr fun group member =>
      (VariableDec.derivesClassVarDec (groups group member)).constantCodes_eq_nil
  rw [tokens, constantCodes_keyword isClass rfl, constantCodes_name isName, constantCodes_symbol opens,
    constantCodes_append, noConstants, constantCodes_append, constantCodes_symbol closes, constantCodes_nil,
    List.append_nil, List.nil_append, constantCodes_flatMap]

theorem holds_constants (grammatical : declaration.Grammatical) :
    Holds declaration.code (constantCodes declaration.tokens) := by
  rw [constantCodes_tokens grammatical, code]
  obtain ⟨_, _, _, _, subroutines, _⟩ := grammatical
  apply Holds.flatMap
  intro subroutine member
  have inside := subroutines subroutine member
  obtain ⟨_, _, statements, _⟩ := inside.2.2.2.2.2.2
  have built := holds_constants_codeOfAll (declaration.context subroutine) 0 subroutine.body.statements
    statements
  rw [Subroutine.constantCodes_tokens inside, subroutineCode, bodyCode]
  exact (built.prepend _).cons _

end ClassDec

end Jack
