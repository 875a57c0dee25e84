import Jack.Proofs.Grammar.Expression

namespace Jack

open Grammar ParseState

namespace Completes

variable {tokens first later used usedLater : List Token}

theorem kind_eq {keyword next : Token} {word : Keyword} {kind own : StatementKind}
    (isWord : keyword.isKeyword word) (names : StatementKind.ofKind? (.keyword word) = some own)
    (selected : StatementKind.ofKind? ((keyword :: tokens).headD next).kind = some kind) :
    kind = own := by
  rw [List.headD_cons, Token.kind_of_isKeyword isWord, names] at selected
  exact (Option.some.inj selected).symm

theorem assign {keyword target equals semicolon : Token} (isLet : keyword.isKeyword .letKw)
    (isName : target.isIdentifier) (assigns : equals.isSymbol '=')
    (derived : Completes .expression tokens used) (ends : semicolon.isSymbol ';') :
    Completes .statement (keyword :: target :: equals :: (tokens ++ [semicolon]))
      (target :: used) := by
  intro s next rest kind ahead noElse selected
  obtain rfl := kind_eq isLet rfl selected
  rw [ParseState.statementOf, ParseState.letStatement]
  apply Goes.keyword ahead isLet
  intro s₁ h₁ left₁
  apply Goes.identifier left₁.ahead isName
  intro s₂ h₂ left₂
  apply Goes.resolve (by simp)
  intro entry
  apply Goes.sight left₂.ahead
  rw [if_neg (by simp [Token.isSymbol_eq_false assigns])]
  apply Goes.symbol left₂.ahead assigns
  intro s₃ h₃ left₃
  have expression := derived s₃ semicolon (next :: rest) (by simpa using left₃.ahead)
    (endsExpression ends)
  apply Goes.andThen (expression.sub (by simp))
  intro value s₄ h₄ left₄
  apply Goes.symbol left₄.ahead ends
  intro s₅ h₅ left₅
  exact Goes.done ⟨left₅.ahead, rfl⟩

theorem assignElement {keyword array opening closing equals semicolon : Token}
    (isLet : keyword.isKeyword .letKw) (isName : array.isIdentifier) (opens : opening.isSymbol '[')
    (inside : Completes .expression first used) (closes : closing.isSymbol ']')
    (assigns : equals.isSymbol '=') (derived : Completes .expression later usedLater)
    (ends : semicolon.isSymbol ';') :
    Completes .statement
      (keyword :: array :: opening :: (first ++ closing :: equals :: (later ++ [semicolon])))
      (array :: (used ++ usedLater)) := by
  intro s next rest kind ahead noElse selected
  obtain rfl := kind_eq isLet rfl selected
  rw [ParseState.statementOf, ParseState.letStatement]
  apply Goes.keyword ahead isLet
  intro s₁ h₁ left₁
  apply Goes.identifier left₁.ahead isName
  intro s₂ h₂ left₂
  apply Goes.resolve (by simp)
  intro entry
  apply Goes.sight left₂.ahead
  rw [if_pos opens]
  apply Goes.emit
  apply Goes.advance (s := s₂.emit [entry.push]) left₂.ahead
  intro s₃ h₃ left₃ _ _
  have index := inside s₃ closing (equals :: (later ++ semicolon :: next :: rest))
    (by simpa using left₃.ahead) (endsExpression closes)
  apply Goes.andThen (index.sub (by intro token; simp; tauto))
  intro value s₄ h₄ left₄
  apply Goes.symbol left₄.ahead closes
  intro s₅ h₅ left₅
  apply Goes.emit
  apply Goes.symbol (s := s₅.emit [.apply .add]) left₅.ahead assigns
  intro s₆ h₆ left₆
  have expression := derived s₆ semicolon (next :: rest) left₆.ahead (endsExpression ends)
  apply Goes.andThen (expression.sub (by intro token; simp; tauto))
  intro value s₇ h₇ left₇
  apply Goes.symbol left₇.ahead ends
  intro s₈ h₈ left₈
  exact Goes.done ⟨left₈.ahead, rfl⟩

theorem condition {β : Type} {n : Nat} {s : ParseState} {opening closing : Token}
    {rest ends all : List Token}
    {next : (opening : Token) → (s₁ : ParseState) → s₁.remaining < s.remaining →
      (condition : Expression) → (s₂ : ParseState) → s₂.remaining < s₁.remaining →
      (closing : Token) → (s₃ : ParseState) → s₃.remaining < s₂.remaining → Step β n}
    (ahead : s.cursor.ahead = opening :: (first ++ closing :: rest)) (opens : opening.isSymbol '(')
    (tested : Completes .expression first used) (closes : closing.isSymbol ')') (within : used ⊆ all)
    (later : ∀ s₁ h₁ value s₂ h₂ s₃ h₃, s.Left rest s₃ →
      s₃.Goes all ends (next opening s₁ h₁ value s₂ h₂ closing s₃ h₃)) :
    s.Goes all ends ((s.expectSymbol '(').andThen fun opening s₁ h₁ =>
      s₁.expression.andThen fun value s₂ h₂ =>
      (s₂.expectSymbol ')').andThen fun closing s₃ h₃ =>
      next opening s₁ h₁ value s₂ h₂ closing s₃ h₃) := by
  apply Goes.symbol ahead opens
  intro s₁ h₁ left₁
  have inside := tested s₁ closing rest left₁.ahead (endsExpression closes)
  apply Goes.andThen (inside.sub within)
  intro value s₂ h₂ left₂
  apply Goes.symbol left₂.ahead closes
  intro s₃ h₃ left₃
  have names := left₃.names.trans (left₂.names.trans left₁.names)
  exact later s₁ h₁ value s₂ h₂ s₃ h₃ ⟨left₃.ahead, names⟩

theorem when {keyword opening closing : Token} (isIf : keyword.isKeyword .ifKw)
    (opens : opening.isSymbol '(') (tested : Completes .expression first used)
    (closes : closing.isSymbol ')') (derived : Completes .block later usedLater) :
    Completes .statement (keyword :: opening :: (first ++ closing :: later))
      (used ++ usedLater) := by
  intro s next rest kind ahead noElse selected
  obtain rfl := kind_eq isIf rfl selected
  rw [ParseState.statementOf, ParseState.ifStatement]
  apply Goes.keyword ahead isIf
  intro s₁ h₁ left₁
  apply Goes.useLabel
  have ahead₁ : s₁.cursor.ahead = opening :: (first ++ closing :: (later ++ next :: rest)) := by
    simpa using left₁.ahead
  apply condition (s := s₁.useLabel) ahead₁ opens tested closes (by simp)
  intro s₂ h₂ value s₃ h₃ s₄ h₄ left₄
  apply Goes.emit
  apply Goes.andThen ((derived (s₄.emit _) (next :: rest) left₄.ahead).sub (by simp))
  intro body s₅ h₅ left₅
  apply Goes.sight left₅.ahead
  rw [if_neg (by simp [noElse])]
  exact Goes.done ⟨left₅.ahead, rfl⟩

theorem whenElse {keyword opening closing elseKeyword : Token} {alternative usedElse : List Token}
    (isIf : keyword.isKeyword .ifKw) (opens : opening.isSymbol '(')
    (tested : Completes .expression first used) (closes : closing.isSymbol ')')
    (derived : Completes .block later usedLater) (isElse : elseKeyword.isKeyword .elseKw)
    (otherwise : Completes .block alternative usedElse) :
    Completes .statement
      (keyword :: opening :: (first ++ closing :: (later ++ elseKeyword :: alternative)))
      (used ++ (usedLater ++ usedElse)) := by
  intro s next rest kind ahead noElse selected
  obtain rfl := kind_eq isIf rfl selected
  rw [ParseState.statementOf, ParseState.ifStatement]
  apply Goes.keyword ahead isIf
  intro s₁ h₁ left₁
  apply Goes.useLabel
  have ahead₁ : s₁.cursor.ahead = opening ::
      (first ++ closing :: (later ++ elseKeyword :: (alternative ++ next :: rest))) := by
    simpa using left₁.ahead
  apply condition (s := s₁.useLabel) ahead₁ opens tested closes (by simp)
  intro s₂ h₂ value s₃ h₃ s₄ h₄ left₄
  apply Goes.emit
  apply Goes.andThen ((derived (s₄.emit _) _ left₄.ahead).sub (by intro token; simp; tauto))
  intro body s₅ h₅ left₅
  apply Goes.sight left₅.ahead
  rw [if_pos isElse]
  apply Goes.emit
  apply Goes.advance (s := s₅.emit _) left₅.ahead
  intro s₆ h₆ left₆ _ _
  apply Goes.andThen ((otherwise s₆ _ left₆.ahead).sub (by intro token; simp; tauto))
  intro other s₇ h₇ left₇
  exact Goes.done ⟨left₇.ahead, rfl⟩

theorem loop {keyword opening closing : Token} (isWhile : keyword.isKeyword .whileKw)
    (opens : opening.isSymbol '(') (tested : Completes .expression first used)
    (closes : closing.isSymbol ')') (derived : Completes .block later usedLater) :
    Completes .statement (keyword :: opening :: (first ++ closing :: later))
      (used ++ usedLater) := by
  intro s next rest kind ahead noElse selected
  obtain rfl := kind_eq isWhile rfl selected
  rw [ParseState.statementOf, ParseState.whileStatement]
  apply Goes.keyword ahead isWhile
  intro s₁ h₁ left₁
  apply Goes.useLabel
  apply Goes.emit
  have ahead₁ : s₁.cursor.ahead = opening :: (first ++ closing :: (later ++ next :: rest)) := by
    simpa using left₁.ahead
  apply condition (s := s₁.useLabel.emit _) ahead₁ opens tested closes (by simp)
  intro s₂ h₂ value s₃ h₃ s₄ h₄ left₄
  apply Goes.emit
  apply Goes.andThen ((derived (s₄.emit _) (next :: rest) left₄.ahead).sub (by simp))
  intro body s₅ h₅ left₅
  exact Goes.done ⟨left₅.ahead, rfl⟩

theorem call {keyword semicolon : Token} (isDo : keyword.isKeyword .doKw)
    (derived : Completes .call tokens used) (ends : semicolon.isSymbol ';') :
    Completes .statement (keyword :: (tokens ++ [semicolon])) used := by
  intro s next rest kind ahead noElse selected
  obtain rfl := kind_eq isDo rfl selected
  rw [ParseState.statementOf, ParseState.doStatement]
  apply Goes.keyword ahead isDo
  intro s₁ h₁ left₁
  apply Goes.andThen (derived s₁ (semicolon :: next :: rest) (by simpa using left₁.ahead))
  intro value s₂ h₂ left₂
  apply Goes.symbol left₂.ahead ends
  intro s₃ h₃ left₃
  exact Goes.done ⟨left₃.ahead, rfl⟩

theorem leave {keyword semicolon : Token} (isReturn : keyword.isKeyword .returnKw)
    (ends : semicolon.isSymbol ';') : Completes .statement [keyword, semicolon] [] := by
  intro s next rest kind ahead noElse selected
  obtain rfl := kind_eq isReturn rfl selected
  rw [ParseState.statementOf, ParseState.returnStatement]
  apply Goes.keyword ahead isReturn
  intro s₁ h₁ left₁
  apply Goes.sight left₁.ahead
  rw [if_pos ends]
  apply Goes.emit
  apply Goes.symbol (s := s₁.emit _) left₁.ahead ends
  intro s₂ h₂ left₂
  exact Goes.done ⟨left₂.ahead, rfl⟩

theorem leaveWith {keyword semicolon : Token} (isReturn : keyword.isKeyword .returnKw)
    (value : Derives .expression tokens used) (derived : Completes .expression tokens used)
    (ends : semicolon.isSymbol ';') :
    Completes .statement (keyword :: (tokens ++ [semicolon])) used := by
  intro s next rest kind ahead noElse selected
  obtain rfl := kind_eq isReturn rfl selected
  rw [ParseState.statementOf, ParseState.returnStatement]
  apply Goes.keyword ahead isReturn
  intro s₁ h₁ left₁
  obtain ⟨token, later, rfl, _, noEnd⟩ := value.starts (by decide)
  apply Goes.sight left₁.ahead
  rw [if_neg (by simp [noEnd])]
  have expression := derived s₁ semicolon (next :: rest) (by simpa using left₁.ahead)
    (endsExpression ends)
  apply Goes.andThen expression
  intro value s₂ h₂ left₂
  apply Goes.symbol left₂.ahead ends
  intro s₃ h₃ left₃
  exact Goes.done ⟨left₃.ahead, rfl⟩

theorem block {opening closing : Token} (opens : opening.isSymbol '{')
    (inside : Completes .statements tokens used) (closes : closing.isSymbol '}') :
    Completes .block (opening :: (tokens ++ [closing])) used := by
  intro s rest ahead
  rw [ParseState.block]
  apply Goes.symbol ahead opens
  intro s₁ h₁ left₁
  rw [ParseState.statements]
  apply Goes.andThen (inside s₁ closing rest [] (by simpa using left₁.ahead) closes)
  intro statements s₂ h₂ left₂
  apply Goes.symbol left₂.ahead closes
  intro s₃ h₃ left₃
  exact Goes.done ⟨left₃.ahead, rfl⟩

theorem noStatements : Completes .statements [] [] := by
  intro s next rest found ahead closes
  rw [ParseState.moreStatements]
  apply Goes.sight ahead
  rw [Token.kind_of_isSymbol closes]
  exact Goes.done ⟨ahead, rfl⟩

theorem begins_statement (derived : Derives .statement tokens used) :
    ∃ keyword later kind, tokens = keyword :: later ∧
      StatementKind.ofKind? keyword.kind = some kind := by
  have ofWord : ∀ {keyword : Token} {word : Keyword} {kind : StatementKind} (later : List Token),
      keyword.isKeyword word → StatementKind.ofKind? (.keyword word) = some kind →
      ∃ first rest kind, keyword :: later = first :: rest ∧
        StatementKind.ofKind? first.kind = some kind := by
    intro keyword word kind later isWord names
    refine ⟨keyword, later, kind, rfl, ?_⟩
    rw [Token.kind_of_isKeyword isWord, names]
  cases derived with
  | assign isLet => exact ofWord _ isLet rfl
  | assignElement isLet => exact ofWord _ isLet rfl
  | when isIf => exact ofWord _ isIf rfl
  | whenElse isIf => exact ofWord _ isIf rfl
  | loop isWhile => exact ofWord _ isWhile rfl
  | call isDo => exact ofWord _ isDo rfl
  | leave isReturn => exact ofWord _ isReturn rfl
  | leaveWith isReturn => exact ofWord _ isReturn rfl

theorem first_statements {next : Token} (rest : List Token)
    (derived : Derives .statements tokens used) (closes : next.isSymbol '}') :
    ∃ first later, tokens ++ next :: rest = first :: later ∧ EndsStatement first := by
  cases derived with
  | noStatements => exact ⟨next, rest, rfl, .inl closes⟩
  | statements derived _ =>
    obtain ⟨keyword, later, kind, rfl, selected⟩ := begins_statement derived
    exact ⟨_, _, rfl, .inr (by rw [selected]; rfl)⟩

theorem statements (start : Derives .statement first used)
    (derived : Completes .statement first used) (more : Derives .statements later usedLater)
    (rest : Completes .statements later usedLater) :
    Completes .statements (first ++ later) (used ++ usedLater) := by
  intro s next others found ahead closes
  rw [ParseState.moreStatements]
  obtain ⟨keyword, tokens, kind, rfl, selected⟩ := begins_statement start
  apply Goes.sight ahead
  rw [selected]
  obtain ⟨second, tail, same, ends⟩ := first_statements others more closes
  have statement := derived s second tail kind (by rw [ahead, List.append_assoc, same])
    ends.noElse selected
  apply Goes.andThen (statement.sub (by simp))
  intro value s₁ h₁ left
  have goes := rest s₁ next others (value :: found) (by rw [left.ahead, same]) closes
  exact (goes.sub (by simp)).weaken

end Completes

theorem Grammar.Derives.completes {phrase : Phrase} {tokens used : List Token}
    (derived : Derives phrase tokens used) : Completes phrase tokens used := by
  induction derived with
  | integer kind => exact .constant (by rw [kind]; rfl)
  | string kind => exact .constant (by rw [kind]; rfl)
  | keyword constant isWord => exact .keyword constant isWord
  | use isName => exact .use isName
  | element isName opens _ closes inside => exact .element isName opens inside closes
  | called calls derived => exact .called calls derived
  | group opens _ closes inside => exact .group opens inside closes
  | unary isOperator _ derived => exact .unary isOperator derived
  | expression _ operations derived rest => exact .expression derived operations rest
  | noOperation => exact .noOperation
  | operation isMark isOperator _ operations derived rest =>
    exact .operation isMark isOperator derived operations rest
  | plainCall isName opens _ closes derived => exact .plainCall isName opens derived closes
  | qualifiedCall isQualifier dots isName opens _ closes derived =>
    exact .qualified isQualifier dots isName opens derived closes
  | noExpressions => exact .noExpressions
  | expressions start more derived rest => exact .expressions start derived more rest
  | noMore => exact .noMore
  | more separates _ more derived rest => exact .more separates derived more rest
  | assign isLet isName assigns _ ends derived => exact .assign isLet isName assigns derived ends
  | assignElement isLet isName opens _ closes assigns _ ends inside derived =>
    exact .assignElement isLet isName opens inside closes assigns derived ends
  | when isIf opens _ closes _ tested derived => exact .when isIf opens tested closes derived
  | whenElse isIf opens _ closes _ isElse _ tested derived otherwise =>
    exact .whenElse isIf opens tested closes derived isElse otherwise
  | loop isWhile opens _ closes _ tested derived =>
    exact .loop isWhile opens tested closes derived
  | call isDo _ ends derived => exact .call isDo derived ends
  | leave isReturn ends => exact .leave isReturn ends
  | leaveWith isReturn value ends derived => exact .leaveWith isReturn value derived ends
  | block opens _ closes inside => exact .block opens inside closes
  | noStatements => exact .noStatements
  | statements start more derived rest => exact .statements start derived more rest

end Jack
