import Jack.Parse.Statement
import Jack.Proofs.Grammar.Follow
import Jack.Proofs.Parse.Goes

namespace Jack

open Grammar ParseState

/-- A phrase is read to its end wherever it stands in front of a token that can follow it. -/
def Completes : Phrase → List Token → List Token → Prop
  | .term, tokens, used => ∀ (s : ParseState) next rest, s.cursor.ahead = tokens ++ next :: rest →
    EndsTerm next → s.Goes used (next :: rest) s.term
  | .operations, tokens, used => ∀ (s : ParseState) next rest left,
    s.cursor.ahead = tokens ++ next :: rest → EndsExpression next →
    s.Goes used (next :: rest) (s.operations left)
  | .expression, tokens, used => ∀ (s : ParseState) next rest,
    s.cursor.ahead = tokens ++ next :: rest → EndsExpression next →
    s.Goes used (next :: rest) s.expression
  | .call, tokens, used => ∀ (s : ParseState) rest, s.cursor.ahead = tokens ++ rest →
    s.Goes used rest s.call
  | .expressionList, tokens, used => ∀ (s : ParseState) next rest,
    s.cursor.ahead = tokens ++ next :: rest → next.isSymbol ')' →
    s.Goes used (next :: rest) s.arguments
  | .moreExpressions, tokens, used => ∀ (s : ParseState) next rest before,
    s.cursor.ahead = tokens ++ next :: rest → next.isSymbol ')' →
    s.Goes used (next :: rest) (s.moreArguments before)
  | .statement, tokens, used => ∀ (s : ParseState) next rest kind,
    s.cursor.ahead = tokens ++ next :: rest → next.isKeyword .elseKw = false →
    StatementKind.ofKind? (tokens.headD next).kind = some kind →
    s.Goes used (next :: rest) (s.statementOf kind)
  | .block, tokens, used => ∀ (s : ParseState) rest, s.cursor.ahead = tokens ++ rest →
    s.Goes used rest s.block
  | .statements, tokens, used => ∀ (s : ParseState) next rest found,
    s.cursor.ahead = tokens ++ next :: rest → next.isSymbol '}' →
    s.Goes used (next :: rest) (s.moreStatements found)

namespace Completes

variable {tokens first later used usedLater : List Token}

theorem constant {token : Token} {value : Constant}
    (start : TermStart.ofKind? token.kind = some (.constant value)) : Completes .term [token] [] := by
  intro s next rest ahead ends
  rw [ParseState.term]
  apply Goes.advance ahead
  intro s₁ h₁ left _ _
  rw [start]
  exact Goes.done ⟨left.ahead, rfl⟩

theorem keyword {token : Token} {word : Keyword} (isConstant : word ∈ constantWords)
    (isWord : token.isKeyword word) : Completes .term [token] [] := by
  have areConstants : ∀ word ∈ constantWords, (Constant.ofKind? (.keyword word)).isSome := by decide
  obtain ⟨value, same⟩ := Option.isSome_iff_exists.mp (areConstants word isConstant)
  have start : TermStart.ofKind? token.kind = some (.constant value) := by
    rw [Token.kind_of_isKeyword isWord, TermStart.ofKind?, same]
    · rfl
    · simp
    · simp
  exact constant start

theorem startsName {token : Token} (isName : token.isIdentifier) :
    TermStart.ofKind? token.kind = some .name := by
  rw [Token.kind_of_isIdentifier isName]
  rfl

theorem use {name : Token} (isName : name.isIdentifier) : Completes .term [name] [name] := by
  intro s next rest ahead ends
  rw [ParseState.term]
  apply Goes.advance ahead
  intro s₁ h₁ left _ _
  obtain ⟨noIndex, noCall⟩ := ends.plain
  rw [startsName isName]
  apply Goes.weaken
  rw [ParseState.nameTerm]
  apply Goes.sight left.ahead
  rw [if_neg (by simp [noIndex]), if_neg (by simp [noCall])]
  apply Goes.resolve (by simp)
  intro entry
  exact Goes.done ⟨left.ahead, rfl⟩

theorem element {array opening closing : Token} (isName : array.isIdentifier)
    (opens : opening.isSymbol '[') (inside : Completes .expression tokens used)
    (closes : closing.isSymbol ']') :
    Completes .term (array :: opening :: (tokens ++ [closing])) (array :: used) := by
  intro s next rest ahead ends
  rw [ParseState.term]
  apply Goes.advance ahead
  intro s₁ h₁ left _ _
  rw [startsName isName]
  apply Goes.weaken
  rw [ParseState.nameTerm]
  apply Goes.sight left.ahead
  rw [if_pos opens]
  apply Goes.resolve (by simp)
  intro entry
  apply Goes.emit
  apply Goes.advance (s := s₁.emit [entry.push]) left.ahead
  intro s₂ h₂ left₂ _ _
  have expression := inside s₂ closing (next :: rest) (by simpa using left₂.ahead)
    (endsExpression closes)
  apply Goes.andThen (expression.sub (by simp))
  intro index s₃ h₃ left₃
  apply Goes.symbol left₃.ahead closes
  intro s₄ h₄ left₄
  exact Goes.done ⟨left₄.ahead, rfl⟩

/-- A call is told from a variable by its second token, and read from its first one again. -/
theorem called (calls : Derives .call tokens used) (derived : Completes .call tokens used) :
    Completes .term tokens used := by
  intro s next rest ahead ends
  obtain ⟨name, second, later, same, isName, noIndex, isCall⟩ : ∃ name second later,
      tokens = name :: second :: later ∧ name.isIdentifier ∧ second.isSymbol '[' = false ∧
        (second.isSymbol '(' || second.isSymbol '.') = true := by
    cases calls with
    | plainCall isName opens derived closes =>
      exact ⟨_, _, _, rfl, isName, Token.isSymbol_eq_false opens (by decide), by simp [opens]⟩
    | qualifiedCall isQualifier dots isName opens derived closes =>
      exact ⟨_, _, _, rfl, isQualifier, Token.isSymbol_eq_false dots (by decide), by simp [dots]⟩
  subst same
  rw [ParseState.term]
  apply Goes.advance ahead
  intro s₁ h₁ left behind fresh
  rw [startsName isName]
  apply Goes.weaken
  rw [ParseState.nameTerm]
  apply Goes.sight left.ahead
  rw [if_neg (by simp [noIndex]), if_pos isCall]
  apply Goes.giveBack fresh behind
  intro s₂ h₂ left₂
  have call := derived s₂ (next :: rest) (by rw [left₂.ahead, left.ahead]; rfl)
  apply Goes.andThen call
  intro value s₃ h₃ left₃
  exact Goes.done ⟨left₃.ahead, rfl⟩

theorem group {opening closing : Token} (opens : opening.isSymbol '(')
    (inside : Completes .expression tokens used) (closes : closing.isSymbol ')') :
    Completes .term (opening :: (tokens ++ [closing])) used := by
  intro s next rest ahead ends
  rw [ParseState.term]
  apply Goes.advance ahead
  intro s₁ h₁ left _ _
  have start : TermStart.ofKind? opening.kind = some .group := by
    rw [Token.kind_of_isSymbol opens]
    rfl
  rw [start]
  have expression := inside s₁ closing (next :: rest) (by simpa using left.ahead)
    (endsExpression closes)
  apply Goes.andThen expression
  intro inner s₂ h₂ left₂
  apply Goes.symbol left₂.ahead closes
  intro s₃ h₃ left₃
  exact Goes.done ⟨left₃.ahead, rfl⟩

theorem unary {operator : Token} (isOperator : operator.isSymbol '-' ∨ operator.isSymbol '~')
    (derived : Completes .term tokens used) : Completes .term (operator :: tokens) used := by
  intro s next rest ahead ends
  rw [ParseState.term]
  apply Goes.advance ahead
  intro s₁ h₁ left _ _
  obtain ⟨value, start⟩ : ∃ value, TermStart.ofKind? operator.kind = some (.unary value) := by
    rcases isOperator with isMinus | isNot
    · exact ⟨.neg, by rw [Token.kind_of_isSymbol isMinus]; rfl⟩
    · exact ⟨.not, by rw [Token.kind_of_isSymbol isNot]; rfl⟩
  rw [start]
  apply Goes.andThen (derived s₁ next rest left.ahead ends)
  intro operand s₂ h₂ left₂
  exact Goes.done ⟨left₂.ahead, rfl⟩

theorem endsTerm_operations {operations : List Token} {next : Token} (rest : List Token)
    (derived : Derives .operations operations used) (ends : EndsExpression next) :
    ∃ first later, operations ++ next :: rest = first :: later ∧ EndsTerm first := by
  cases derived with
  | noOperation => exact ⟨next, rest, rfl, ends.endsTerm⟩
  | operation isMark isOperator => exact ⟨_, _, rfl, endsTerm_of_operator isMark isOperator⟩

theorem expression (derived : Completes .term first used)
    (operations : Derives .operations later usedLater)
    (rest : Completes .operations later usedLater) :
    Completes .expression (first ++ later) (used ++ usedLater) := by
  intro s next others ahead ends
  rw [ParseState.expression]
  obtain ⟨second, tail, same, endsTerm⟩ := endsTerm_operations others operations ends
  have term := derived s second tail (by rw [ahead, List.append_assoc, same]) endsTerm
  apply Goes.andThen (term.sub (by simp))
  intro value s₁ h₁ left
  have goes := rest s₁ next others (.term value) (by rw [left.ahead, same]) ends
  exact (goes.sub (by simp)).weaken

theorem noOperation : Completes .operations [] [] := by
  intro s next rest left ahead ends
  rw [ParseState.operations]
  apply Goes.sight ahead
  rw [ends.noOperator]
  exact Goes.done ⟨ahead, rfl⟩

theorem operation {operator : Token} {mark : Char} (isMark : mark ∈ operatorMarks)
    (isOperator : operator.isSymbol mark) (derived : Completes .term first used)
    (operations : Derives .operations later usedLater)
    (rest : Completes .operations later usedLater) :
    Completes .operations (operator :: (first ++ later)) (used ++ usedLater) := by
  intro s next others value ahead ends
  rw [ParseState.operations]
  apply Goes.sight ahead
  obtain ⟨binary, same⟩ := exists_operator isMark isOperator
  rw [same]
  apply Goes.advance ahead
  intro s₁ h₁ left _ _
  obtain ⟨second, tail, split, endsTerm⟩ := endsTerm_operations others operations ends
  have term := derived s₁ second tail (by rw [left.ahead, ← split]; simp) endsTerm
  apply Goes.andThen (term.sub (by simp))
  intro right s₂ h₂ left₂
  have goes := rest (s₂.emit [binary.code]) next others (.binary value operator binary right)
    (by rw [← split] at left₂; exact left₂.ahead) ends
  exact (goes.sub (by simp)).emit.weaken

theorem plainCall {name opening closing : Token} (isName : name.isIdentifier)
    (opens : opening.isSymbol '(') (derived : Completes .expressionList tokens used)
    (closes : closing.isSymbol ')') :
    Completes .call (name :: opening :: (tokens ++ [closing])) used := by
  intro s rest ahead
  rw [ParseState.call]
  apply Goes.identifier ahead isName
  intro s₁ h₁ left
  apply Goes.sight left.ahead
  rw [if_neg (by simp [Token.isSymbol_eq_false opens])]
  apply Goes.emit
  apply Goes.symbol (s := s₁.emit [.push .pointer 0]) left.ahead opens
  intro s₂ h₂ left₂
  have arguments := derived s₂ closing rest (by simpa using left₂.ahead) closes
  apply Goes.andThen arguments
  intro value s₃ h₃ left₃
  apply Goes.symbol left₃.ahead closes
  intro s₄ h₄ left₄
  exact Goes.done ⟨left₄.ahead, rfl⟩

theorem qualifiedCall {dot name opening closing : Token} (isName : name.isIdentifier)
    (opens : opening.isSymbol '(') (derived : Completes .expressionList tokens used)
    (closes : closing.isSymbol ')') {s : ParseState} {rest : List Token}
    (ahead : s.cursor.ahead = dot :: name :: opening :: (tokens ++ closing :: rest))
    (qualifier : Name) (target : String) (implicit : Nat) :
    s.Goes used rest (s.qualifiedCall qualifier target implicit) := by
  rw [ParseState.qualifiedCall]
  apply Goes.advance ahead
  intro s₁ h₁ left₁ _ _
  apply Goes.identifier left₁.ahead isName
  intro s₂ h₂ left₂
  apply Goes.symbol left₂.ahead opens
  intro s₃ h₃ left₃
  apply Goes.andThen (derived s₃ closing rest left₃.ahead closes)
  intro arguments s₄ h₄ left₄
  apply Goes.symbol left₄.ahead closes
  intro s₅ h₅ left₅
  exact Goes.done ⟨left₅.ahead, rfl⟩

theorem qualified {qualifier dot name opening closing : Token}
    (isQualifier : qualifier.isIdentifier) (dots : dot.isSymbol '.') (isName : name.isIdentifier)
    (opens : opening.isSymbol '(') (derived : Completes .expressionList tokens used)
    (closes : closing.isSymbol ')') :
    Completes .call (qualifier :: dot :: name :: opening :: (tokens ++ [closing])) used := by
  intro s rest ahead
  rw [ParseState.call]
  apply Goes.identifier ahead isQualifier
  intro s₁ h₁ left
  apply Goes.sight left.ahead
  rw [if_pos dots]
  have ahead₁ : s₁.cursor.ahead = dot :: name :: opening :: (tokens ++ closing :: rest) := by
    simpa using left.ahead
  split
  · exact (qualifiedCall isName opens derived closes ahead₁ _ _ _).weaken
  · rename_i entry _
    apply Goes.emit
    exact (qualifiedCall (s := s₁.emit [entry.push]) isName opens derived closes ahead₁ _ _ _).weaken

theorem noExpressions : Completes .expressionList [] [] := by
  intro s next rest ahead closes
  rw [ParseState.arguments]
  apply Goes.sight ahead
  rw [if_pos closes]
  exact Goes.done ⟨ahead, rfl⟩

theorem endsExpression_more {more : List Token} {next : Token} (rest : List Token)
    (derived : Derives .moreExpressions more used) (closes : next.isSymbol ')') :
    ∃ first later, more ++ next :: rest = first :: later ∧ EndsExpression first := by
  cases derived with
  | noMore => exact ⟨next, rest, rfl, endsExpression closes⟩
  | more separates => exact ⟨_, _, rfl, endsExpression separates⟩

theorem expressions (start : Derives .expression first used)
    (derived : Completes .expression first used) (more : Derives .moreExpressions later usedLater)
    (rest : Completes .moreExpressions later usedLater) :
    Completes .expressionList (first ++ later) (used ++ usedLater) := by
  intro s next others ahead closes
  rw [ParseState.arguments]
  obtain ⟨token, tokens, rfl, opens, _⟩ := start.starts (by decide)
  apply Goes.sight ahead
  rw [if_neg (by simp [opens])]
  obtain ⟨second, tail, same, ends⟩ := endsExpression_more others more closes
  have expression := derived s second tail (by rw [ahead, List.append_assoc, same]) ends
  apply Goes.andThen (expression.sub (by simp))
  intro value s₁ h₁ left
  have goes := rest s₁ next others (.one value) (by rw [left.ahead, same]) closes
  exact (goes.sub (by simp)).weaken

theorem noMore : Completes .moreExpressions [] [] := by
  intro s next rest before ahead closes
  rw [ParseState.moreArguments]
  apply Goes.sight ahead
  rw [if_neg (by simp [Token.isSymbol_eq_false closes])]
  exact Goes.done ⟨ahead, rfl⟩

theorem more {comma : Token} (separates : comma.isSymbol ',')
    (derived : Completes .expression first used) (more : Derives .moreExpressions later usedLater)
    (rest : Completes .moreExpressions later usedLater) :
    Completes .moreExpressions (comma :: (first ++ later)) (used ++ usedLater) := by
  intro s next others before ahead closes
  rw [ParseState.moreArguments]
  apply Goes.sight ahead
  rw [if_pos separates]
  apply Goes.advance ahead
  intro s₁ h₁ left _ _
  obtain ⟨second, tail, same, ends⟩ := endsExpression_more others more closes
  have expression := derived s₁ second tail (by rw [left.ahead, ← same]; simp) ends
  apply Goes.andThen (expression.sub (by simp))
  intro value s₂ h₂ left₂
  have goes := rest s₂ next others (.more before comma value) (by rw [left₂.ahead, same]) closes
  exact (goes.sub (by simp)).weaken

end Completes

end Jack
