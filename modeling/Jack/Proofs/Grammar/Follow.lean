import Jack.Parse.ClassDec
import Jack.Proofs.Grammar.Basic

namespace Jack

open Grammar

namespace Token

theorem kind_of_isSymbol {token : Token} {mark : Char} (same : token.isSymbol mark) :
    token.kind = .symbol mark := by
  simpa [isSymbol] using same

theorem kind_of_isKeyword {token : Token} {word : Keyword} (same : token.isKeyword word) :
    token.kind = .keyword word := by
  simpa [isKeyword] using same

theorem kind_of_isIdentifier {token : Token} (same : token.isIdentifier) :
    token.kind = .identifier := by
  simpa [isIdentifier] using same

theorem isSymbol_eq_false {token : Token} {mark other : Char} (same : token.isSymbol mark)
    (differ : mark ≠ other) : token.isSymbol other = false := by
  simp [isSymbol, kind_of_isSymbol same, differ]

end Token

namespace Grammar

def closingMarks : List Char :=
  [')', ']', ';', ',']

def EndsExpression (next : Token) : Prop :=
  ∃ mark ∈ closingMarks, next.isSymbol mark

def EndsTerm (next : Token) : Prop :=
  ∃ mark ∈ closingMarks ++ operatorMarks, next.isSymbol mark

variable {next : Token} {mark : Char}

theorem EndsExpression.endsTerm (ends : EndsExpression next) : EndsTerm next := by
  obtain ⟨mark, member, same⟩ := ends
  exact ⟨mark, List.mem_append_left _ member, same⟩

theorem EndsExpression.noOperator (ends : EndsExpression next) :
    BinaryOperator.ofKind? next.kind = none := by
  obtain ⟨mark, member, same⟩ := ends
  have noOperators : ∀ mark ∈ closingMarks, BinaryOperator.ofSymbol? mark = none := by
    simp [closingMarks, BinaryOperator.ofSymbol?]
  rw [Token.kind_of_isSymbol same]
  exact noOperators mark member

theorem EndsTerm.plain (ends : EndsTerm next) :
    next.isSymbol '[' = false ∧ (next.isSymbol '(' || next.isSymbol '.') = false := by
  obtain ⟨mark, member, same⟩ := ends
  have differ : ∀ mark ∈ closingMarks ++ operatorMarks, mark ≠ '[' ∧ mark ≠ '(' ∧ mark ≠ '.' := by
    simp [closingMarks, operatorMarks]
  obtain ⟨noIndex, noCall, noDot⟩ := differ mark member
  rw [Token.isSymbol_eq_false same noIndex, Token.isSymbol_eq_false same noCall,
    Token.isSymbol_eq_false same noDot]
  exact ⟨rfl, rfl⟩

theorem endsTerm_of_operator (isMark : mark ∈ operatorMarks) (same : next.isSymbol mark) :
    EndsTerm next :=
  ⟨mark, List.mem_append_right _ isMark, same⟩

theorem exists_operator (isMark : mark ∈ operatorMarks) (same : next.isSymbol mark) :
    ∃ operator, BinaryOperator.ofKind? next.kind = some operator := by
  have areOperators : ∀ mark ∈ operatorMarks, (BinaryOperator.ofSymbol? mark).isSome := by
    simp [operatorMarks, BinaryOperator.ofSymbol?]
  rw [Token.kind_of_isSymbol same]
  exact Option.isSome_iff_exists.mp (areOperators mark isMark)

def EndsStatement (next : Token) : Prop :=
  next.isSymbol '}' ∨ (StatementKind.ofKind? next.kind).isSome

theorem EndsStatement.noElse (ends : EndsStatement next) : next.isKeyword .elseKw = false := by
  rcases ends with closes | begins
  · simp [Token.isKeyword, Token.kind_of_isSymbol closes]
  · cases isElse : next.isKeyword .elseKw with
    | false => rfl
    | true => simp [Token.kind_of_isKeyword isElse, StatementKind.ofKind?] at begins

theorem EndsStatement.noLocal (ends : EndsStatement next) :
    VariableKind.ofLocalKeyword? next.kind = none := by
  rcases ends with closes | begins
  · simp [Token.kind_of_isSymbol closes, VariableKind.ofLocalKeyword?]
  · unfold StatementKind.ofKind? at begins
    split at begins <;> simp_all [VariableKind.ofLocalKeyword?]

theorem endsExpression (same : next.isSymbol mark) (member : mark ∈ closingMarks := by decide) :
    EndsExpression next :=
  ⟨mark, member, same⟩

end Grammar

theorem Grammar.Derives.starts {phrase : Phrase} {tokens used : List Token}
    (derived : Derives phrase tokens used) (begins : phrase ∈ [Phrase.term, .expression, .call]) :
    ∃ first later, tokens = first :: later ∧ first.isSymbol ')' = false ∧
      first.isSymbol ';' = false := by
  have plain : ∀ token : Token, (∀ mark, token.kind ≠ .symbol mark) →
      token.isSymbol ')' = false ∧ token.isSymbol ';' = false := by
    intro token noSymbol
    simp [Token.isSymbol, noSymbol]
  have name : ∀ token : Token, token.isIdentifier →
      token.isSymbol ')' = false ∧ token.isSymbol ';' = false := by
    intro token isName
    exact plain token (by simp [Token.kind_of_isIdentifier isName])
  have other : ∀ (token : Token) (mark : Char), token.isSymbol mark → mark ≠ ')' ∧ mark ≠ ';' →
      token.isSymbol ')' = false ∧ token.isSymbol ';' = false := by
    intro token mark same differ
    exact ⟨Token.isSymbol_eq_false same differ.1, Token.isSymbol_eq_false same differ.2⟩
  induction derived with
  | integer kind => exact ⟨_, _, rfl, plain _ (by simp [kind])⟩
  | string kind => exact ⟨_, _, rfl, plain _ (by simp [kind])⟩
  | keyword constant isWord => exact ⟨_, _, rfl, plain _ (by simp [Token.kind_of_isKeyword isWord])⟩
  | use isName => exact ⟨_, _, rfl, name _ isName⟩
  | element isName => exact ⟨_, _, rfl, name _ isName⟩
  | called derived ih => exact ih (by decide)
  | group opens => exact ⟨_, _, rfl, other _ _ opens (by decide)⟩
  | unary isOperator =>
    rcases isOperator with isMinus | isNot
    · exact ⟨_, _, rfl, other _ _ isMinus (by decide)⟩
    · exact ⟨_, _, rfl, other _ _ isNot (by decide)⟩
  | expression derived rest ih =>
    obtain ⟨first, later, rfl, differ⟩ := ih (by decide)
    exact ⟨_, _, rfl, differ⟩
  | plainCall isName => exact ⟨_, _, rfl, name _ isName⟩
  | qualifiedCall isQualifier => exact ⟨_, _, rfl, name _ isQualifier⟩
  | _ => simp at begins

end Jack
