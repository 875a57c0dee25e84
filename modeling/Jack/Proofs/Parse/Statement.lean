import Jack.Proofs.Parse.Expression

namespace Jack

namespace Statement

/-- A statement read where `first` label numbers were used before. -/
def passage (context : Context) (first : Nat) (statement : Statement) : Passage :=
  ⟨statement.tokens, statement.code context first, statement.branches, []⟩

end Statement

namespace Block

def passage (context : Context) (first : Nat) (block : Block) : Passage :=
  ⟨block.tokens, block.code context first, block.branches, []⟩

end Block

def passageOfAll (context : Context) (first : Nat) (statements : List Statement) : Passage :=
  ⟨statementTokens statements, codeOfAll context first statements, branchesOfAll statements, []⟩

namespace ParseState

open Step

variable {names : VariableTable} {className : String}

@[simp] theorem nextLabel_emit (s : ParseState) (code : List Instruction) :
    (s.emit code).nextLabel = s.nextLabel := rfl

abbrev YieldsStatement (names : VariableTable) (className : String) (s : ParseState)
    (statement : Statement) (s' : ParseState) : Prop :=
  s.Yields statement.Grammatical (statement.Resolved names)
    (statement.passage (names.context className) s.nextLabel) s'

theorem letStatement_reads (s : ParseState) (inside : s.Within names className) :
    s.letStatement.Keeps (Passes none) s (YieldsStatement names className s) := by
  unfold letStatement
  refine .andThen (.refl _) (expectKeyword_reads s .letKw) ?_
  intro keyword s₁ h₁ seen
  obtain ⟨isLet, read₁⟩ := seen
  refine .andThen (.refl _) (expectIdentifier_reads s₁) ?_
  intro name s₂ h₂ seen
  obtain ⟨isName, read₂⟩ := seen
  have inside₂ := (inside.reads read₁).reads read₂
  refine .attempt (.refl _) ?_
  intro entry found
  have uses : (Name.use name entry).Uses names := by
    refine ⟨entry, ?_, rfl⟩
    rw [← inside₂.names]
    exact resolve_ok found
  refine .sight (.refl _) ?_
  intro next rest ahead
  split
  · rename_i opens
    have pushes := reads_emit s₂ [entry.push]
    refine .andThen (.of_reads pushes rfl) (advance_reads (s₂.emit [entry.push])) ?_
    intro opening s₃ h₃ seen
    obtain ⟨read₃, _⟩ := seen
    have same : opening = next := by
      have seen := read₃.ahead
      rw [show (s₂.emit [entry.push]).cursor = s₂.cursor from rfl, ahead] at seen
      exact (List.cons.inj seen).1.symm
    subst same
    have inside₃ := (inside₂.reads pushes).reads read₃
    refine .andThen (.refl _) (expression_reads s₃ inside₃) ?_
    intro index s₄ h₄ yields₄
    refine .andThen (.refl _) (expectSymbol_reads s₄ ']') ?_
    intro closing s₅ h₅ seen
    obtain ⟨closes, read₅⟩ := seen
    have adds := reads_emit s₅ [.apply .add]
    refine .andThen (.of_reads adds rfl) (expectSymbol_reads (s₅.emit [.apply .add]) '=') ?_
    intro equals s₆ h₆ seen
    obtain ⟨isEquals, read₆⟩ := seen
    have inside₆ := (((inside₃.reads yields₄.reads).reads read₅).reads adds).reads read₆
    refine .andThen (.refl _) (expression_reads s₆ inside₆) ?_
    intro value s₇ h₇ yields₇
    refine .andThen (.refl _) (expectSymbol_reads s₇ ';') ?_
    intro semicolon s₈ h₈ seen
    obtain ⟨ends, read₈⟩ := seen
    have stores := reads_emit s₈ storeCode
    refine .done (.of_reads stores rfl) ⟨⟨isLet, isName, opens, yields₄.grammatical, closes, isEquals,
      yields₇.grammatical, ends⟩, ⟨uses, yields₄.resolved, yields₇.resolved⟩, ?_⟩
    refine (read₁.trans (read₂.trans (pushes.trans (read₃.trans (yields₄.reads.trans (read₅.trans
      (adds.trans (read₆.trans (yields₇.reads.trans (read₈.trans stores)))))))))).same ?_
    simp [Statement.passage, Statement.tokens, Statement.code, Statement.branches]
  · refine .andThen (.refl _) (expectSymbol_reads s₂ '=') ?_
    intro equals s₃ h₃ seen
    obtain ⟨isEquals, read₃⟩ := seen
    refine .andThen (.refl _) (expression_reads s₃ (inside₂.reads read₃)) ?_
    intro value s₄ h₄ yields
    refine .andThen (.refl _) (expectSymbol_reads s₄ ';') ?_
    intro semicolon s₅ h₅ seen
    obtain ⟨ends, read₅⟩ := seen
    have pops := reads_emit s₅ [entry.pop]
    refine .done (.of_reads pops rfl)
      ⟨⟨isLet, isName, isEquals, yields.grammatical, ends⟩, ⟨uses, yields.resolved⟩, ?_⟩
    refine (read₁.trans (read₂.trans (read₃.trans (yields.reads.trans (read₅.trans pops))))).same ?_
    simp [Statement.passage, Statement.tokens, Statement.code, Statement.branches]

theorem doStatement_reads (s : ParseState) (inside : s.Within names className) :
    s.doStatement.Keeps (Passes none) s (YieldsStatement names className s) := by
  unfold doStatement
  refine .andThen (.refl _) (expectKeyword_reads s .doKw) ?_
  intro keyword s₁ h₁ seen
  obtain ⟨isDo, read₁⟩ := seen
  refine .andThen (.refl _) (call_reads s₁ (inside.reads read₁)) ?_
  intro call s₂ h₂ yields
  refine .andThen (.refl _) (expectSymbol_reads s₂ ';') ?_
  intro semicolon s₃ h₃ seen
  obtain ⟨ends, read₃⟩ := seen
  have pops := reads_emit s₃ [.pop .temp 0]
  refine .done (.of_reads pops rfl) ⟨⟨isDo, yields.grammatical, ends⟩, yields.resolved, ?_⟩
  refine (read₁.trans (yields.reads.trans (read₃.trans pops))).same ?_
  simp [Statement.passage, Statement.tokens, Statement.code, Statement.branches]

theorem returnStatement_reads (s : ParseState) (inside : s.Within names className) :
    s.returnStatement.Keeps (Passes none) s (YieldsStatement names className s) := by
  unfold returnStatement
  refine .andThen (.refl _) (expectKeyword_reads s .returnKw) ?_
  intro keyword s₁ h₁ seen
  obtain ⟨isReturn, read₁⟩ := seen
  refine .sight (.refl _) ?_
  intro next rest ahead
  split
  · have pushes := reads_emit s₁ [.push .constant 0]
    refine .andThen (.of_reads pushes rfl)
      (expectSymbol_reads (s₁.emit [.push .constant 0]) ';') ?_
    intro semicolon s₂ h₂ seen
    obtain ⟨ends, read₂⟩ := seen
    have returns := reads_emit s₂ [.ret]
    refine .done (.of_reads returns rfl) ⟨⟨isReturn, ends⟩, trivial, ?_⟩
    refine (read₁.trans (pushes.trans (read₂.trans returns))).same ?_
    simp [Statement.passage, Statement.tokens, Statement.code, Statement.branches]
  · refine .andThen (.refl _) (expression_reads s₁ (inside.reads read₁)) ?_
    intro value s₂ h₂ yields
    refine .andThen (.refl _) (expectSymbol_reads s₂ ';') ?_
    intro semicolon s₃ h₃ seen
    obtain ⟨ends, read₃⟩ := seen
    have returns := reads_emit s₃ [.ret]
    refine .done (.of_reads returns rfl) ⟨⟨isReturn, yields.grammatical, ends⟩, yields.resolved, ?_⟩
    refine (read₁.trans (yields.reads.trans (read₃.trans returns))).same ?_
    simp [Statement.passage, Statement.tokens, Statement.code, Statement.branches]

mutual

theorem ifStatement_reads (s : ParseState) (inside : s.Within names className) :
    s.ifStatement.Keeps (Passes none) s (YieldsStatement names className s) := by
  rw [ifStatement]
  refine .andThen (.refl _) (expectKeyword_reads s .ifKw) ?_
  intro keyword s₁ h₁ seen
  obtain ⟨isIf, read₁⟩ := seen
  have number : s₁.nextLabel = s.nextLabel := read₁.nextLabel
  have counts := reads_useLabel s₁
  refine .andThen (.of_reads counts rfl) (expectSymbol_reads s₁.useLabel '(') ?_
  intro opening s₂ h₂ seen
  obtain ⟨opens, read₂⟩ := seen
  have inside₂ := ((inside.reads read₁).reads counts).reads read₂
  refine .andThen (.refl _) (expression_reads s₂ inside₂) ?_
  intro condition s₃ h₃ yields₃
  refine .andThen (.refl _) (expectSymbol_reads s₃ ')') ?_
  intro closing s₄ h₄ seen
  obtain ⟨closes, read₄⟩ := seen
  have jumps := reads_emit s₄ [.jumpIfFalse (elseLabel s₁.nextLabel)]
  have head := read₁.trans (counts.trans (read₂.trans (yields₃.reads.trans (read₄.trans jumps))))
  have inner : s₄.nextLabel = s₁.nextLabel + 1 := by simpa [number] using head.nextLabel
  refine .andThen (.of_reads jumps rfl) (block_reads _ (inside.reads head)) ?_
  intro body s₅ h₅ yields₅
  have upto := head.trans yields₅.reads
  refine .sight (.refl _) ?_
  intro next rest ahead
  split
  · rename_i isElse
    have turns := reads_emit s₅ [.jump (endLabel s₁.nextLabel), .label (elseLabel s₁.nextLabel)]
    refine .andThen (.of_reads turns rfl) (advance_reads (s₅.emit _)) ?_
    intro elseKeyword s₆ h₆ seen
    obtain ⟨read₆, _⟩ := seen
    have same : elseKeyword = next := by
      have seen := read₆.ahead
      rw [show (s₅.emit _).cursor = s₅.cursor from rfl, ahead] at seen
      exact (List.cons.inj seen).1.symm
    subst same
    have upto₆ := upto.trans (turns.trans read₆)
    have later : s₆.nextLabel = s₁.nextLabel + (1 + body.branches) := by
      simpa [number, Block.passage] using upto₆.nextLabel
    refine .andThen (.refl _) (block_reads s₆ (inside.reads upto₆)) ?_
    intro alternative s₇ h₇ yields₇
    have ends := reads_emit s₇ [.label (endLabel s₁.nextLabel)]
    refine .done (.of_reads ends rfl) ⟨⟨isIf, opens, yields₃.grammatical, closes, yields₅.grammatical,
      isElse, yields₇.grammatical⟩, ⟨yields₃.resolved, yields₅.resolved, yields₇.resolved⟩, ?_⟩
    refine (upto₆.trans (yields₇.reads.trans ends)).same ?_
    simp [← number, inner, later, Statement.passage, Block.passage,
      Statement.tokens, Statement.code, Statement.branches, Nat.add_assoc]
  · have ends := reads_emit s₅ [.label (elseLabel s₁.nextLabel)]
    refine .done (.of_reads ends rfl) ⟨⟨isIf, opens, yields₃.grammatical, closes, yields₅.grammatical⟩,
      ⟨yields₃.resolved, yields₅.resolved⟩, ?_⟩
    refine (upto.trans ends).same ?_
    simp [← number, inner, Statement.passage, Block.passage, Statement.tokens,
      Statement.code, Statement.branches]
termination_by 4 * s.remaining
decreasing_by all_goals simp only [remaining_emit, remaining_useLabel] at *; omega

theorem whileStatement_reads (s : ParseState) (inside : s.Within names className) :
    s.whileStatement.Keeps (Passes none) s (YieldsStatement names className s) := by
  rw [whileStatement]
  refine .andThen (.refl _) (expectKeyword_reads s .whileKw) ?_
  intro keyword s₁ h₁ seen
  obtain ⟨isWhile, read₁⟩ := seen
  have number : s₁.nextLabel = s.nextLabel := read₁.nextLabel
  have counts := (reads_useLabel s₁).trans (reads_emit s₁.useLabel [.label (testLabel s₁.nextLabel)])
  refine .andThen (.of_reads counts rfl) (expectSymbol_reads (s₁.useLabel.emit _) '(') ?_
  intro opening s₂ h₂ seen
  obtain ⟨opens, read₂⟩ := seen
  have inside₂ := ((inside.reads read₁).reads counts).reads read₂
  refine .andThen (.refl _) (expression_reads s₂ inside₂) ?_
  intro condition s₃ h₃ yields₃
  refine .andThen (.refl _) (expectSymbol_reads s₃ ')') ?_
  intro closing s₄ h₄ seen
  obtain ⟨closes, read₄⟩ := seen
  have jumps := reads_emit s₄ [.jumpIfFalse (exitLabel s₁.nextLabel)]
  have head := read₁.trans (counts.trans (read₂.trans (yields₃.reads.trans (read₄.trans jumps))))
  have inner : s₄.nextLabel = s₁.nextLabel + 1 := by simpa [number] using head.nextLabel
  refine .andThen (.of_reads jumps rfl) (block_reads _ (inside.reads head)) ?_
  intro body s₅ h₅ yields₅
  have ends := reads_emit s₅ [.jump (testLabel s₁.nextLabel), .label (exitLabel s₁.nextLabel)]
  refine .done (.of_reads ends rfl) ⟨⟨isWhile, opens, yields₃.grammatical, closes, yields₅.grammatical⟩,
    ⟨yields₃.resolved, yields₅.resolved⟩, ?_⟩
  refine (head.trans (yields₅.reads.trans ends)).same ?_
  simp [← number, inner, Statement.passage, Block.passage, Statement.tokens,
    Statement.code, Statement.branches]
termination_by 4 * s.remaining
decreasing_by all_goals simp only [remaining_emit, remaining_useLabel] at *; omega

theorem statementOf_reads (s : ParseState) (kind : StatementKind)
    (inside : s.Within names className) :
    (s.statementOf kind).Keeps (Passes none) s (YieldsStatement names className s) := by
  cases kind with
  | letKind =>
    rw [statementOf]
    exact letStatement_reads s inside
  | ifKind =>
    rw [statementOf]
    exact ifStatement_reads s inside
  | whileKind =>
    rw [statementOf]
    exact whileStatement_reads s inside
  | doKind =>
    rw [statementOf]
    exact doStatement_reads s inside
  | returnKind =>
    rw [statementOf]
    exact returnStatement_reads s inside
termination_by 4 * s.remaining + 1
decreasing_by all_goals omega

theorem block_reads (s : ParseState) (inside : s.Within names className) :
    s.block.Keeps (Passes none) s fun block s' =>
      s.Yields block.Grammatical (block.Resolved names)
        (block.passage (names.context className) s.nextLabel) s' := by
  rw [block]
  refine .andThen (.refl _) (expectSymbol_reads s '{') ?_
  intro opening s₁ h₁ seen
  obtain ⟨opens, read₁⟩ := seen
  refine .andThen (.refl _) (statements_reads s₁ (inside.reads read₁)) ?_
  intro statements s₂ h₂ yields
  refine .andThen (.refl _) (expectSymbol_reads s₂ '}') ?_
  intro closing s₃ h₃ seen
  obtain ⟨closes, read₃⟩ := seen
  refine .done (.refl _) ⟨⟨opens, yields.grammatical, closes⟩, yields.resolved, ?_⟩
  refine (read₁.trans (yields.reads.trans read₃)).same ?_
  simp [read₁.nextLabel, Block.passage, passageOfAll, Block.tokens, Block.code, Block.branches]
termination_by 4 * s.remaining + 3
decreasing_by all_goals omega

theorem statements_reads (s : ParseState) (inside : s.Within names className) :
    s.statements.Keeps (Passes none) s fun statements s' =>
      s.Yields (GrammaticalAll statements) (ResolvedAll names statements)
        (passageOfAll (names.context className) s.nextLabel statements) s' := by
  rw [statements]
  refine .mono (moreStatements_reads s [] inside) ?_
  intro all s' seen
  obtain ⟨new, rfl, yields⟩ := seen
  exact yields
termination_by 4 * s.remaining + 3
decreasing_by all_goals omega

theorem moreStatements_reads (s : ParseState) (found : List Statement)
    (inside : s.Within names className) :
    (s.moreStatements found).Keeps (Passes none) s fun all s' =>
      ∃ new, all = found.reverse ++ new ∧
        s.Yields (GrammaticalAll new) (ResolvedAll names new)
          (passageOfAll (names.context className) s.nextLabel new) s' := by
  rw [moreStatements]
  refine .sight (.refl _) ?_
  intro next rest ahead
  split
  · rename_i kind begins
    refine .andThen (.refl _) (statementOf_reads s kind inside) ?_
    intro statement s₁ h₁ yields₁
    refine .weaken (.mono (moreStatements_reads s₁ (statement :: found) (inside.reads yields₁.reads)) ?_)
    intro all s' seen
    obtain ⟨new, rfl, yields⟩ := seen
    refine ⟨statement :: new, by simp, ⟨yields₁.grammatical, yields.grammatical⟩,
      ⟨yields₁.resolved, yields.resolved⟩, ?_⟩
    refine (yields₁.reads.trans yields.reads).same ?_
    simp [yields₁.reads.nextLabel, passageOfAll, Statement.passage, statementTokens, codeOfAll,
      branchesOfAll]
  · exact .done (.refl _) ⟨[], by simp, trivial, trivial, reads_nothing s⟩
termination_by 4 * s.remaining + 2
decreasing_by all_goals omega

end

end ParseState

end Jack
