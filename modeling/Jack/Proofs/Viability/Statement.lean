import Jack.Proofs.Reading.Statement
import Jack.Proofs.Viability.Expression

namespace Jack

open Grammar Marked Reading

namespace Course

open Fragment

variable {site : Site} {n : Nat}

theorem value_keeps : site.statements.Keeps n [.phrase .expression] expression :=
  expression_keeps (term_keeps n)

theorem letStatement_keeps : site.statements.Keeps n [.phrase .statement] letStatement := by
  rw [letStatement_eq]
  refine .phrase [.keyword .letKw, .variableName,
    .either [.symbol '[', .phrase .expression, .symbol ']', .symbol '=', .phrase .expression,
      .symbol ';'] [.symbol '=', .phrase .expression, .symbol ';']] ?_ ?_
  · simp only [forall_all_one, forall_all_either, forall_all_phrase, forall_all_nil]
    intro word isLet target isName
    constructor
    · intro opening opens index inside closing closes equals assigns value derived semicolon ends
      simpa using Derives.assignElement isLet isName opens inside closes assigns derived ends
    · intro equals assigns value derived semicolon ends
      simpa using Derives.assign isLet isName assigns derived ends
  · refine (Keeps.keyword .letKw).bind fun word => ?_
    refine Keeps.variable fun name entry => ?_
    refine .look fun next => ?_
    split
    · apply Keeps.left
      refine (Keeps.emit _).bind fun _ => ?_
      refine (Keeps.symbol '[').bind fun opening => ?_
      refine value_keeps.bind fun index => ?_
      refine (Keeps.symbol ']').bind fun closing => ?_
      refine (Keeps.emit _).bind fun _ => ?_
      refine (Keeps.symbol '=').bind fun equals => ?_
      refine value_keeps.bind fun value => ?_
      refine (Keeps.symbol ';').bind fun semicolon => ?_
      exact (Keeps.emit _).bind fun _ => .pure _
    · apply Keeps.right
      refine (Keeps.symbol '=').bind fun equals => ?_
      refine value_keeps.bind fun value => ?_
      refine (Keeps.symbol ';').bind fun semicolon => ?_
      exact (Keeps.emit _).bind fun _ => .pure _

theorem doStatement_keeps : site.statements.Keeps n [.phrase .statement] doStatement := by
  rw [doStatement_eq]
  refine .phrase [.keyword .doKw, .phrase .call, .symbol ';'] ?_ ?_
  · simp only [forall_all_one, forall_all_phrase, forall_all_nil]
    intro word isDo call derived semicolon ends
    simpa using Derives.call isDo derived ends
  · refine (Keeps.keyword .doKw).bind fun word => ?_
    refine (call_keeps (term_keeps n)).bind fun call => ?_
    refine (Keeps.symbol ';').bind fun semicolon => ?_
    exact (Keeps.emit _).bind fun _ => .pure _

theorem returnStatement_keeps : site.statements.Keeps n [.phrase .statement] returnStatement := by
  rw [returnStatement_eq]
  refine .phrase [.keyword .returnKw, .either [.symbol ';'] [.phrase .expression, .symbol ';']] ?_ ?_
  · simp only [forall_all_one, forall_all_either, forall_all_phrase, forall_all_nil]
    intro word isReturn
    constructor
    · intro semicolon ends
      exact .leave isReturn ends
    · intro value derived semicolon ends
      simpa using Derives.leaveWith isReturn derived ends
  · refine (Keeps.keyword .returnKw).bind fun word => ?_
    refine .look fun next => ?_
    split
    · apply Keeps.left
      refine (Keeps.emit _).bind fun _ => ?_
      refine (Keeps.symbol ';').bind fun semicolon => ?_
      exact (Keeps.emit _).bind fun _ => .pure _
    · apply Keeps.right
      refine value_keeps.bind fun value => ?_
      refine (Keeps.symbol ';').bind fun semicolon => ?_
      exact (Keeps.emit _).bind fun _ => .pure _

theorem useLabel_keeps : site.statements.Keeps n [] (change ParseState.useLabel) :=
  .change (fun _ => rfl) fun _ => rfl

section

variable (blocks : site.statements.Keeps n [.phrase .block] block)
include blocks

theorem ifStatement_keeps : site.statements.Keeps (n + 1) [.phrase .statement] ifStatement := by
  rw [ifStatement_eq]
  refine .phrase [.keyword .ifKw, .symbol '(', .phrase .expression, .symbol ')', .phrase .block,
    .either [.keyword .elseKw, .phrase .block] []] ?_ ?_
  · simp only [forall_all_one, forall_all_either, forall_all_phrase, forall_all_nil]
    intro word isIf opening opens condition tested closing closes body derived
    constructor
    · intro elseWord isElse alternative otherwise
      simpa using Derives.whenElse isIf opens tested closes derived isElse otherwise
    · simpa using Derives.when isIf opens tested closes derived
  · refine .accept (fun word isIf => ⟨word, isIf, rfl⟩) (Keeps.inBackticks_ne _) ?_
    intro word _
    refine (Keeps.ask _).bind fun number => ?_
    refine useLabel_keeps.bind fun _ => ?_
    refine (Keeps.symbol '(').bind fun opening => ?_
    refine value_keeps.bind fun condition => ?_
    refine (Keeps.symbol ')').bind fun closing => ?_
    refine (Keeps.emit _).bind fun _ => ?_
    refine blocks.bind fun body => ?_
    refine .look fun next => ?_
    split
    · apply Keeps.left
      refine (Keeps.emit _).bind fun _ => ?_
      refine (Keeps.keyword .elseKw).bind fun elseWord => ?_
      refine blocks.bind fun alternative => ?_
      exact (Keeps.emit _).bind fun _ => .pure _
    · apply Keeps.right
      exact (Keeps.emit _).bind fun _ => .pure _

theorem whileStatement_keeps :
    site.statements.Keeps (n + 1) [.phrase .statement] whileStatement := by
  rw [whileStatement_eq]
  refine .phrase [.keyword .whileKw, .symbol '(', .phrase .expression, .symbol ')', .phrase .block]
    ?_ ?_
  · simp only [forall_all_one, forall_all_phrase, forall_all_nil]
    intro word isWhile opening opens condition tested closing closes body derived
    simpa using Derives.loop isWhile opens tested closes derived
  · refine .accept (fun word isWhile => ⟨word, isWhile, rfl⟩) (Keeps.inBackticks_ne _) ?_
    intro word _
    refine (Keeps.ask _).bind fun number => ?_
    refine useLabel_keeps.bind fun _ => ?_
    refine (Keeps.emit _).bind fun _ => ?_
    refine (Keeps.symbol '(').bind fun opening => ?_
    refine value_keeps.bind fun condition => ?_
    refine (Keeps.symbol ')').bind fun closing => ?_
    refine (Keeps.emit _).bind fun _ => ?_
    refine blocks.bind fun body => ?_
    exact (Keeps.emit _).bind fun _ => .pure _

theorem statementOf_keeps (kind : StatementKind) :
    site.statements.Keeps (n + 1) [.phrase .statement] (statementOf kind) := by
  rw [statementOf_eq]
  cases kind with
  | letKind => exact letStatement_keeps
  | ifKind => exact ifStatement_keeps blocks
  | whileKind => exact whileStatement_keeps blocks
  | doKind => exact doStatement_keeps
  | returnKind => exact returnStatement_keeps

end

theorem block_keeps
    (statements : ∀ found, site.statements.Keeps n [.phrase .statements] (moreStatements found)) :
    site.statements.Keeps n [.phrase .block] block := by
  rw [block_eq]
  refine .phrase [.symbol '{', .phrase .statements, .symbol '}'] ?_ ?_
  · simp only [forall_all_one, forall_all_phrase, forall_all_nil]
    intro opening opens inner inside closing closes
    simpa using Derives.block opens inside closes
  · refine (Keeps.symbol '{').bind fun opening => ?_
    refine (statements []).bind fun statements => ?_
    exact (Keeps.symbol '}').bind fun closing => .pure _

theorem moreStatements_keeps (n : Nat) (found : List Statement) :
    site.statements.Keeps n [.phrase .statements] (moreStatements found) := by
  induction n generalizing found with
  | zero => exact .zero _
  | succ n ih =>
    rw [moreStatements_eq]
    refine .look fun next => ?_
    split
    · rename_i kind _
      refine .phrase [.phrase .statement, .phrase .statements] ?_ ?_
      · simp only [forall_all_phrase, forall_all_nil]
        intro first derived later rest
        simpa using Derives.statements derived rest
      · refine (statementOf_keeps (block_keeps ih) kind).bindLess (fun statement => ih _) ?_
        exact fun s statement t same => (s.statementOf kind).property statement t same
    · refine .phrase [] ?_ (.pure _)
      rw [forall_all_nil]
      exact .noStatements

end Course

end Jack
