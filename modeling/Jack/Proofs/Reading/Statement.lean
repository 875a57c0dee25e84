import Jack.Parse.Statement
import Jack.Proofs.Reading.Expression

namespace Jack

namespace Reading

open ParseState

def letStatement : Reading Statement := fun s => s.letStatement.reply

def doStatement : Reading Statement := fun s => s.doStatement.reply

def returnStatement : Reading Statement := fun s => s.returnStatement.reply

def ifStatement : Reading Statement := fun s => s.ifStatement.reply

def whileStatement : Reading Statement := fun s => s.whileStatement.reply

def statementOf (kind : StatementKind) : Reading Statement := fun s => (s.statementOf kind).reply

def block : Reading Block := fun s => s.block.reply

def moreStatements (found : List Statement) : Reading (List Statement) :=
  fun s => (s.moreStatements found).reply

theorem letStatement_eq :
    letStatement = (do
      let word ← keyword .letKw
      let name ← identifier
      let entry ← resolve name
      let next ← look
      if next.isSymbol '[' then
        emit [entry.push]
        let opening ← symbol '['
        let index ← expression
        let closing ← symbol ']'
        emit [.apply .add]
        let equals ← symbol '='
        let value ← expression
        let semicolon ← symbol ';'
        emit storeCode
        pure (.assignElement word (.use name entry) opening index closing equals value semicolon)
      else
        let equals ← symbol '='
        let value ← expression
        let semicolon ← symbol ';'
        emit [entry.pop]
        pure (.assign word (.use name entry) equals value semicolon)) := by
  funext s
  unfold letStatement ParseState.letStatement
  apply reply_andThen (reply_expectKeyword _ _)
  intro word t fits _
  apply reply_andThen (reply_expectIdentifier _)
  intro name t fits _
  apply reply_resolve
  intro entry
  apply reply_sight
  intro next ahead seen
  by_cases opens : next.isSymbol '['
  · rw [if_pos opens, if_pos opens]
    have seen : (t.emit [entry.push]).cursor.ahead = next :: ahead := seen
    apply reply_advance_of_sight seen opens
    intro fits
    apply reply_andThen rfl
    intro index t fits _
    apply reply_andThen (reply_expectSymbol _ _)
    intro closing t fits _
    apply reply_andThen (reply_expectSymbol _ _)
    intro equals t fits _
    apply reply_andThen rfl
    intro value t fits _
    apply reply_andThen (reply_expectSymbol _ _)
    intro semicolon t fits _
    rfl
  · rw [if_neg opens, if_neg opens]
    apply reply_andThen (reply_expectSymbol _ _)
    intro equals t fits _
    apply reply_andThen rfl
    intro value t fits _
    apply reply_andThen (reply_expectSymbol _ _)
    intro semicolon t fits _
    rfl

theorem doStatement_eq :
    doStatement = (do
      let word ← keyword .doKw
      let call ← call
      let semicolon ← symbol ';'
      emit [.pop .temp 0]
      pure (.call word call semicolon)) := by
  funext s
  unfold doStatement ParseState.doStatement
  apply reply_andThen (reply_expectKeyword _ _)
  intro word t fits _
  apply reply_andThen rfl
  intro call t fits _
  apply reply_andThen (reply_expectSymbol _ _)
  intro semicolon t fits _
  rfl

theorem returnStatement_eq :
    returnStatement = (do
      let word ← keyword .returnKw
      let next ← look
      if next.isSymbol ';' then
        emit [.push .constant 0]
        let semicolon ← symbol ';'
        emit [.ret]
        pure (.leave word semicolon)
      else
        let value ← expression
        let semicolon ← symbol ';'
        emit [.ret]
        pure (.leaveWith word value semicolon)) := by
  funext s
  unfold returnStatement ParseState.returnStatement
  apply reply_andThen (reply_expectKeyword _ _)
  intro word t fits _
  apply reply_sight
  intro next ahead seen
  by_cases ends : next.isSymbol ';'
  · rw [if_pos ends, if_pos ends]
    apply reply_andThen (reply_expectSymbol _ _)
    intro semicolon t fits _
    rfl
  · rw [if_neg ends, if_neg ends]
    apply reply_andThen rfl
    intro value t fits _
    apply reply_andThen (reply_expectSymbol _ _)
    intro semicolon t fits _
    rfl

theorem ifStatement_eq :
    ifStatement = (do
      let word ← keyword .ifKw
      let number ← ask (·.nextLabel)
      change useLabel
      let opening ← symbol '('
      let condition ← expression
      let closing ← symbol ')'
      emit [.jumpIfFalse (elseLabel number)]
      let body ← block
      let next ← look
      if next.isKeyword .elseKw then
        emit [.jump (endLabel number), .label (elseLabel number)]
        let elseWord ← keyword .elseKw
        let alternative ← block
        emit [.label (endLabel number)]
        pure (.whenElse word opening condition closing body elseWord alternative)
      else
        emit [.label (elseLabel number)]
        pure (.when word opening condition closing body)) := by
  funext s
  change (s.ifStatement).reply = _
  rw [ParseState.ifStatement]
  apply reply_andThen (reply_expectKeyword _ _)
  intro word t fits _
  apply reply_andThen (reply_expectSymbol _ _)
  intro opening t' fits _
  apply reply_andThen rfl
  intro condition t' fits _
  apply reply_andThen (reply_expectSymbol _ _)
  intro closing t' fits _
  apply reply_andThen rfl
  intro body t' fits _
  apply reply_sight
  intro next ahead seen
  by_cases isElse : next.isKeyword .elseKw
  · rw [if_pos isElse, if_pos isElse]
    have seen : (t'.emit [.jump (endLabel t.nextLabel), .label (elseLabel t.nextLabel)]).cursor.ahead =
        next :: ahead := seen
    apply reply_advance_of_sight seen isElse
    intro fits
    apply reply_andThen rfl
    intro alternative t' fits _
    rfl
  · rw [if_neg isElse, if_neg isElse]
    rfl

theorem whileStatement_eq :
    whileStatement = (do
      let word ← keyword .whileKw
      let number ← ask (·.nextLabel)
      change useLabel
      emit [.label (testLabel number)]
      let opening ← symbol '('
      let condition ← expression
      let closing ← symbol ')'
      emit [.jumpIfFalse (exitLabel number)]
      let body ← block
      emit [.jump (testLabel number), .label (exitLabel number)]
      pure (.loop word opening condition closing body)) := by
  funext s
  change (s.whileStatement).reply = _
  rw [ParseState.whileStatement]
  apply reply_andThen (reply_expectKeyword _ _)
  intro word t fits _
  apply reply_andThen (reply_expectSymbol _ _)
  intro opening t' fits _
  apply reply_andThen rfl
  intro condition t' fits _
  apply reply_andThen (reply_expectSymbol _ _)
  intro closing t' fits _
  apply reply_andThen rfl
  intro body t' fits _
  rfl

theorem statementOf_eq (kind : StatementKind) :
    statementOf kind = match kind with
      | .letKind => letStatement
      | .ifKind => ifStatement
      | .whileKind => whileStatement
      | .doKind => doStatement
      | .returnKind => returnStatement := by
  funext s
  unfold statementOf
  rw [ParseState.statementOf.eq_def]
  cases kind <;> rfl

theorem block_eq :
    block = (do
      let opening ← symbol '{'
      let statements ← moreStatements []
      let closing ← symbol '}'
      pure (.braces opening statements closing)) := by
  funext s
  change (s.block).reply = _
  rw [ParseState.block]
  apply reply_andThen (reply_expectSymbol _ _)
  intro opening t fits _
  apply reply_andThen (by rw [ParseState.statements]; rfl)
  intro statements t fits _
  apply reply_andThen (reply_expectSymbol _ _)
  intro closing t fits _
  rfl

theorem moreStatements_eq (found : List Statement) :
    moreStatements found = (do
      let next ← look
      match StatementKind.ofKind? next.kind with
      | some kind =>
        let statement ← statementOf kind
        moreStatements (statement :: found)
      | none => pure found.reverse) := by
  funext s
  change (s.moreStatements found).reply = _
  rw [ParseState.moreStatements]
  apply reply_sight
  intro next ahead seen
  cases StatementKind.ofKind? next.kind with
  | none => rfl
  | some kind => exact reply_andThen rfl fun statement t fits _ => rfl

end Reading

end Jack
