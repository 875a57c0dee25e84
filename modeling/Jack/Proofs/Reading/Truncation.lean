import Jack.Proofs.Reading.ClassDec
import Jack.Proofs.Reading.LockStep

namespace Jack

namespace Reading

open ParseState

variable {n : Nat}

section

variable (terms : Local n term)
include terms

theorem operations_local (left : Expression) : Local n (operations left) := by
  induction n generalizing left with
  | zero => exact .zero _
  | succ n ih =>
    have fewer := terms.mono (Nat.le_succ n)
    rw [operations_eq]
    refine .look fun next => ?_
    split
    · refine .accept fun token _ => ?_
      refine fewer.bind fun right => ?_
      exact (Local.emit _).bind fun _ => ih fewer _
    · exact .pure left

theorem expression_local : Local n expression := by
  rw [expression_eq]
  exact terms.bind fun first => operations_local terms _

theorem moreArguments_local (before : Arguments) : Local n (moreArguments before) := by
  induction n generalizing before with
  | zero => exact .zero _
  | succ n ih =>
    have fewer := terms.mono (Nat.le_succ n)
    rw [moreArguments_eq]
    refine .look fun next => ?_
    split
    · refine .accept fun comma _ => ?_
      exact (expression_local fewer).bind fun value => ih fewer _
    · exact .pure before

theorem arguments_local : Local n arguments := by
  rw [arguments_eq]
  refine .look fun next => ?_
  split
  · exact .pure _
  · exact (expression_local terms).bind fun value => moreArguments_local terms _

theorem qualifiedCall_local (qualifier : Name) (target : String) (implicit : Nat) :
    Local n (qualifiedCall qualifier target implicit) := by
  refine (Local.token _ _).bind fun dot => ?_
  refine (Local.token _ _).bind fun subroutine => ?_
  refine (Local.token _ _).bind fun opening => ?_
  refine (arguments_local terms).bind fun arguments => ?_
  refine (Local.token _ _).bind fun closing => ?_
  exact (Local.emit _).bind fun _ => .pure _

theorem callAfter_local (first : Token) : Local n (callAfter first) := by
  refine .look fun next => ?_
  split
  · refine (Local.ask fun s more => rfl).bind fun entry? => ?_
    split
    · exact qualifiedCall_local terms _ _ _
    · exact (Local.emit _).bind fun _ => qualifiedCall_local terms _ _ _
  · refine (Local.emit _).bind fun _ => ?_
    refine (Local.token _ _).bind fun opening => ?_
    refine (arguments_local terms).bind fun arguments => ?_
    refine (Local.token _ _).bind fun closing => ?_
    refine (Local.ask fun s more => rfl).bind fun className => ?_
    exact (Local.emit _).bind fun _ => .pure _

theorem call_local : Local n call := by
  rw [call_eq]
  exact (Local.token _ _).bind fun first => callAfter_local terms first

theorem termAfter_local (token : Token) : Local n (termAfter token) := by
  refine .look fun next => ?_
  split
  · refine (Local.resolve token).bind fun entry => ?_
    refine (Local.emit _).bind fun _ => ?_
    refine (Local.token _ _).bind fun opening => ?_
    refine (expression_local terms).bind fun index => ?_
    refine (Local.token _ _).bind fun closing => ?_
    exact (Local.emit _).bind fun _ => .pure _
  · split
    · exact (callAfter_local terms token).bind fun call => .pure _
    · refine (Local.resolve token).bind fun entry => ?_
      exact (Local.emit _).bind fun _ => .pure _

end

theorem term_local (n : Nat) : Local n term := by
  induction n with
  | zero => exact .zero _
  | succ n ih =>
    rw [term_eq]
    refine .accept fun token begins => ?_
    split
    · exact (Local.emit _).bind fun _ => .pure _
    · refine (expression_local ih).bind fun inner => ?_
      exact (Local.token _ _).bind fun closing => .pure _
    · refine ih.bind fun operand => ?_
      exact (Local.emit _).bind fun _ => .pure _
    · exact termAfter_local ih token
    · simp_all

theorem expression_isLocal (n : Nat) : Local n expression :=
  expression_local (term_local n)

theorem letStatement_local : Local n letStatement := by
  have value := expression_isLocal n
  rw [letStatement_eq]
  refine (Local.token _ _).bind fun word => ?_
  refine (Local.token _ _).bind fun name => ?_
  refine (Local.resolve name).bind fun entry => ?_
  refine .look fun next => ?_
  split
  · refine (Local.emit _).bind fun _ => ?_
    refine (Local.token _ _).bind fun opening => ?_
    refine value.bind fun index => ?_
    refine (Local.token _ _).bind fun closing => ?_
    refine (Local.emit _).bind fun _ => ?_
    refine (Local.token _ _).bind fun equals => ?_
    refine value.bind fun value => ?_
    refine (Local.token _ _).bind fun semicolon => ?_
    exact (Local.emit _).bind fun _ => .pure _
  · refine (Local.token _ _).bind fun equals => ?_
    refine value.bind fun value => ?_
    refine (Local.token _ _).bind fun semicolon => ?_
    exact (Local.emit _).bind fun _ => .pure _

theorem doStatement_local : Local n doStatement := by
  rw [doStatement_eq]
  refine (Local.token _ _).bind fun word => ?_
  refine (call_local (term_local n)).bind fun call => ?_
  refine (Local.token _ _).bind fun semicolon => ?_
  exact (Local.emit _).bind fun _ => .pure _

theorem returnStatement_local : Local n returnStatement := by
  rw [returnStatement_eq]
  refine (Local.token _ _).bind fun word => ?_
  refine .look fun next => ?_
  split
  · refine (Local.emit _).bind fun _ => ?_
    refine (Local.token _ _).bind fun semicolon => ?_
    exact (Local.emit _).bind fun _ => .pure _
  · refine (expression_isLocal n).bind fun value => ?_
    refine (Local.token _ _).bind fun semicolon => ?_
    exact (Local.emit _).bind fun _ => .pure _

theorem useLabel_local : Local n (change useLabel) :=
  .change (fun _ => ⟨rfl, Nat.le_refl _, List.prefix_rfl⟩) fun _ _ => rfl

section

variable (blocks : Local n block)
include blocks

theorem ifStatement_local : Local (n + 1) ifStatement := by
  rw [ifStatement_eq]
  refine .accept fun word _ => ?_
  refine (Local.ask fun s more => rfl).bind fun number => ?_
  refine useLabel_local.bind fun _ => ?_
  refine (Local.token _ _).bind fun opening => ?_
  refine (expression_isLocal n).bind fun condition => ?_
  refine (Local.token _ _).bind fun closing => ?_
  refine (Local.emit _).bind fun _ => ?_
  refine blocks.bind fun body => ?_
  refine .look fun next => ?_
  split
  · refine (Local.emit _).bind fun _ => ?_
    refine (Local.token _ _).bind fun elseWord => ?_
    refine blocks.bind fun alternative => ?_
    exact (Local.emit _).bind fun _ => .pure _
  · exact (Local.emit _).bind fun _ => .pure _

theorem whileStatement_local : Local (n + 1) whileStatement := by
  rw [whileStatement_eq]
  refine .accept fun word _ => ?_
  refine (Local.ask fun s more => rfl).bind fun number => ?_
  refine useLabel_local.bind fun _ => ?_
  refine (Local.emit _).bind fun _ => ?_
  refine (Local.token _ _).bind fun opening => ?_
  refine (expression_isLocal n).bind fun condition => ?_
  refine (Local.token _ _).bind fun closing => ?_
  refine (Local.emit _).bind fun _ => ?_
  refine blocks.bind fun body => ?_
  exact (Local.emit _).bind fun _ => .pure _

theorem statementOf_local (kind : StatementKind) : Local (n + 1) (statementOf kind) := by
  rw [statementOf_eq]
  cases kind with
  | letKind => exact letStatement_local
  | ifKind => exact ifStatement_local blocks
  | whileKind => exact whileStatement_local blocks
  | doKind => exact doStatement_local
  | returnKind => exact returnStatement_local

end

theorem block_local (statements : ∀ found, Local n (moreStatements found)) : Local n block := by
  rw [block_eq]
  refine (Local.token _ _).bind fun opening => ?_
  refine (statements []).bind fun statements => ?_
  exact (Local.token _ _).bind fun closing => .pure _

theorem moreStatements_local (n : Nat) (found : List Statement) :
    Local n (moreStatements found) := by
  induction n generalizing found with
  | zero => exact .zero _
  | succ n ih =>
    rw [moreStatements_eq]
    refine .look fun next => ?_
    split
    · rename_i kind _
      refine (statementOf_local (block_local ih) kind).bindLess (fun statement => ih _) ?_
      exact fun s statement t same => (s.statementOf kind).property statement t same
    · exact .pure _

theorem typeName_local : Local n typeName :=
  (Local.token _ _).bind fun _ => .pure _

theorem returnType_local : Local n returnType := by
  refine .look fun next => ?_
  split
  · exact (Local.token _ _).bind fun _ => .pure _
  · exact typeName_local

theorem define_local (name type : String) (kind : VariableKind) :
    Local n (change (·.define name type kind)) :=
  .change (fun _ => ⟨rfl, Nat.le_refl _, List.prefix_rfl⟩) fun _ _ => rfl

theorem newVariable_local (type : String) (kind : VariableKind) : Local n (newVariable type kind) := by
  refine (Local.token _ _).bind fun token => ?_
  refine (Local.ask fun s more => rfl).bind fun count => ?_
  exact (define_local _ _ _).bind fun _ => .pure _

theorem newVariables_local (n : Nat) (type : String) (kind : VariableKind)
    (found : List (Name × Token)) : Local n (newVariables type kind found) := by
  induction n generalizing found with
  | zero => exact .zero _
  | succ n ih =>
    rw [newVariables_eq]
    refine (newVariable_local type kind).bind fun name => ?_
    refine .accept fun separator _ => ?_
    split
    · exact ih _
    · exact .pure _

theorem variableDec_local (kind : VariableKind) (word : Token) : Local n (variableDec kind word) := by
  refine typeName_local.bind fun type => ?_
  exact (newVariables_local n _ _ _).bind fun names => .pure _

theorem moreParameters_local (n : Nat) (found : List Parameter) : Local n (moreParameters found) := by
  induction n generalizing found with
  | zero => exact .zero _
  | succ n ih =>
    rw [moreParameters_eq]
    refine typeName_local.bind fun type => ?_
    refine (newVariable_local _ _).bind fun name => ?_
    refine .look fun next => ?_
    split
    · exact .accept fun comma _ => ih _
    · exact .pure _

theorem parameters_local : Local n parameters := by
  refine .look fun next => ?_
  split
  · exact .pure _
  · exact moreParameters_local n _

theorem items_local {α κ : Type} [DecidableEq κ] {select : LexemeKind → Option κ}
    {step : (s : ParseState) → κ → Step α s.remaining} {item : κ → Token → Reading α}
    (same : ∀ s choice token rest, s.cursor.ahead = token :: rest →
      (step s choice).reply = item choice token (after s token rest))
    (each : ∀ n choice token, Local n (item choice token)) (n : Nat) (found : List α) :
    Local n (items select step found) := by
  induction n generalizing found with
  | zero => exact .zero _
  | succ n ih =>
    rw [items_eq same]
    refine .look fun next => ?_
    split
    · refine .accept fun token _ => ?_
      exact (each n _ token).bind fun value => ih _
    · exact .pure _

theorem variableDecs_local (select : LexemeKind → Option VariableKind) (found : List VariableDec) :
    Local n (variableDecs select found) :=
  items_local (fun _ kind _ _ ahead => reply_variableDec ahead kind)
    (fun _ kind word => variableDec_local kind word) n found

theorem subroutineBody_local (kind : SubroutineKind) (functionName : String) :
    Local n (subroutineBody kind functionName) := by
  refine (Local.token _ _).bind fun opening => ?_
  refine (variableDecs_local _ _).bind fun locals => ?_
  refine (Local.ask fun s more => rfl).bind fun localCount => ?_
  refine (Local.ask fun s more => rfl).bind fun fieldCount => ?_
  refine (Local.emit _).bind fun _ => ?_
  refine (moreStatements_local n []).bind fun statements => ?_
  exact (Local.token _ _).bind fun closing => .pure _

theorem enterSubroutine_local (kind : SubroutineKind) : Local n (change (·.enterSubroutine kind)) := by
  refine .change (fun s => ?_) fun s more => ?_
  · cases kind <;> exact ⟨rfl, Nat.le_refl _, List.prefix_rfl⟩
  · cases kind <;> rfl

theorem subroutine_local (kind : SubroutineKind) (word : Token) : Local n (subroutine kind word) := by
  refine (enterSubroutine_local kind).bind fun _ => ?_
  refine returnType_local.bind fun type => ?_
  refine (Local.token _ _).bind fun name => ?_
  refine (Local.ask fun s more => rfl).bind fun className => ?_
  refine (Local.token _ _).bind fun opening => ?_
  refine parameters_local.bind fun parameters => ?_
  refine (Local.token _ _).bind fun closing => ?_
  exact (subroutineBody_local _ _).bind fun body => .pure _

theorem subroutines_local (found : List Subroutine) : Local n (subroutines found) :=
  items_local (fun _ kind _ _ ahead => reply_subroutine ahead kind)
    (fun _ kind word => subroutine_local kind word) n found

theorem setClassName_local (name : String) : Local n (change (·.setClassName name)) :=
  .change (fun _ => ⟨rfl, Nat.le_refl _, List.prefix_rfl⟩) fun _ _ => rfl

theorem classDec_local (n : Nat) : Local n classDec := by
  refine (Local.token _ _).bind fun word => ?_
  refine (Local.token _ _).bind fun name => ?_
  refine (setClassName_local _).bind fun _ => ?_
  refine (Local.token _ _).bind fun opening => ?_
  refine (variableDecs_local _ _).bind fun declarations => ?_
  refine (subroutines_local _).bind fun subroutines => ?_
  exact (Local.token _ _).bind fun closing => .pure _

end Reading

end Jack
