import Jack.Proofs.Grammar.Language
import Jack.Proofs.Viability.Declaration
import Jack.Proofs.Viability.Statement

namespace Jack

open Grammar Marked Reading

def Course.classVariables : Course where
  whole tokens marked := Between (marked.map (·.text)) [] tokens
  holds marked table := table.Holds (marked.map (·.text)) []
  viable := Between.viable

def Course.subroutineVariables (ofClass : List String) (usages : List Usage) : Course where
  whole tokens marked := ∀ statements used closing, Derives .statements statements used →
    closing.isSymbol '}' →
    Between ofClass (usages ++ [⟨marked.map (·.text), used⟩]) (tokens ++ (statements ++ [closing]))
  holds marked table := table.Holds ofClass (marked.map (·.text))
  viable := by
    intro tokens marked whole
    obtain ⟨closing, closes⟩ := Fragment.exists_symbol '}'
    exact (whole [] [] closing .noStatements closes).viable.of_append

def Course.subroutines (ofClass : List String) : Course where
  whole tokens _ := ∃ usages, Between ofClass usages tokens
  holds _ table := table.Holds ofClass []
  viable := by
    rintro tokens _ ⟨usages, between⟩
    exact between.viable

def Course.finish : Course where
  whole tokens _ := IsClass tokens
  holds _ _ := True
  viable := IsClass.viable

namespace Course

open Fragment

variable {ofClass : List String} {usages : List Usage} {n : Nat}

theorem declares_classVariables {kind : VariableKind} (isClass : kind.scope = .classScope) :
    classVariables.Declares kind := by
  intro marked table name type holds
  have defined := VariableTable.Holds.defineOfClass holds name.text type isClass
  simpa [classVariables] using defined

theorem declares_subroutineVariables (kind : VariableKind) :
    (subroutineVariables ofClass usages).Declares kind := by
  intro marked table name type holds
  have defined := VariableTable.Holds.define holds name.text type kind
  simpa [subroutineVariables] using defined

theorem Awaits.statements {s : ParseState}
    (awaits : (subroutineVariables ofClass usages).Awaits [] s) :
    ∃ own, (Site.statements ⟨ofClass, usages, own⟩).Awaits [.phrase .statements, .symbol '}'] s := by
  obtain ⟨marked, holds, completes⟩ := awaits
  have whole := forall_all_nil.mp completes
  refine ⟨marked.map (·.text), [], ?_⟩
  refine ⟨holds, ?_⟩
  simp only [forall_all_one, forall_all_phrase, forall_all_nil]
  intro statements derived closing closes
  have between := whole _ _ closing derived closes
  simpa [Site.statements] using between

theorem Awaits.between {s : ParseState} {site : Site} (awaits : site.statements.Awaits [] s) :
    (subroutines site.ofClass).Awaits [] s := by
  obtain ⟨marked, holds, completes⟩ := awaits
  refine ⟨[], holds.forget, ?_⟩
  rw [forall_all_nil] at completes ⊢
  exact ⟨_, completes⟩

theorem varDecs_keep (found : List VariableDec) :
    (subroutineVariables ofClass usages).Keeps n [.repeated DerivesVarDec]
      (variableDecs VariableKind.ofLocalKeyword? found) := by
  refine variableDecs_keeps ?_ (fun _ kind _ => declares_subroutineVariables kind) n found
  intro keyword type later declared begins isType names
  exact .locals (VariableKind.isKeyword_of_ofLocalKeyword? begins) isType names

theorem subroutineBody_brings (kind : SubroutineKind) (functionName : String) :
    Brings n ((subroutineVariables ofClass usages).Awaits [.symbol '{', .repeated DerivesVarDec])
      ((subroutines ofClass).Awaits []) (subroutineBody kind functionName) := by
  refine Brings.bind (Keeps.symbol '{' _ _) fun opening => ?_
  refine Brings.bind (varDecs_keep [] []) fun locals => ?_
  refine Brings.since (.forEach fun own => ?_) fun s awaits => awaits.statements
  refine Keeps.brings ?_ fun s awaits => awaits.between
  refine (Keeps.ask _).bind fun localCount => ?_
  refine (Keeps.ask _).bind fun fieldCount => ?_
  refine (Keeps.emit _).bind fun _ => ?_
  refine (moreStatements_keeps n []).bind fun statements => ?_
  exact (Keeps.symbol '}').bind fun closing => .pure _

theorem subroutine_brings (kind : SubroutineKind) (word : Token) :
    Brings n (fun s => (subroutineVariables ofClass usages).Awaits
        [.returnType, .name, .symbol '(', .parameterList, .symbol ')', .symbol '{',
          .repeated DerivesVarDec] (s.enterSubroutine kind))
      ((subroutines ofClass).Awaits []) (subroutine kind word) := by
  refine Brings.bind (.change (ParseState.cursor_enterSubroutine · kind) fun _ => id) fun _ => ?_
  refine Brings.bind (returnType_keeps _) fun type => ?_
  refine Brings.bind (Keeps.name _) fun name => ?_
  refine Brings.bind (.ask _) fun className => ?_
  refine Brings.bind (Keeps.symbol '(' _ _) fun opening => ?_
  refine Brings.bind (parameters_keeps (declares_subroutineVariables _) _) fun parameters => ?_
  refine Brings.bind (Keeps.symbol ')' _ _) fun closing => ?_
  exact Brings.bind (subroutineBody_brings _ _) fun body => .pure _

theorem Awaits.enters {s : ParseState} {token : Token} {kind : SubroutineKind}
    (awaits : (subroutines ofClass).Awaits [] s) (rest : List Token)
    (begins : SubroutineKind.ofKind? token.kind = some kind) :
    ∃ usages, (subroutineVariables ofClass usages).Awaits
      [.returnType, .name, .symbol '(', .parameterList, .symbol ')', .symbol '{',
        .repeated DerivesVarDec] ((after s token rest).enterSubroutine kind) := by
  obtain ⟨_, holds, completes⟩ := awaits
  have holds : (after s token rest).names.Holds ofClass [] := holds
  obtain ⟨usages, between⟩ := forall_all_nil.mp completes
  refine ⟨usages, [], ?_⟩
  refine ⟨ParseState.holds_enterSubroutine holds kind, ?_⟩
  rw [ParseState.cursor_enterSubroutine]
  simp only [forall_all_one, forall_all_declaring, forall_all_nil]
  intro type returns name isName opening opens parameters declares closing closes brace starts locals
    declaresLocals statements used last derived ends subroutines later final others finishes
  have body := DerivesSubroutineBody.body starts declaresLocals derived ends
  have first := DerivesSubroutine.subroutine (SubroutineKind.isKeyword_of_ofKind? begins)
    (isReturn_of_test returns) isName opens declares closes body
  have whole := between _ _ final (.next first others) finishes
  simpa [after, names] using whole

theorem subroutines_bring (n : Nat) (found : List Subroutine) :
    Brings n ((subroutines ofClass).Awaits []) ((subroutines ofClass).Awaits [])
      (Reading.subroutines found) := by
  induction n generalizing found with
  | zero => exact .zero _
  | succ n ih =>
    rw [Reading.subroutines, items_eq fun _ kind _ _ ahead => reply_subroutine ahead kind]
    refine .look (fun _ awaits => awaits.viable) fun next => ?_
    split
    · rename_i kind _
      refine .accept (by decide) (fun _ awaits => awaits.viable) ?_
      intro token others s passes awaits few
      obtain ⟨usages, enters⟩ := awaits.enters others (eq_of_beq passes)
      exact Brings.bind (subroutine_brings kind token) (fun value => ih _) _ few enters
    · exact .pure _

theorem classVarDecs_keep (found : List VariableDec) :
    classVariables.Keeps n [.repeated DerivesClassVarDec]
      (variableDecs VariableKind.ofClassKeyword? found) := by
  refine variableDecs_keeps ?_ ?_ n found
  · intro keyword type later declared begins isType names
    exact .ofClass (VariableKind.isKeyword_of_ofClassKeyword? begins) isType names
  · intro word kind selected
    exact declares_classVariables (ParseState.classScope_ofClassKeyword? word kind selected)

theorem Awaits.subroutines {s : ParseState} (awaits : classVariables.Awaits [] s) :
    ∃ ofClass, (Course.subroutines ofClass).Awaits [] s := by
  obtain ⟨marked, holds, completes⟩ := awaits
  refine ⟨marked.map (·.text), [], ?_⟩
  refine ⟨holds, ?_⟩
  rw [forall_all_nil] at completes ⊢
  exact ⟨[], by simpa [classVariables] using completes⟩

theorem Awaits.brace {s : ParseState} (awaits : (Course.subroutines ofClass).Awaits [] s) :
    finish.Awaits [.symbol '}'] s := by
  obtain ⟨_, _, completes⟩ := awaits
  obtain ⟨usages, between⟩ := forall_all_nil.mp completes
  refine ⟨[], trivial, ?_⟩
  simp only [forall_all_one, forall_all_nil]
  intro closing closes
  have derived := between [] [] closing .none closes
  exact ⟨ofClass, _, by simpa using derived⟩

theorem setClassName_keeps {course : Course} (name : String) :
    course.Keeps n [] (change (·.setClassName name)) :=
  .change (fun _ => rfl) fun _ => rfl

theorem classDec_brings :
    Brings n (classVariables.Awaits
        [.keyword .classKw, .name, .symbol '{', .repeated DerivesClassVarDec])
      (fun s => IsClass s.cursor.behind.reverse) classDec := by
  refine Brings.bind (Keeps.keyword .classKw _) fun word => ?_
  refine Brings.bind (Keeps.name _) fun name => ?_
  refine Brings.bind (setClassName_keeps name.text _) fun _ => ?_
  refine Brings.bind (Keeps.symbol '{' _ _) fun opening => ?_
  refine Brings.bind (classVarDecs_keep [] []) fun declarations => ?_
  refine Brings.since (.forEach fun ofClass => ?_) fun s awaits => awaits.subroutines
  refine Brings.bind (subroutines_bring n []) fun subroutines => ?_
  refine Brings.since ?_ fun s awaits => awaits.brace
  refine Keeps.brings ?_ ?_
  · exact (Keeps.symbol '}').bind fun closing => .pure _
  · intro s awaits
    obtain ⟨_, _, completes⟩ := awaits
    have isClass : IsClass (s.cursor.behind.reverse ++ []) := forall_all_nil.mp completes
    rwa [List.append_nil] at isClass

theorem awaits_start (tokens : List Token) :
    classVariables.Awaits [.keyword .classKw, .name, .symbol '{', .repeated DerivesClassVarDec]
      (.start tokens) := by
  refine ⟨[], VariableTable.Holds.empty, ?_⟩
  simp only [forall_all_one, forall_all_declaring, forall_all_nil]
  intro keyword isClass name isName opening opens declarations declares subroutines later closing
    derived closes
  have whole := DerivesClass.classDec isClass isName opens declares derived closes
  simpa [ParseState.start, ParseState.startWith, Cursor.ofList, names] using whole

end Course

end Jack
