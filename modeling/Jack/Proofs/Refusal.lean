import Jack.Proofs.Incremental
import Jack.Proofs.Viability.ClassDec

namespace Jack

open Grammar Reading

/-- What a fault of reading, in the state `s`, says about the tokens that were to be read. -/
inductive CorrectPrefix (tokens : List Token) (s : ParseState) : Fault → Prop where
  | unexpected {before later : List Token} {token : Token} {expected : String}
    (split : tokens = before ++ token :: later) (viable : Viable before)
    (complete : expected = "end of input" → IsClass before)
    (refused : ¬ Viable (before ++ [token])) :
    CorrectPrefix tokens s ⟨.unexpectedToken expected token.text, token.start⟩
  | ended (viable : Viable tokens) (incomplete : ¬ IsClass tokens) (atEnd : s.cursor.ahead = []) :
    CorrectPrefix tokens s ⟨.endOfInput, endOf tokens⟩
  | undefined {before later : List Token} {token : Token} {own ofClass : List String}
    (split : tokens = before ++ token :: later) (isName : token.isIdentifier)
    (viable : Viable (before ++ [token])) (place : VariablePlace before own ofClass)
    (unknown : token.text ∉ own ++ ofClass) :
    CorrectPrefix tokens s ⟨.undefinedSymbol token.text, token.start⟩

variable {tokens before later : List Token} {token : Token} {fault : Fault} {s : ParseState}
  {declaration : ClassDec}

theorem refused_of_classDec (failed : classDec (.start tokens) = .error fault s) :
    Refused s fault := by
  have justified := Course.classDec_brings _ (Nat.lt_succ_self _) (Course.awaits_start tokens)
  rw [failed] at justified
  exact justified

theorem isClass_of_classDec (done : classDec (.start tokens) = .ok declaration s) :
    IsClass s.cursor.behind.reverse := by
  have justified := Course.classDec_brings _ (Nat.lt_succ_self _) (Course.awaits_start tokens)
  rw [done] at justified
  exact justified.1

theorem toList_of_classDec (done : classDec (.start tokens) = .ok declaration s) :
    s.cursor.toList = tokens := by
  have proceeds := (classDec_local _).proceeds (.start tokens) (Nat.lt_succ_self _)
  rw [done] at proceeds
  exact proceeds.toList

theorem IsClass.cause_of_error (isClass : IsClass tokens) (failed : parse tokens = .error fault s) :
    ∃ name, fault.cause = .undefinedSymbol name := by
  obtain ⟨ofClass, usages, derived⟩ := isClass
  have meets : (ParseState.start tokens).unit.Meets _ _ :=
    ParseState.unit_arrives derived VariableTable.Holds.empty rfl
  obtain ⟨usage, _, token, _, _, same⟩ := meets.of_error failed
  exact ⟨token.text, by rw [same]⟩

theorem Refused.viable (refused : Refused s fault) (ended : fault.cause = .endOfInput) :
    Viable s.cursor.toList := by
  cases refused with
  | unexpected => cases ended
  | ended atEnd viable => exact viable
  | undefined => cases ended

theorem viable_of_ended {t : ParseState}
    (ended : classDec (.start tokens) = .error t.cursor.endOfInput t) : Viable tokens := by
  have viable := (refused_of_classDec ended).viable rfl
  rwa [classDec_onward ended] at viable

section

variable (failed : classDec (.start (before ++ token :: later)) = .error fault s)
  (ahead : s.cursor.ahead = later)
include failed ahead

theorem viable_before : Viable before := by
  have steps := classDec_lockStep before (token :: later)
  rw [failed] at steps
  generalize short : classDec (.start before) = reply at steps
  cases steps with
  | failed t seen =>
    have length := congrArg List.length ahead
    simp [ParseState.extend] at length
    omega
  | ended => exact viable_of_ended short

theorem not_viable_after (isUnexpected : fault.IsUnexpected) : ¬ Viable (before ++ [token]) := by
  rintro ⟨rest, isClass⟩
  have steps := classDec_lockStep (before ++ [token]) later
  rw [List.append_assoc, List.singleton_append, failed] at steps
  generalize short : classDec (.start (before ++ [token])) = reply at steps
  cases steps with
  | failed t =>
    have further := classDec_lockStep (before ++ [token]) rest
    rw [short] at further
    generalize long : classDec (.start (before ++ [token] ++ rest)) = reply at further
    cases further with
    | failed =>
      have refused : parse (before ++ [token] ++ rest) = .error fault (t.extend rest) := by
        rw [parse_eq, long]
      obtain ⟨name, same⟩ := isClass.cause_of_error refused
      obtain ⟨expected, found, other⟩ := isUnexpected
      rw [same] at other
      cases other
    | ended => exact absurd isUnexpected (Cursor.not_isUnexpected_endOfInput _)
  | ended atEnd proceeds =>
    have fewer := proceeds.2 isUnexpected
    rw [ParseState.remaining_extend] at fewer
    simp [ParseState.remaining, Cursor.remaining, ahead, atEnd] at fewer

end

theorem not_viable_after_class
    (done : classDec (.start (before ++ token :: later)) = .ok declaration s)
    (complete : IsClass before) : ¬ Viable (before ++ [token]) := by
  rintro ⟨rest, isClass⟩
  rw [List.append_assoc, List.singleton_append] at isClass
  have steps := classDec_lockStep before (token :: later)
  rw [done] at steps
  generalize short : classDec (.start before) = reply at steps
  cases steps with
  | done _ t =>
    have further := classDec_lockStep before (token :: rest)
    rw [short] at further
    generalize long : classDec (.start (before ++ token :: rest)) = reply at further
    cases further with
    | done =>
      obtain ⟨next, others, more⟩ : ∃ next others,
          t.cursor.ahead ++ token :: rest = next :: others :=
        List.exists_cons_of_ne_nil (by simp)
      have refused : parse (before ++ token :: rest) =
          .error (unexpected "end of input" next) (t.extend (token :: rest)) := by
        rw [parse_eq, long]
        simp only [ParseState.extend, more]
      obtain ⟨name, same⟩ := isClass.cause_of_error refused
      cases same
  | @ended t =>
    have refused : parse before = .error t.cursor.endOfInput t := by
      rw [parse_eq, short]
    obtain ⟨name, same⟩ := complete.cause_of_error refused
    cases same

theorem correctPrefix_of_classDec (failed : classDec (.start tokens) = .error fault s) :
    CorrectPrefix tokens s fault := by
  have whole := classDec_onward failed
  have refused := refused_of_classDec failed
  cases refused with
  | @unexpected before token expected read differs =>
    have split : tokens = before.reverse ++ token :: s.cursor.ahead := by
      rw [← whole, Cursor.toList, read]
      simp
    rw [split] at failed
    refine .unexpected split (viable_before failed rfl) (fun same => absurd same differs) ?_
    exact not_viable_after failed rfl ⟨expected, token.text, rfl⟩
  | ended atEnd viable =>
    rw [whole] at viable
    have incomplete : ¬ IsClass tokens := by
      intro isClass
      have refused : parse tokens = .error s.cursor.endOfInput s := by
        rw [parse_eq, failed]
      obtain ⟨name, same⟩ := isClass.cause_of_error refused
      cases same
    rw [Cursor.endOfInput_eq atEnd, whole]
    exact .ended viable incomplete atEnd
  | undefined split isName place unknown =>
    rw [whole] at split
    exact .undefined split isName (place.viable isName) place unknown

theorem parse_errors_have_correct_prefix (failed : parse tokens = .error fault s) :
    CorrectPrefix tokens s fault := by
  rw [parse_eq] at failed
  cases read : classDec (.start tokens) with
  | error =>
    rw [read] at failed
    cases failed
    exact correctPrefix_of_classDec read
  | ok declaration t =>
    rw [read] at failed
    cases ahead : t.cursor.ahead with
    | nil =>
      simp only [ahead] at failed
      cases failed
    | cons token later =>
      simp only [ahead] at failed
      cases failed
      have split : tokens = s.cursor.behind.reverse ++ token :: later := by
        rw [← toList_of_classDec read, Cursor.toList, ahead]
      have complete := isClass_of_classDec read
      rw [split] at read
      have refused := not_viable_after_class read complete
      exact .unexpected split complete.viable (fun _ => complete) refused

def refuses (source : String) (fault : Fault) : Bool :=
  match tokenize source with
  | .ok tokens =>
    match parse tokens with
    | .ok _ _ => false
    | .error found _ => found == fault
  | .error _ => false

theorem exists_of_refuses {source : String} (refused : refuses source fault) :
    ∃ tokens s, tokenize source = .ok tokens ∧ parse tokens = .error fault s := by
  unfold refuses at refused
  split at refused
  · rename_i tokens read
    split at refused
    · cases refused
    · rename_i found s failed
      rw [eq_of_beq refused] at failed
      exact ⟨tokens, s, read, failed⟩
  · cases refused

def gauge (rest : String) : String :=
  "class Gauge \x7b function int f() \x7b return " ++ rest

/-- Each kind of fault: a token that begins no term, one after the class, a variable without a
declaration, and an end before the class is complete. -/
theorem correct_prefix_of_gauges :
    (∃ tokens s, tokenize (gauge "1 + ; \x7d \x7d") = .ok tokens ∧
      parse tokens = .error ⟨.unexpectedToken "term" ";", 44⟩ s ∧
      CorrectPrefix tokens s ⟨.unexpectedToken "term" ";", 44⟩) ∧
    (∃ tokens s, tokenize (gauge "1; \x7d \x7d \x7d") = .ok tokens ∧
      parse tokens = .error ⟨.unexpectedToken "end of input" "\x7d", 47⟩ s ∧
      CorrectPrefix tokens s ⟨.unexpectedToken "end of input" "\x7d", 47⟩) ∧
    (∃ tokens s, tokenize (gauge "a[level]; \x7d \x7d") = .ok tokens ∧
      parse tokens = .error ⟨.undefinedSymbol "a", 40⟩ s ∧
      CorrectPrefix tokens s ⟨.undefinedSymbol "a", 40⟩) ∧
    ∃ tokens s, tokenize (gauge "") = .ok tokens ∧
      parse tokens = .error ⟨.endOfInput, 39⟩ s ∧ CorrectPrefix tokens s ⟨.endOfInput, 39⟩ := by
  have noTerm : refuses (gauge "1 + ; \x7d \x7d") ⟨.unexpectedToken "term" ";", 44⟩ := by
    decide +kernel
  have noEnd : refuses (gauge "1; \x7d \x7d \x7d") ⟨.unexpectedToken "end of input" "\x7d", 47⟩ := by
    decide +kernel
  have noVariable : refuses (gauge "a[level]; \x7d \x7d") ⟨.undefinedSymbol "a", 40⟩ := by
    decide +kernel
  have noMore : refuses (gauge "") ⟨.endOfInput, 39⟩ := by
    decide +kernel
  obtain ⟨tokens₁, s₁, read₁, failed₁⟩ := exists_of_refuses noTerm
  obtain ⟨tokens₂, s₂, read₂, failed₂⟩ := exists_of_refuses noEnd
  obtain ⟨tokens₃, s₃, read₃, failed₃⟩ := exists_of_refuses noVariable
  obtain ⟨tokens₄, s₄, read₄, failed₄⟩ := exists_of_refuses noMore
  exact ⟨⟨tokens₁, s₁, read₁, failed₁, parse_errors_have_correct_prefix failed₁⟩,
    ⟨tokens₂, s₂, read₂, failed₂, parse_errors_have_correct_prefix failed₂⟩,
    ⟨tokens₃, s₃, read₃, failed₃, parse_errors_have_correct_prefix failed₃⟩,
    tokens₄, s₄, read₄, failed₄, parse_errors_have_correct_prefix failed₄⟩

end Jack
