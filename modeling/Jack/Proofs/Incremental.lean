import Jack.Proofs.Accepted
import Jack.Proofs.Reading.Truncation

namespace Jack

open Reading

/-- The offset just after the last token, or 0. -/
def endOf (tokens : List Token) : Nat :=
  (tokens.getLast?.map (·.stop)).getD 0

theorem Cursor.endOfInput_eq {cursor : Cursor} (ended : cursor.ahead = []) :
    cursor.endOfInput = ⟨.endOfInput, endOf cursor.toList⟩ := by
  rw [endOfInput, offset, toList, ended, List.append_nil, endOf, List.getLast?_reverse]
  cases cursor.behind <;> rfl

theorem parse_eq (tokens : List Token) :
    parse tokens =
      match classDec (.start tokens) with
      | .ok declaration s =>
        match s.cursor.ahead with
        | [] => .ok declaration s
        | token :: _ => .error (unexpected "end of input" token) s
      | .error fault s => .error fault s := by
  unfold parse parseWith ParseState.unit
  rw [← reply_classDec]
  change ((ParseState.start tokens).classDec.andThen _).reply = _
  generalize (ParseState.start tokens).classDec = step
  obtain ⟨reply, fits⟩ := step
  cases reply with
  | error fault s => rfl
  | ok declaration s =>
    dsimp only [Step.andThen, Step.reply]
    cases s.cursor.ahead <;> rfl

theorem classDec_of_parse {tokens : List Token} {declaration : ClassDec} {s : ParseState}
    (accepted : parse tokens = .ok declaration s) :
    classDec (.start tokens) = .ok declaration s ∧ s.cursor.ahead = [] := by
  rw [parse_eq] at accepted
  split at accepted
  · rename_i same
    split at accepted
    · rename_i ended
      cases accepted
      exact ⟨same, ended⟩
    · cases accepted
  · cases accepted

theorem classDec_lockStep (tokens more : List Token) :
    LockStep more (classDec (.start tokens)) (classDec (.start (tokens ++ more))) :=
  (classDec_local _).lockStep (.start tokens) more (Nat.lt_succ_self _)

theorem classDec_onward {tokens : List Token} {fault : Fault} {s : ParseState}
    (failed : classDec (.start tokens) = .error fault s) : s.cursor.toList = tokens := by
  have proceeds := (classDec_local _).proceeds (.start tokens) (Nat.lt_succ_self _)
  rw [failed] at proceeds
  exact proceeds.1.toList

variable {tokens : List Token} {declaration : ClassDec} {s : ParseState}

theorem parse_truncated (accepted : parse tokens = .ok declaration s) {k : Nat}
    (fewer : k < tokens.length) :
    ∃ t, parse (tokens.take k) = .error ⟨.endOfInput, endOf (tokens.take k)⟩ t ∧
      t.instructions <+: s.instructions := by
  obtain ⟨whole, ended⟩ := classDec_of_parse accepted
  have steps := classDec_lockStep (tokens.take k) (tokens.drop k)
  rw [List.take_append_drop, whole] at steps
  generalize short : classDec (.start (tokens.take k)) = reply at steps
  cases steps with
  | done _ t =>
    have left : t.cursor.ahead ++ tokens.drop k = [] := ended
    have beyond := (List.append_eq_nil_iff.mp left).2
    rw [List.drop_eq_nil_iff] at beyond
    omega
  | @ended t _ atEnd later =>
    refine ⟨t, ?_, later.code⟩
    rw [parse_eq, short, Cursor.endOfInput_eq atEnd, classDec_onward short]

theorem parse_continued (accepted : parse tokens = .ok declaration s) (token : Token)
    (later : List Token) :
    ∃ t, parse (tokens ++ token :: later) =
        .error ⟨.unexpectedToken "end of input" token.text, token.start⟩ t ∧
      t.instructions = s.instructions := by
  obtain ⟨whole, ended⟩ := classDec_of_parse accepted
  have steps := classDec_lockStep tokens (token :: later)
  rw [whole] at steps
  generalize long : classDec (.start (tokens ++ token :: later)) = reply at steps
  cases steps with
  | done =>
    have ahead : (s.extend (token :: later)).cursor.ahead = token :: later := by
      rw [ParseState.extend, ended, List.nil_append]
    refine ⟨s.extend (token :: later), ?_, rfl⟩
    rw [parse_eq, long]
    simp only [ahead]
    rfl

theorem code_is_incremental (accepted : parse tokens = .ok declaration s) :
    (∀ k < tokens.length,
      ∃ t, parse (tokens.take k) = .error ⟨.endOfInput, endOf (tokens.take k)⟩ t ∧
        t.instructions <+: s.instructions) ∧
    ∀ token later,
      ∃ t, parse (tokens ++ token :: later) =
          .error ⟨.unexpectedToken "end of input" token.text, token.start⟩ t ∧
        t.instructions = s.instructions :=
  ⟨fun _ fewer => parse_truncated accepted fewer, parse_continued accepted⟩

def meterSource : String :=
  "class Meter {
  static int total;
  function int add(int amount) {
    let total = total + amount;
    return total;
  }
}"

theorem code_of_meter_is_incremental : ∃ tokens declaration s,
    tokenize meterSource = .ok tokens ∧ parse tokens = .ok declaration s ∧
    tokens.length = 27 ∧ s.instructions.length = 7 ∧
    (∀ k < tokens.length,
      ∃ t, parse (tokens.take k) = .error ⟨.endOfInput, endOf (tokens.take k)⟩ t ∧
        t.instructions <+: s.instructions) ∧
    ∀ token later,
      ∃ t, parse (tokens ++ token :: later) =
          .error ⟨.unexpectedToken "end of input" token.text, token.start⟩ t ∧
        t.instructions = s.instructions := by
  have passes : (tokenize meterSource).toOption.any fun tokens =>
      tokens.length == 27 && acceptsWith (·.code.length == 7) tokens := by
    decide +kernel
  cases split : tokenize meterSource with
  | error fault =>
    rw [split] at passes
    cases passes
  | ok tokens =>
    rw [split] at passes
    obtain ⟨length, accepted⟩ := Bool.and_eq_true_iff.mp passes
    obtain ⟨declaration, s, parsed, code⟩ := exists_of_acceptsWith accepted
    rw [← instructions_of_parse parsed] at code
    exact ⟨tokens, declaration, s, rfl, parsed, eq_of_beq length, eq_of_beq code,
      code_is_incremental parsed⟩

end Jack
