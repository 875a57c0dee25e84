import Jack.Proofs.Incremental
import Jack.Proofs.Reading.Relayout
import Jack.Proofs.Refusal
import Jack.Proofs.Replay

namespace Jack

open Reading

/-- Two sources with the tokens `ts` and `us` come to the same: one class name, one text for the machine
and one listing in each style, or one fault, which stands at the tokens of one number, or at the ends. -/
inductive SameOutcome (ts us : List Token) :
    Except Diagnostic Compilation → Except Diagnostic Compilation → Prop where
  | compiled {first second : Compilation} (className : first.className = second.className)
    (vm : first.vm = second.vm)
    (listings : ∀ style, first.tree.listing style = second.tree.listing style) :
    SameOutcome ts us (.ok first) (.ok second)
  | refused {cause : Cause} {t u : Token} {file : String} (n : Nat) (first : ts[n]? = some t)
    (second : us[n]? = some u) (seen : cause ≠ .endOfInput) :
    SameOutcome ts us (.error ⟨⟨cause, t.start⟩, file⟩) (.error ⟨⟨cause, u.start⟩, file⟩)
  | ended (file : String) :
    SameOutcome ts us (.error ⟨⟨.endOfInput, endOf ts⟩, file⟩) (.error ⟨⟨.endOfInput, endOf us⟩, file⟩)

variable {ts us : List Token}

theorem sideBySide_start (same : ts.map (·.text) = us.map (·.text)) :
    SideBySide ts us (.start ts) (.start us) :=
  ⟨Facing.all same, rfl, rfl, rfl, rfl⟩

theorem toList_of_parse {tokens : List Token} {fault : Fault} {s : ParseState}
    (failed : parse tokens = .error fault s) : s.cursor.toList = tokens := by
  rw [parse_eq] at failed
  cases read : classDec (.start tokens) with
  | error =>
    rw [read] at failed
    cases failed
    exact classDec_onward read
  | ok declaration t =>
    rw [read] at failed
    dsimp only at failed
    split at failed
    · cases failed
    · cases failed
      exact toList_of_classDec read

theorem parse_parallel (same : ts.map (·.text) = us.map (·.text)) :
    Parallel ts us ts.length (Node.SameTree ClassDec.node) (parse ts) (parse us) := by
  have replies := classDec_together _ _ _ (Nat.lt_succ_self _) (sideBySide_start same)
  rw [parse_eq, parse_eq]
  generalize classDec (.start ts) = reply at replies
  generalize classDec (.start us) = reply' at replies
  cases replies with
  | refused facing seen => exact .refused facing seen
  | ended atEnd atEnd' => exact .ended atEnd atEnd'
  | @done declaration declaration' s s' alike beside fits =>
    have left := beside.ahead
    dsimp only
    generalize s.cursor.ahead = rest at left
    generalize s'.cursor.ahead = rest' at left
    cases left with
    | nil => exact .done alike beside fits
    | cons facing _ => exact .unexpected facing _ _ _

theorem compile_ignores_layout {a b : String} (first : tokenize a = .ok ts)
    (second : tokenize b = .ok us) (same : ts.map (·.text) = us.map (·.text)) (file? : Option String) :
    SameOutcome ts us (compile a file?) (compile b file?) := by
  have replies := parse_parallel same
  rw [compile_of_tokens first, compile_of_tokens second]
  generalize one : parse ts = reply at replies
  generalize other : parse us = reply' at replies
  cases replies with
  | done alike beside _ =>
    -- A listing shows no places, and in all else the trees are equal.
    refine .compiled beside.className (congrArg vmText beside.instructions) fun style => ?_
    rw [Analysis.tree, Analysis.tree, ← Node.listing_unplaced, alike, Node.listing_unplaced]
  | refused facing seen =>
    obtain ⟨n, left, right⟩ := facing.number
    exact .refused n left right seen
  | ended atEnd atEnd' =>
    dsimp only
    rw [Cursor.endOfInput_eq atEnd, Cursor.endOfInput_eq atEnd', toList_of_parse one,
      toList_of_parse other]
    exact .ended _

def sameLexemes (a b : String) : Bool :=
  match tokenize a, tokenize b with
  | .ok ts, .ok us => ts.map (·.text) == us.map (·.text)
  | _, _ => false

theorem exists_of_sameLexemes {a b : String} (same : sameLexemes a b) :
    ∃ ts us, tokenize a = .ok ts ∧ tokenize b = .ok us ∧ ts.map (·.text) = us.map (·.text) := by
  unfold sameLexemes at same
  split at same
  · rename_i ts us first second
    exact ⟨ts, us, first, second, eq_of_beq same⟩
  · cases same

def terse (tail : String) : String :=
  "class T\x7bfunction int f(int a)\x7breturn " ++ tail

def roomy (tail : String) : String :=
  "/** T */ class T // one\n \x7b function\u00a0int f ( int a )\n\x7b\n\treturn/**/" ++ tail

/-- A class that is compiled, one with a name that is not declared, and one that ends too early. -/
theorem outcomes_of_terse_and_roomy :
    (∃ ts us, tokenize (terse "-a+1;\x7d\x7d") = .ok ts ∧
      tokenize (roomy " - a /*+*/ + 1 ;\n\x7d \x7d // end") = .ok us ∧
      ts.map (·.text) = us.map (·.text) ∧ (compile (terse "-a+1;\x7d\x7d") none).toOption.isSome ∧
      SameOutcome ts us (compile (terse "-a+1;\x7d\x7d") none)
        (compile (roomy " - a /*+*/ + 1 ;\n\x7d \x7d // end") none)) ∧
    (∃ ts us, tokenize (terse "b;\x7d\x7d") = .ok ts ∧ tokenize (roomy "b;\x7d\x7d") = .ok us ∧
      ts.map (·.text) = us.map (·.text) ∧ refuses (terse "b;\x7d\x7d") ⟨.undefinedSymbol "b", 37⟩ ∧
      refuses (roomy "b;\x7d\x7d") ⟨.undefinedSymbol "b", 66⟩ ∧
      SameOutcome ts us (compile (terse "b;\x7d\x7d") none) (compile (roomy "b;\x7d\x7d") none)) ∧
    ∃ ts us, tokenize (terse "a+") = .ok ts ∧ tokenize (roomy "a + ") = .ok us ∧
      ts.map (·.text) = us.map (·.text) ∧ refuses (terse "a+") ⟨.endOfInput, 39⟩ ∧
      refuses (roomy "a + ") ⟨.endOfInput, 69⟩ ∧
      SameOutcome ts us (compile (terse "a+") none) (compile (roomy "a + ") none) := by
  have whole : sameLexemes (terse "-a+1;\x7d\x7d") (roomy " - a /*+*/ + 1 ;\n\x7d \x7d // end") := by
    decide +kernel
  have unknown : sameLexemes (terse "b;\x7d\x7d") (roomy "b;\x7d\x7d") := by
    decide +kernel
  have cut : sameLexemes (terse "a+") (roomy "a + ") := by
    decide +kernel
  obtain ⟨ts₁, us₁, first₁, second₁, same₁⟩ := exists_of_sameLexemes whole
  obtain ⟨ts₂, us₂, first₂, second₂, same₂⟩ := exists_of_sameLexemes unknown
  obtain ⟨ts₃, us₃, first₃, second₃, same₃⟩ := exists_of_sameLexemes cut
  refine ⟨⟨ts₁, us₁, first₁, second₁, same₁, ?_, compile_ignores_layout first₁ second₁ same₁ none⟩,
    ⟨ts₂, us₂, first₂, second₂, same₂, ?_, ?_, compile_ignores_layout first₂ second₂ same₂ none⟩,
    ts₃, us₃, first₃, second₃, same₃, ?_, ?_, compile_ignores_layout first₃ second₃ same₃ none⟩
  all_goals decide +kernel

end Jack
