import Jack.Proofs.Grammar.Declaration
import Jack.Proofs.Viability.Basic
import Jack.Proofs.Viability.Fragment

namespace Jack

open Grammar Marked Reading

/-- `whole` tells which tokens are wanted, with the tokens among them that stand for a variable, and
`holds` what the table is when some of these have been read. -/
structure Course where
  whole : List Token → List Token → Prop
  holds : List Token → VariableTable → Prop
  viable : ∀ {tokens marked}, whole tokens marked → Viable tokens

namespace Course

variable {course : Course} {m n : Nat} {part : Fragment} {parts parts' later : List Fragment}
  {s t : ParseState} {token : Token} {rest : List Token}

/-- All words of the parts complete what was read. -/
def Awaits (course : Course) (parts : List Fragment) (s : ParseState) : Prop :=
  ∃ marked, course.holds marked s.names ∧ ∀ word ∈ Fragment.all parts,
    course.whole (s.cursor.behind.reverse ++ tokens word) (marked ++ marks word)

namespace Awaits

theorem viable (awaits : course.Awaits parts s) : Viable s.cursor.behind.reverse := by
  obtain ⟨marked, _, completes⟩ := awaits
  obtain ⟨word, member⟩ := Fragment.exists_mem_all parts
  exact (course.viable (completes word member)).of_append

theorem as (awaits : course.Awaits (parts ++ later) s)
    (within : ∀ word ∈ Fragment.all parts', word ∈ Fragment.all parts) :
    course.Awaits (parts' ++ later) s := by
  obtain ⟨marked, holds, completes⟩ := awaits
  refine ⟨marked, holds, ?_⟩
  rw [Fragment.forall_all_append] at completes ⊢
  exact fun first member => completes first (within first member)

theorem same (awaits : course.Awaits parts s) (cursor : t.cursor = s.cursor)
    (names : t.names = s.names) : course.Awaits parts t := by
  rwa [Awaits, cursor, names]

theorem step {mark : Bool} (awaits : course.Awaits (parts ++ later) s)
    (within : ∀ word ∈ Fragment.all parts', (token, mark) :: word ∈ Fragment.all parts)
    (kept : ∀ marked, course.holds marked s.names →
      course.holds (marked ++ marks [(token, mark)]) t.names)
    (read : t.cursor = (after s token rest).cursor) : course.Awaits (parts' ++ later) t := by
  obtain ⟨marked, holds, completes⟩ := awaits
  refine ⟨marked ++ marks [(token, mark)], kept marked holds, ?_⟩
  rw [Fragment.forall_all_append] at completes ⊢
  intro first member last memberLast
  have whole := completes _ (within first member) last memberLast
  rw [read]
  simpa [after, ← marks_append] using whole

theorem begin (awaits : course.Awaits (parts ++ later) s)
    (within : ∀ word ∈ Fragment.all parts', (token, false) :: word ∈ Fragment.all parts) :
    course.Awaits (parts' ++ later) (after s token rest) := by
  apply awaits.step within
  · intro marked holds
    rw [marks_unmarked, marks_nil, List.append_nil]
    exact holds
  · rfl

theorem within_of_mem {mark : Bool} (allowed : [(token, mark)] ∈ part.words) :
    ∀ word ∈ Fragment.all [], (token, mark) :: word ∈ Fragment.all [part] := by
  rw [Fragment.forall_all_nil, Fragment.mem_all_cons]
  exact ⟨_, allowed, [], rfl, rfl⟩

theorem read (awaits : course.Awaits (part :: parts) s) (allowed : [(token, false)] ∈ part.words) :
    course.Awaits parts (after s token rest) := by
  have started : course.Awaits ([part] ++ parts) s := awaits
  exact started.begin (within_of_mem allowed)

end Awaits

/-- Reads the parts, whatever comes after them, from states with fewer than `n` tokens to come. -/
def Keeps {α : Type} (course : Course) (n : Nat) (parts : List Fragment) (program : Reading α) : Prop :=
  ∀ later, Brings n (course.Awaits (parts ++ later)) (course.Awaits later) program

namespace Keeps

variable {α β : Type} {program : Reading α} {next : α → Reading β}

theorem zero (program : Reading α) : course.Keeps 0 parts program :=
  fun _ => .zero program

theorem mono (keeps : course.Keeps n parts program) (le : m ≤ n) : course.Keeps m parts program :=
  fun later => (keeps later).mono le

theorem justified (keeps : course.Keeps n parts program) (few : s.remaining < n)
    (awaits : course.Awaits (parts ++ later) s) :
    Justified s.remaining (course.Awaits later) (program s) :=
  keeps later s few awaits

theorem brings {better : ParseState → Prop} (keeps : course.Keeps n parts program)
    (finish : ∀ s, course.Awaits [] s → better s) :
    Brings n (course.Awaits parts) better program := by
  have whole := (keeps []).upTo finish
  rwa [List.append_nil] at whole

theorem as (parts' : List Fragment) (within : ∀ word ∈ Fragment.all parts', word ∈ Fragment.all parts)
    (keeps : course.Keeps n parts' program) : course.Keeps n parts program :=
  fun later => (keeps later).since fun _ awaits => awaits.as within

theorem left {second : List Fragment} (keeps : course.Keeps n parts program) :
    course.Keeps n [.either parts second] program := by
  refine as parts ?_ keeps
  exact fun word member => Fragment.mem_all_single.mpr (.inl member)

theorem right {first : List Fragment} (keeps : course.Keeps n parts program) :
    course.Keeps n [.either first parts] program := by
  refine as parts ?_ keeps
  exact fun word member => Fragment.mem_all_single.mpr (.inr member)

theorem phrase {sort : Phrase} (parts : List Fragment)
    (derives : ∀ word ∈ Fragment.all parts, Derives sort (tokens word) (marks word))
    (keeps : course.Keeps n parts program) : course.Keeps n [.phrase sort] program :=
  as parts (fun word member => Fragment.mem_all_phrase.mpr (derives word member)) keeps

theorem pure (value : α) : course.Keeps n [] (Pure.pure value) :=
  fun _ => .pure value

theorem bind (first : course.Keeps n parts program)
    (rest : ∀ value, course.Keeps n parts' (next value)) :
    course.Keeps n (parts ++ parts') (program >>= next) := by
  intro later
  rw [List.append_assoc]
  exact (first _).bind fun value => rest value later

theorem bindLess (first : course.Keeps (n + 1) parts program)
    (rest : ∀ value, course.Keeps n parts' (next value))
    (fewer : ∀ s value t, program s = .ok value t → t.remaining < s.remaining) :
    course.Keeps (n + 1) (parts ++ parts') (program >>= next) := by
  intro later
  rw [List.append_assoc]
  exact (first _).bindLess (fun value => rest value later) fewer

theorem ask (known : ParseState → α) : course.Keeps n [] (Reading.ask known) :=
  fun _ => .ask known

theorem change {step : ParseState → ParseState} (cursor : ∀ s, (step s).cursor = s.cursor)
    (names : ∀ s, (step s).names = s.names) : course.Keeps n [] (Reading.change step) :=
  fun _ => .change cursor fun s awaits => awaits.same (cursor s) (names s)

theorem emit (code : List Instruction) : course.Keeps n [] (Reading.emit code) :=
  change (fun _ => rfl) fun _ => rfl

theorem look {next : Token → Reading β} (rest : ∀ token, course.Keeps n parts (next token)) :
    course.Keeps n parts (Reading.look >>= next) :=
  fun later => .look (fun _ awaits => awaits.viable) fun token => rest token later

theorem acceptEach {test : Token → Bool} {expected : String} {next : Token → Reading β}
    (differs : expected ≠ "end of input")
    (rest : ∀ token others later s, test token → course.Awaits (parts ++ later) s →
      (after s token others).remaining < n →
      Justified (after s token others).remaining (course.Awaits later)
        (next token (after s token others))) :
    course.Keeps (n + 1) parts (Reading.accept test expected >>= next) := by
  intro later
  apply Brings.accept differs fun _ awaits => awaits.viable
  exact fun token others s => rest token others later s

theorem accept {test : Token → Bool} {expected : String} {next : Token → Reading β}
    (allowed : ∀ token, test token → [(token, false)] ∈ part.words)
    (differs : expected ≠ "end of input")
    (rest : ∀ token, test token → course.Keeps n parts (next token)) :
    course.Keeps (n + 1) (part :: parts) (Reading.accept test expected >>= next) := by
  apply acceptEach differs
  intro token others later s passes awaits few
  exact (rest token passes).justified few (awaits.read (allowed token passes))

theorem tested {test : Token → Bool} {expected : String}
    (allowed : ∀ token, test token → [(token, false)] ∈ part.words)
    (differs : expected ≠ "end of input") :
    course.Keeps n [part] (Reading.accept test expected) := by
  have keeps : course.Keeps (n + 1) [part] (Reading.accept test expected >>= Pure.pure) :=
    accept allowed differs fun token _ => pure token
  rw [bind_pure] at keeps
  exact keeps.mono (Nat.le_succ n)

theorem inBackticks_ne (text : String) : inBackticks text ≠ "end of input" := by
  intro same
  have chars := congrArg String.toList same
  simp [inBackticks] at chars

theorem symbol (mark : Char) (isMark : isSymbolChar mark := by decide) :
    course.Keeps n [.symbol mark isMark] (Reading.symbol mark) :=
  tested (fun token passes => ⟨token, passes, rfl⟩) (inBackticks_ne _)

theorem keyword (word : Keyword) : course.Keeps n [.keyword word] (Reading.keyword word) :=
  tested (fun token passes => ⟨token, passes, rfl⟩) (inBackticks_ne _)

theorem name : course.Keeps n [.name] Reading.identifier :=
  tested (fun token passes => ⟨token, passes, rfl⟩) (by decide)

end Keeps

end Course

def Between (ofClass : List String) (usages : List Usage) (tokens : List Token) : Prop :=
  ∀ subroutines later closing, Repeated DerivesSubroutine subroutines later →
    closing.isSymbol '}' →
    DerivesClass (tokens ++ (subroutines ++ [closing])) ofClass (usages ++ later)

theorem Between.viable {ofClass : List String} {usages : List Usage} {tokens : List Token}
    (between : Between ofClass usages tokens) : Viable tokens := by
  obtain ⟨closing, closes⟩ := Fragment.exists_symbol '}'
  exact ⟨_, _, _, between [] [] closing .none closes⟩

/-- Where the statements of a subroutine stand: the variables of the class, the usages of the
subroutines before, and the names that are declared in the subroutine. -/
structure Site where
  ofClass : List String
  usages : List Usage
  own : List String

def Site.statements (site : Site) : Course where
  whole tokens marked := Between site.ofClass (site.usages ++ [⟨site.own, marked⟩]) tokens
  holds _ table := table.Holds site.ofClass site.own
  viable := Between.viable

namespace Course

variable {site : Site} {n : Nat} {parts : List Fragment}
  {s : ParseState} {token : Token} {rest : List Token}

theorem Awaits.variable (awaits : site.statements.Awaits (.variableName :: parts) s)
    (isName : token.isIdentifier) :
    site.statements.Awaits parts (after s token rest) := by
  have started : site.statements.Awaits ([.variableName] ++ parts) s := awaits
  exact started.step (Awaits.within_of_mem ⟨token, isName, rfl⟩) (fun _ holds => holds) rfl

theorem Awaits.variablePlace
    (awaits : site.statements.Awaits (.variableName :: parts) s) :
    VariablePlace s.cursor.behind.reverse site.own site.ofClass := by
  obtain ⟨marked, _, completes⟩ := awaits
  obtain ⟨word, member⟩ := Fragment.exists_mem_all parts
  obtain ⟨closing, closes⟩ := Fragment.exists_symbol '}'
  refine ⟨tokens word ++ [closing], site.usages, marked, marks word, [], ?_⟩
  intro name isName
  have between := Fragment.forall_all_cons.mp completes _ ⟨name, isName, rfl⟩ word member
  have derived := between [] [] closing .none closes
  simpa using derived

theorem justified_resolve {β : Type} {bound : Nat} {good : ParseState → Prop}
    {next : Variable → Reading β} (awaits : site.statements.Awaits (.variableName :: parts) s)
    (isName : token.isIdentifier)
    (resolved : ∀ entry, Justified bound good (next entry (after s token rest))) :
    Justified bound good ((resolve token >>= next) (after s token rest)) := by
  have holds : s.names.Holds site.ofClass site.own := awaits.choose_spec.1
  have same : (after s token rest).names = s.names := rfl
  rw [bind_apply, resolve, same]
  cases found : s.names.lookup? token.text with
  | some entry => exact resolved entry
  | none =>
    have split : (after s token rest).cursor.toList = s.cursor.behind.reverse ++ token :: rest := by
      simp [after, Cursor.toList]
    refine .undefined split isName awaits.variablePlace ?_
    intro declared
    have known : (s.names.lookup? token.text).isSome := holds.knows declared
    rw [found] at known
    cases known

theorem Keeps.variable {β : Type} {next : Token → Variable → Reading β}
    (rest : ∀ name entry, site.statements.Keeps n parts (next name entry)) :
    site.statements.Keeps n (.variableName :: parts)
      (identifier >>= fun name => resolve name >>= next name) := by
  apply Keeps.mono _ (Nat.le_succ n)
  apply acceptEach (by decide)
  intro token others later s isName awaits few
  apply justified_resolve awaits isName
  exact fun entry => (rest token entry).justified few (awaits.variable isName)

end Course

end Jack
