import Jack.Proofs.Grammar.Basic
import Jack.Proofs.Reading.Basic

namespace Jack

open Grammar Reading

/-- A complete class, whether its variables are declared or not. -/
def IsClass (tokens : List Token) : Prop :=
  ∃ ofClass usages, DerivesClass tokens ofClass usages

/-- Some continuation makes a complete class. -/
def Viable (tokens : List Token) : Prop :=
  ∃ rest, IsClass (tokens ++ rest)

theorem IsClass.viable {tokens : List Token} (isClass : IsClass tokens) : Viable tokens := by
  refine ⟨[], ?_⟩
  rwa [List.append_nil]

theorem Viable.of_append {tokens more : List Token} (viable : Viable (tokens ++ more)) :
    Viable tokens := by
  obtain ⟨rest, isClass⟩ := viable
  rw [List.append_assoc] at isClass
  exact ⟨more ++ rest, isClass⟩

/-- A name that comes next would use a variable, in a subroutine that declares the names `own` of a
class that declares the names `ofClass`. -/
def VariablePlace (before : List Token) (own ofClass : List String) : Prop :=
  ∃ rest usages used usedLater later, ∀ name : Token, name.isIdentifier →
    DerivesClass (before ++ name :: rest) ofClass
      (usages ++ ⟨own, used ++ name :: usedLater⟩ :: later)

theorem VariablePlace.viable {before : List Token} {own ofClass : List String} {name : Token}
    (place : VariablePlace before own ofClass) (isName : name.isIdentifier) :
    Viable (before ++ [name]) := by
  obtain ⟨rest, usages, used, usedLater, later, derived⟩ := place
  have isClass : IsClass (before ++ name :: rest) := ⟨ofClass, _, derived name isName⟩
  refine ⟨rest, ?_⟩
  rwa [List.append_assoc]

inductive Refused (s : ParseState) : Fault → Prop where
  | unexpected {before : List Token} {token : Token} {expected : String}
    (read : s.cursor.behind = token :: before) (differs : expected ≠ "end of input") :
    Refused s (unexpected expected token)
  | ended (atEnd : s.cursor.ahead = []) (viable : Viable s.cursor.toList) :
    Refused s s.cursor.endOfInput
  | undefined {before later : List Token} {token : Token} {own ofClass : List String}
    (split : s.cursor.toList = before ++ token :: later) (isName : token.isIdentifier)
    (place : VariablePlace before own ofClass) (unknown : token.text ∉ own ++ ofClass) :
    Refused s ⟨.undefinedSymbol token.text, token.start⟩

/-- A reply that leaves at most `bound` tokens, in a good state, or tells a fault of the input. -/
def Justified {α : Type} (bound : Nat) (good : ParseState → Prop) : Reply α → Prop
  | .ok _ s => good s ∧ s.remaining ≤ bound
  | .error fault s => Refused s fault

theorem Refused.of_viable {s : ParseState} (viable : Viable s.cursor.behind.reverse)
    (atEnd : s.cursor.ahead = []) : Refused s s.cursor.endOfInput := by
  apply Refused.ended atEnd
  rw [Cursor.toList, atEnd, List.append_nil]
  exact viable

namespace Justified

variable {α β : Type} {m n : Nat} {good better : ParseState → Prop} {reply : Reply α}
  {s : ParseState}

theorem mono (justified : Justified m good reply) (le : m ≤ n) (improves : ∀ s, good s → better s) :
    Justified n better reply := by
  cases reply with
  | ok value s => exact ⟨improves s justified.1, Nat.le_trans justified.2 le⟩
  | error fault s => exact justified

theorem look {next : Token → Reading β} (viable : Viable s.cursor.behind.reverse)
    (rest : ∀ token, Justified n good (next token s)) : Justified n good ((look >>= next) s) := by
  rw [bind_apply, Reading.look]
  cases ahead : s.cursor.ahead with
  | nil => exact .of_viable viable ahead
  | cons token others => exact rest token

end Justified

/-- The program brings good states, with fewer than `n` tokens to come, to better ones. -/
def Brings {α : Type} (n : Nat) (good better : ParseState → Prop) (program : Reading α) : Prop :=
  ∀ s, s.remaining < n → good s → Justified s.remaining better (program s)

namespace Brings

variable {α β : Type} {m n : Nat} {good mid better : ParseState → Prop} {program : Reading α}
  {next : α → Reading β}

theorem zero (program : Reading α) : Brings 0 good better program :=
  fun _ few => absurd few (Nat.not_lt_zero _)

theorem mono (brings : Brings n good better program) (le : m ≤ n) : Brings m good better program :=
  fun s few => brings s (Nat.lt_of_lt_of_le few le)

theorem since (brings : Brings n mid better program) (start : ∀ s, good s → mid s) :
    Brings n good better program :=
  fun s few holds => brings s few (start s holds)

theorem upTo (brings : Brings n good mid program) (finish : ∀ s, mid s → better s) :
    Brings n good better program :=
  fun s few holds => (brings s few holds).mono (Nat.le_refl _) finish

theorem forEach {κ : Type} {choice : κ → ParseState → Prop}
    (brings : ∀ chosen, Brings n (choice chosen) better program) :
    Brings n (fun s => ∃ chosen, choice chosen s) better program := by
  intro s few seen
  obtain ⟨chosen, holds⟩ := seen
  exact brings chosen s few holds

theorem pure (value : α) : Brings n good good (Pure.pure value) :=
  fun s _ holds => ⟨holds, Nat.le_refl s.remaining⟩

theorem bind (first : Brings n good mid program)
    (rest : ∀ value, Brings n mid better (next value)) :
    Brings n good better (program >>= next) := by
  intro s few holds
  have start := first s few holds
  rw [bind_apply]
  cases same : program s with
  | ok value t =>
    rw [same] at start
    obtain ⟨holds, le⟩ := start
    exact (rest value t (Nat.lt_of_le_of_lt le few) holds).mono le fun _ => id
  | error fault t =>
    rw [same] at start
    exact start

theorem bindLess (first : Brings (n + 1) good mid program)
    (rest : ∀ value, Brings n mid better (next value))
    (fewer : ∀ s value t, program s = .ok value t → t.remaining < s.remaining) :
    Brings (n + 1) good better (program >>= next) := by
  intro s few holds
  have start := first s few holds
  rw [bind_apply]
  cases same : program s with
  | ok value t =>
    rw [same] at start
    have less := fewer s value t same
    exact (rest value t (by omega) start.1).mono (by omega) fun _ => id
  | error fault t =>
    rw [same] at start
    exact start

theorem ask (known : ParseState → α) : Brings n good good (Reading.ask known) :=
  fun s _ holds => ⟨holds, Nat.le_refl s.remaining⟩

theorem change {step : ParseState → ParseState} (cursor : ∀ s, (step s).cursor = s.cursor)
    (holds : ∀ s, good s → better (step s)) : Brings n good better (Reading.change step) := by
  intro s _ start
  refine ⟨holds s start, ?_⟩
  rw [ParseState.remaining, cursor s]
  exact Nat.le_refl _

theorem look {next : Token → Reading β} (viable : ∀ s, good s → Viable s.cursor.behind.reverse)
    (rest : ∀ token, Brings n good better (next token)) :
    Brings n good better (Reading.look >>= next) :=
  fun s few holds => .look (viable s holds) fun token => rest token s few holds

theorem accept {test : Token → Bool} {expected : String} {next : Token → Reading β}
    (differs : expected ≠ "end of input") (viable : ∀ s, good s → Viable s.cursor.behind.reverse)
    (rest : ∀ token others s, test token → good s → (after s token others).remaining < n →
      Justified (after s token others).remaining better (next token (after s token others))) :
    Brings (n + 1) good better (Reading.accept test expected >>= next) := by
  intro s few holds
  rw [bind_apply, Reading.accept]
  cases ahead : s.cursor.ahead with
  | nil => exact .of_viable (viable s holds) ahead
  | cons token others =>
    have less := remaining_after ahead
    dsimp only
    by_cases passes : test token
    · rw [if_pos passes]
      exact (rest token others s passes holds (by omega)).mono (by omega) fun _ => id
    · rw [if_neg passes]
      exact .unexpected rfl differs

end Brings

end Jack
