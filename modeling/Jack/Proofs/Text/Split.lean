import Mathlib.Data.List.TakeDrop
import Mathlib.Data.List.TakeWhile
import Jack.Proofs.Vm.Text

namespace Jack

section

variable {mark : Char} {before rest cs : List Char}

theorem span_mark (apart : mark ∉ before) :
    (before ++ mark :: rest).span (· ≠ mark) = (before, mark :: rest) := by
  have passes : ∀ c ∈ before, decide (c ≠ mark) = true := by
    intro c member
    simpa using fun same : c = mark => apart (same ▸ member)
  rw [List.span_eq_takeWhile_dropWhile, List.takeWhile_append_of_pos passes,
    List.dropWhile_append_of_pos passes]
  simp

theorem span_unmarked (apart : mark ∉ cs) : cs.span (· ≠ mark) = (cs, []) := by
  have passes : ∀ c ∈ cs, decide (c ≠ mark) = true := by
    intro c member
    simpa using fun same : c = mark => apart (same ▸ member)
  rw [List.span_eq_takeWhile_dropWhile, List.takeWhile_eq_self_iff.mpr passes,
    List.dropWhile_eq_nil_iff.mpr passes]

def cutAt (mark : Char) (cs : List Char) : List Char × List Char :=
  let (before, rest) := cs.span (· ≠ mark)
  (before, rest.tail)

theorem cutAt_mark (apart : mark ∉ before) : cutAt mark (before ++ mark :: rest) = (before, rest) := by
  rw [cutAt, span_mark apart]
  rfl

theorem cutAt_unmarked (apart : mark ∉ cs) : cutAt mark cs = (cs, []) := by
  rw [cutAt, span_unmarked apart]
  rfl

end

theorem toList_number (n : Nat) : (toString n).toList = Nat.toDigits 10 n := by
  rw [Nat.toString_eq_ofList_toDigits, String.toList_ofList]

theorem isDigit_number (n : Nat) : ∀ c ∈ (toString n).toList, c.isDigit := by
  rw [toList_number]
  exact fun c member => Nat.isDigit_of_mem_toDigits (by decide) (by decide) member

def number? (text : String) : Option UInt16 :=
  let value := Nat.ofDigitChars 10 text.toList 0
  if text.toList.all Char.isDigit ∧ value < 65536 then some value.toUInt16 else none

theorem number?_toString (number : UInt16) : number? (toString number.toNat) = some number := by
  have digits : (toString number.toNat).toList.all Char.isDigit :=
    List.all_eq_true.mpr (isDigit_number number.toNat)
  have value : Nat.ofDigitChars 10 (toString number.toNat).toList 0 = number.toNat := by
    rw [toList_number, Nat.ofDigitChars_ten_toDigits]
  rw [number?, value, if_pos ⟨digits, number.toNat_lt⟩]
  exact congrArg some UInt16.ofNat_toNat

def Lacks (c : Char) (text : String) : Prop :=
  c ∉ text.toList

instance (c : Char) (text : String) : Decidable (Lacks c text) :=
  inferInstanceAs (Decidable (c ∉ text.toList))

namespace Lacks

variable {c : Char}

theorem append {first later : String} (before : Lacks c first) (after : Lacks c later) :
    Lacks c (first ++ later) := by
  intro inside
  rw [String.toList_append] at inside
  rcases List.mem_append.mp inside with inside | inside
  · exact before inside
  · exact after inside

theorem of_all {p : Char → Bool} {text : String} (all : text.toList.all p) (other : p c = false) :
    Lacks c text := by
  intro member
  rw [List.all_eq_true.mp all c member] at other
  cases other

theorem number (other : c.isDigit = false) (n : Nat) : Lacks c (toString n) :=
  .of_all (List.all_eq_true.mpr (isDigit_number n)) other

end Lacks

abbrev OneLine (text : String) : Prop :=
  Lacks '\n' text

/-- The lines of a text in which each has a newline after it. -/
def linesOf (text : String) : List String :=
  (text.toList.splitOn '\n').dropLast.map String.ofList

theorem splitOn_ended (text rest : String) :
    (ended text ++ rest).toList.splitOn '\n' =
      text.toList.splitOn '\n' ++ rest.toList.splitOn '\n' := by
  have chars : (ended text ++ rest).toList = text.toList ++ '\n' :: rest.toList := by
    simp [ended]
  rw [chars]
  exact List.splitOnP_append_cons text.toList rest.toList rfl

theorem linesOf_append (text rest : String) :
    linesOf (ended text ++ rest) = (text.toList.splitOn '\n').map String.ofList ++ linesOf rest := by
  have others : rest.toList.splitOn '\n' ≠ [] := List.splitOnP_ne_nil _ _
  rw [linesOf, splitOn_ended, List.dropLast_append_of_ne_nil others, List.map_append]
  rfl

theorem linesOf_ended {line : String} (whole : OneLine line) (rest : String) :
    linesOf (ended line ++ rest) = line :: linesOf rest := by
  rw [linesOf_append, List.splitOn_eq_singleton whole, List.map_singleton, String.ofList_toList]
  rfl

theorem linesOf_join {lines : List String} (whole : ∀ line ∈ lines, OneLine line) :
    linesOf (String.join (lines.map ended)) = lines := by
  induction lines with
  | nil => rfl
  | cons line lines ih =>
    have later := ih fun other member => whole other (List.mem_cons_of_mem _ member)
    rw [List.map_cons, String.join_cons, linesOf_ended (whole line List.mem_cons_self), later]

end Jack
