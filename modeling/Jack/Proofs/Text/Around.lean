import Jack.Proofs.Lines

namespace Jack.Text

section

variable {p q : Char → Bool} {c : Char}

theorem takeWhile_of_stop (stops : ¬ p c) (before after : List Char) :
    (before ++ c :: after).takeWhile p = before.takeWhile p := by
  induction before with
  | nil => simp [stops]
  | cons d before ih =>
    by_cases passes : p d
    · simp [passes, ih]
    · simp [passes]

theorem dropWhile_of_stop (stops : ¬ p c) (before after : List Char) :
    (before ++ c :: after).dropWhile p = before.dropWhile p ++ c :: after := by
  induction before with
  | nil => simp [stops]
  | cons d before ih =>
    by_cases passes : p d
    · simp [passes, ih]
    · simp [passes]

theorem rdropWhile_of_stop (stops : ¬ p c) (before after : List Char) :
    (before ++ c :: after).rdropWhile p = before ++ c :: after.rdropWhile p := by
  have reversed : (before ++ c :: after).reverse = after.reverse ++ c :: before.reverse := by simp
  rw [List.rdropWhile, reversed, dropWhile_of_stop stops, List.rdropWhile]
  simp

theorem dropWhile_dropWhile (weaker : ∀ d, p d → q d) (cs : List Char) :
    (cs.dropWhile p).dropWhile q = cs.dropWhile q := by
  induction cs with
  | nil => rfl
  | cons d cs ih =>
    by_cases passes : p d
    · simp [passes, weaker d passes, ih]
    · simp [passes]

end

def lineBefore (before : List Char) : List Char :=
  before.rtakeWhile (· != '\n')

def lineAfter (after : List Char) : List Char :=
  after.takeWhile (· != '\n')

variable {c : Char} {line rest cs : List Char}

theorem lineBefore_unended (unended : '\n' ∉ cs) : lineBefore cs = cs :=
  List.rtakeWhile_eq_self_iff.mpr (inside_unended unended)

theorem lineBefore_ended : lineBefore (line ++ '\n' :: rest) = lineBefore rest := by
  have reversed : (line ++ '\n' :: rest).reverse = rest.reverse ++ '\n' :: line.reverse := by simp
  rw [lineBefore, List.rtakeWhile, reversed, takeWhile_of_stop (by decide)]
  rfl

theorem unended_lineBefore (cs : List Char) : '\n' ∉ lineBefore cs := by
  intro member
  have := List.mem_rtakeWhile_imp member
  simp at this

theorem unended_lineAfter (cs : List Char) : '\n' ∉ lineAfter cs := by
  intro member
  have := List.mem_takeWhile_imp member
  simp at this

theorem lineAfter_unended (unended : '\n' ∉ cs) : lineAfter cs = cs :=
  List.takeWhile_eq_self_iff.mpr (inside_unended unended)

theorem lineAfter_ended (unended : '\n' ∉ line) : lineAfter (line ++ '\n' :: rest) = line := by
  refine takeWhile_of_ends (inside_unended unended) ?_
  rintro c ⟨⟩
  decide

theorem lineFrom_at (visible : c ≠ '\n') (number : Nat) (before after : List Char) :
    ∃ ending, (ending = [] ∨ ending = ['\n']) ∧
      lineFrom number (byteWidth before) (before ++ c :: after) =
        ⟨number + before.count '\n',
          String.ofList (lineBefore before ++ c :: (lineAfter after ++ ending)),
          byteWidth (lineBefore before)⟩ := by
  by_cases earlier : '\n' ∈ before
  · obtain ⟨line, rest, rfl, first⟩ := List.eq_append_cons_of_mem earlier
    obtain ⟨ending, isEnding, found⟩ := lineFrom_at visible (number + 1) rest after
    refine ⟨ending, isEnding, ?_⟩
    have newline : Char.utf8Size '\n' = 1 := rfl
    have nonempty : ¬ (rest ++ c :: after).isEmpty := by simp
    have noNewline : line.count '\n' = 0 := List.count_eq_zero.mpr first
    have width : byteWidth (line ++ '\n' :: rest) = byteWidth line + 1 + byteWidth rest := by
      rw [byteWidth_append, byteWidth_cons, newline, Nat.add_assoc]
    rw [List.append_assoc, List.cons_append, lineFrom_ended first, width, if_neg (by omega), if_neg nonempty,
      Nat.add_sub_cancel_left, found, lineBefore_ended, List.count_append, List.count_cons_self, noNewline]
    congr 1
    omega
  · have count : before.count '\n' = 0 := List.count_eq_zero.mpr earlier
    rw [lineBefore_unended earlier, count, Nat.add_zero]
    by_cases later : '\n' ∈ after
    · obtain ⟨tail, rest, rfl, last⟩ := List.eq_append_cons_of_mem later
      have unended : '\n' ∉ before ++ c :: tail := by simp [earlier, last, visible.symm]
      have within : byteWidth before < byteWidth (before ++ c :: tail) + 1 := by
        rw [byteWidth_append]
        omega
      refine ⟨['\n'], .inr rfl, ?_⟩
      have whole : before ++ c :: (tail ++ '\n' :: rest) = before ++ c :: tail ++ '\n' :: rest := by simp
      rw [whole, lineFrom_ended unended, if_pos within, lineAfter_ended last, List.append_assoc,
        List.cons_append]
    · have unended : '\n' ∉ before ++ c :: after := by simp [earlier, later, visible.symm]
      refine ⟨[], .inl rfl, ?_⟩
      rw [lineFrom_unended unended, lineAfter_unended later, List.append_nil, byteWidth_append,
        Nat.min_eq_left (Nat.le_add_right _ _)]
termination_by before.length
decreasing_by
  simp only [‹before = _›, List.length_append, List.length_cons]
  omega

end Jack.Text
