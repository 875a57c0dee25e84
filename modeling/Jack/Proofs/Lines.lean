import Mathlib.Data.List.DropRight
import Jack.Proofs.Text.Split
import Jack.Proofs.Token.Context
import Jack.Text.Line

namespace Jack.Text

/-- The lines of a text, each with the newline that ends it. What comes after the last newline is a line
without one. -/
inductive InLines : List Char → List (List Char) → Prop where
  | nothing : InLines [] []
  | last {line : List Char} (visible : line ≠ []) (unended : '\n' ∉ line) : InLines line [line]
  | ended {line rest : List Char} {lines : List (List Char)} (first : '\n' ∉ line)
    (later : InLines rest lines) : InLines (line ++ '\n' :: rest) ((line ++ ['\n']) :: lines)

def newlinesBefore : Nat → List Char → Nat
  | _, [] => 0
  | offset, c :: cs =>
    if offset = 0 then 0
    else (if c = '\n' then 1 else 0) + newlinesBefore (offset - c.utf8Size) cs

variable {line rest cs : List Char} {lines : List (List Char)} {number column : Nat}

namespace InLines

theorem flatten (cut : InLines cs lines) : lines.flatten = cs := by
  induction cut with
  | nothing => rfl
  | last => exact List.append_nil _
  | ended first later ih => simp [ih]

theorem exists_of_text (cs : List Char) : ∃ lines, InLines cs lines := by
  by_cases ends : '\n' ∈ cs
  · obtain ⟨line, rest, rfl, first⟩ := List.eq_append_cons_of_mem ends
    obtain ⟨lines, later⟩ := exists_of_text rest
    exact ⟨_, .ended first later⟩
  · cases cs with
    | nil => exact ⟨[], .nothing⟩
    | cons c cs => exact ⟨[c :: cs], .last (List.cons_ne_nil c cs) ends⟩
termination_by cs.length
decreasing_by
  simp only [‹cs = _›, List.length_append, List.length_cons]
  omega

end InLines

theorem newlinesBefore_zero (cs : List Char) : newlinesBefore 0 cs = 0 := by
  cases cs <;> rfl

theorem newlinesBefore_unended (unended : '\n' ∉ line) (offset : Nat) :
    newlinesBefore offset line = 0 := by
  induction line generalizing offset with
  | nil => rfl
  | cons c line ih =>
    obtain ⟨other, later⟩ := List.ne_and_not_mem_of_not_mem_cons unended
    simp [newlinesBefore, Ne.symm other, ih later]

theorem newlinesBefore_append (offset : Nat) (line rest : List Char) :
    newlinesBefore offset (line ++ rest) =
      newlinesBefore offset line + newlinesBefore (offset - byteWidth line) rest := by
  induction line generalizing offset with
  | nil => simp [newlinesBefore]
  | cons c line ih =>
    by_cases start : offset = 0
    · simp [start, newlinesBefore_zero]
    · simp only [List.cons_append, newlinesBefore, if_neg start, ih, byteWidth_cons, Nat.sub_sub]
      omega

theorem newlinesBefore_ended (unended : '\n' ∉ line) {offset : Nat} (after : byteWidth line < offset) :
    newlinesBefore offset (line ++ '\n' :: rest) =
      1 + newlinesBefore (offset - (byteWidth line + 1)) rest := by
  have further : offset - byteWidth line ≠ 0 := by omega
  have newline : Char.utf8Size '\n' = 1 := rfl
  rw [newlinesBefore_append, newlinesBefore_unended unended, newlinesBefore, if_neg further, newline,
    Nat.zero_add, Nat.sub_sub]
  rfl

theorem newlinesBefore_of_le {offset : Nat} (unended : '\n' ∉ line) (le : offset ≤ byteWidth line) :
    newlinesBefore offset (line ++ rest) = 0 := by
  rw [newlinesBefore_append, newlinesBefore_unended unended, Nat.sub_eq_zero_of_le le,
    newlinesBefore_zero]

theorem inside_unended (unended : '\n' ∉ line) : ∀ c ∈ line, (c != '\n') = true := by
  intro c member
  simpa using fun same : c = '\n' => unended (same ▸ member)

theorem lineFrom_unended (unended : '\n' ∉ line) :
    lineFrom number column line = ⟨number, String.ofList line, min column (byteWidth line)⟩ := by
  have body : line.takeWhile (· != '\n') = line :=
    List.takeWhile_eq_self_iff.mpr (inside_unended unended)
  have nothing : line.dropWhile (· != '\n') = [] :=
    List.dropWhile_eq_nil_iff.mpr (inside_unended unended)
  rw [lineFrom.eq_def, body]
  split
  · rfl
  · rename_i more
    rw [nothing] at more
    cases more

theorem lineFrom_ended (unended : '\n' ∉ line) :
    lineFrom number column (line ++ '\n' :: rest) =
      if column < byteWidth line + 1 then ⟨number, String.ofList (line ++ ['\n']), column⟩
      else if rest.isEmpty then ⟨number, String.ofList (line ++ ['\n']), byteWidth line⟩
      else lineFrom (number + 1) (column - (byteWidth line + 1)) rest := by
  have ends : ∀ c ∈ ('\n' :: rest).head?, ¬ (c != '\n') = true := by
    rintro c ⟨⟩
    decide
  have body : (line ++ '\n' :: rest).takeWhile (· != '\n') = line :=
    takeWhile_of_ends (inside_unended unended) ends
  have later : (line ++ '\n' :: rest).dropWhile (· != '\n') = '\n' :: rest :=
    dropWhile_of_ends (inside_unended unended) ends
  rw [lineFrom.eq_def, body]
  split
  · rename_i ended
    rw [later] at ended
    cases ended
  · rename_i newline others more
    rw [later] at more
    cases more
    rfl

namespace InLines

theorem lineFrom_inside (number : Nat) (cut : InLines cs lines) (inside : column < byteWidth cs) :
    ∃ earlier line later, lines = earlier ++ line :: later ∧
      byteWidth earlier.flatten ≤ column ∧ column < byteWidth earlier.flatten + byteWidth line ∧
      newlinesBefore column cs = earlier.length ∧
      lineFrom number column cs =
        ⟨number + earlier.length, String.ofList line, column - byteWidth earlier.flatten⟩ := by
  induction cut generalizing number column with
  | nothing => simp at inside
  | @last line visible unended =>
    refine ⟨[], line, [], rfl, by simp, by simpa using inside, newlinesBefore_unended unended column, ?_⟩
    rw [lineFrom_unended unended, Nat.min_eq_left (Nat.le_of_lt inside)]
    rfl
  | @ended line rest lines first later ih =>
    have newline : Char.utf8Size '\n' = 1 := rfl
    rw [lineFrom_ended first]
    by_cases here : column < byteWidth line + 1
    · refine ⟨[], line ++ ['\n'], lines, rfl, by simp, by simpa [newline] using here, ?_, ?_⟩
      · exact newlinesBefore_of_le first (Nat.le_of_lt_succ here)
      · rw [if_pos here]
        rfl
    · have width : byteWidth (line ++ '\n' :: rest) = byteWidth line + 1 + byteWidth rest := by
        rw [byteWidth_append, byteWidth_cons, newline, Nat.add_assoc]
      have further : column - (byteWidth line + 1) < byteWidth rest := by omega
      have visible : ¬ rest.isEmpty := by
        cases rest with
        | nil => simp at further
        | cons => simp
      obtain ⟨earlier, found, after, rfl, start, stop, count, same⟩ := ih (number + 1) further
      have length : byteWidth ((line ++ ['\n']) :: earlier).flatten =
          byteWidth line + 1 + byteWidth earlier.flatten := by
        simp [newline, Nat.add_assoc]
      refine ⟨(line ++ ['\n']) :: earlier, found, after, rfl, ?_, ?_, ?_, ?_⟩
      · rw [length]
        omega
      · rw [length]
        omega
      · rw [newlinesBefore_ended first (by omega), count, List.length_cons, Nat.add_comm]
      · rw [if_neg here, if_neg visible, same, length, List.length_cons, Nat.sub_sub, Nat.add_assoc,
          Nat.add_comm 1]

theorem ne_nil (cut : InLines cs lines) (nonempty : cs ≠ []) : lines ≠ [] := by
  rintro rfl
  exact nonempty cut.flatten.symm

theorem eq_nil (cut : InLines cs lines) (empty : cs = []) : lines = [] := by
  cases cut with
  | nothing => rfl
  | last visible => exact absurd empty visible
  | ended => simp at empty

theorem lineFrom_beyond (cut : InLines cs lines) (beyond : byteWidth cs ≤ column) :
    lineFrom number column cs =
      ⟨number + (lines.length - 1), String.ofList (lines.getLastD []),
        byteWidth ((lines.getLastD []).rdropWhile (· == '\n'))⟩ := by
  have visible : ∀ line : List Char, '\n' ∉ line → line.rdropWhile (· == '\n') = line := by
    intro line unended
    refine List.rdropWhile_eq_self_iff.mpr fun nonempty isNewline => ?_
    exact unended (eq_of_beq isNewline ▸ List.getLast_mem nonempty)
  induction cut generalizing number column with
  | nothing =>
    rw [lineFrom_unended List.not_mem_nil, Nat.min_eq_right beyond, List.getLastD_nil,
      List.rdropWhile_nil]
    rfl
  | @last line _ unended =>
    rw [lineFrom_unended unended, Nat.min_eq_right beyond, List.getLastD_cons, List.getLastD_nil,
      visible line unended]
    rfl
  | @ended line rest lines first later ih =>
    have newline : Char.utf8Size '\n' = 1 := rfl
    rw [byteWidth_append, byteWidth_cons, newline] at beyond
    rw [lineFrom_ended first, if_neg (by omega), List.getLastD_cons]
    cases rest with
    | nil =>
      obtain rfl := later.eq_nil rfl
      rw [List.getLastD_nil, List.rdropWhile_concat_pos _ _ _ (by decide), visible line first]
      rfl
    | cons c rest =>
      obtain ⟨found, others, rfl⟩ := List.exists_cons_of_ne_nil (later.ne_nil (List.cons_ne_nil c rest))
      have further : byteWidth (c :: rest) ≤ column - (byteWidth line + 1) := by omega
      rw [if_neg (by simp), ih further]
      simp only [List.getLastD_cons, List.length_cons]
      congr 1
      omega

end InLines

/-- What the line of a text for an offset is: inside the text, the line with the character at the offset,
and past its end, the last line. -/
inductive Locates (content : String) (offset : Nat) : Line → Prop where
  | inside {earlier later : List (List Char)} {line : List Char} {column : Nat}
    (cut : InLines content.toList (earlier ++ line :: later))
    (place : byteWidth earlier.flatten + column = offset) (within : column < byteWidth line) :
    Locates content offset ⟨1 + newlinesBefore offset content.toList, String.ofList line, column⟩
  | beyond {lines : List (List Char)} (cut : InLines content.toList lines)
    (ended : content.utf8ByteSize ≤ offset) :
    Locates content offset ⟨max 1 lines.length, String.ofList (lines.getLastD []),
      byteWidth ((lines.getLastD []).rdropWhile (· == '\n'))⟩

theorem lineAt_locates_offset (content : String) (offset : Nat) :
    Locates content offset (lineAt content offset) := by
  obtain ⟨lines, cut⟩ := InLines.exists_of_text content.toList
  rw [lineAt]
  by_cases inside : offset < byteWidth content.toList
  · obtain ⟨earlier, line, later, rfl, start, stop, count, same⟩ :=
      cut.lineFrom_inside 1 inside
    rw [same, ← count]
    exact .inside cut (Nat.add_sub_of_le start) (by omega)
  · have past : byteWidth content.toList ≤ offset := Nat.le_of_not_lt inside
    have number : 1 + (lines.length - 1) = max 1 lines.length := by omega
    rw [cut.lineFrom_beyond past, number]
    rw [byteWidth_toList] at past
    exact .beyond cut past

/-- A newline belongs to the line that it ends. -/
example : lineAt "é\n\nb\n" 2 = ⟨1, "é\n", 2⟩ ∧ lineAt "é\n\nb\n" 3 = ⟨2, "\n", 0⟩ ∧
    lineAt "é\n\nb\n" 9 = ⟨3, "b\n", 1⟩ := by
  decide +kernel

end Jack.Text
