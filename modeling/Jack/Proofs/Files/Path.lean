import Jack.Files.Path
import Mathlib.Data.List.TakeDrop

namespace Jack.Path

variable {folder name : RawText}

theorem parts_ne_nil (path : RawText) : parts path ≠ [] := by
  cases path with
  | nil => exact List.cons_ne_nil _ _
  | cons byte bytes =>
    rw [parts]
    split
    · exact List.cons_ne_nil _ _
    · split <;> exact List.cons_ne_nil _ _

theorem parts_of_whole (whole : slash ∉ name) : parts name = [name] := by
  induction name with
  | nil => rfl
  | cons byte bytes ih =>
    obtain ⟨first, later⟩ := not_or.mp (mt List.mem_cons.mpr whole)
    rw [parts, if_neg (Ne.symm first), ih later]

theorem parts_append (first later : RawText) :
    parts (first ++ slash :: later) = parts first ++ parts later := by
  induction first with
  | nil => rfl
  | cons byte first ih =>
    rw [List.cons_append, parts, parts, ih]
    by_cases isSlash : byte = slash
    · rw [if_pos isSlash, if_pos isSlash, List.cons_append]
    · rw [if_neg isSlash, if_neg isSlash]
      cases found : parts first with
      | nil => exact absurd found (parts_ne_nil first)
      | cons part parts => rfl

def leading (folder : RawText) : List RawText :=
  match folder.getLast? with
  | none => []
  | some last => if last = slash then (parts folder).dropLast else parts folder

theorem parts_join (whole : slash ∉ name) : parts (join folder name) = leading folder ++ [name] := by
  have last := parts_of_whole whole
  rcases List.eq_nil_or_concat folder with rfl | ⟨before, byte, ends⟩
  · exact last
  · rw [List.concat_eq_append] at ends
    have final : folder.getLast? = some byte := by rw [ends, List.getLast?_concat]
    rw [join, leading, final]
    dsimp only
    by_cases isSlash : byte = slash
    · rw [if_pos isSlash, if_pos isSlash, ends, isSlash, List.append_assoc, List.singleton_append,
        parts_append, parts_append, last]
      simp [parts]
    · rw [if_neg isSlash, if_neg isSlash, parts_append, last]

theorem parts_eq_leading (given : folder ≠ []) :
    parts folder = leading folder ∨ parts folder = leading folder ++ [[]] := by
  obtain ⟨before, byte, ends⟩ := (List.eq_nil_or_concat folder).resolve_left given
  rw [List.concat_eq_append] at ends
  rw [leading, show folder.getLast? = some byte by rw [ends, List.getLast?_concat]]
  dsimp only
  by_cases isSlash : byte = slash
  · right
    rw [if_pos isSlash, ends, isSlash, parts_append]
    simp [parts]
  · exact .inl (if_neg isSlash).symm

structure NamesEntry (name : RawText) : Prop where
  whole : slash ∉ name
  moves : staysPut name = false
  notBack : name ≠ back

theorem NamesEntry.ne_nil (proper : NamesEntry name) : name ≠ [] := by
  rintro rfl
  cases proper.moves

theorem exists_join_eq_append (folder : RawText) :
    ∃ between, ∀ name, join folder name = folder ++ (between ++ name) := by
  cases final : folder.getLast? with
  | none =>
    refine ⟨[], fun name => ?_⟩
    rw [join, final, List.getLast?_eq_none_iff.mp final]
    rfl
  | some last =>
    by_cases isSlash : last = slash
    · exact ⟨[], fun name => by rw [join, final]; exact if_pos isSlash⟩
    · exact ⟨[slash], fun name => by rw [join, final]; exact if_neg isSlash⟩

theorem join_inj {other : RawText} : join folder name = join folder other ↔ name = other := by
  obtain ⟨between, joined⟩ := exists_join_eq_append folder
  rw [joined, joined, List.append_cancel_left_eq, List.append_cancel_left_eq]

theorem isAbsolute_join (proper : NamesEntry name) :
    isAbsolute (join folder name) = isAbsolute folder := by
  cases folder with
  | nil =>
    have first : name.head? ≠ some slash :=
      fun isSlash => proper.whole (List.mem_of_mem_head? isSlash)
    exact beq_false_of_ne first
  | cons byte bytes =>
    obtain ⟨between, joined⟩ := exists_join_eq_append (byte :: bytes)
    rw [joined]
    rfl

theorem join_ne_nil (proper : NamesEntry name) : join folder name ≠ [] := by
  cases folder with
  | nil => exact proper.ne_nil
  | cons byte bytes =>
    obtain ⟨between, joined⟩ := exists_join_eq_append (byte :: bytes)
    rw [joined]
    exact List.cons_ne_nil _ _

theorem fileName?_join (proper : NamesEntry name) : fileName? (join folder name) = some name := by
  have kept : (parts (join folder name)).filter (!staysPut ·) =
      (leading folder).filter (!staysPut ·) ++ [name] := by
    rw [parts_join proper.whole, List.filter_append]
    simp [proper.moves]
  rw [fileName?, kept, List.getLast?_concat]
  simp [proper.notBack]

theorem trimEnd_concat (parts : List RawText) (moves : staysPut name = false) :
    trimEnd (parts ++ [name]) = parts ++ [name] := by
  cases parts with
  | nil => rfl
  | cons first rest => simp [trimEnd, moves]

theorem parent_join (proper : NamesEntry name) :
    parent (join folder name) = ofParts (trimEnd (leading folder)) := by
  rw [parent, parts_join proper.whole, parentParts, trimEnd_concat _ proper.moves,
    List.dropLast_concat]

theorem eq_of_extension? {extension : RawText} (found : extension? name = some extension) :
    name = stem name ++ dot :: extension := by
  have whole := List.takeWhile_append_dropWhile (p := (· != dot)) (l := name.reverse)
  have isDot := List.head?_dropWhile_not (· != dot) name.reverse
  rw [extension?, splitExtension] at found
  rw [stem, splitExtension]
  split at found
  · rename_i first byte before behind
    rw [behind] at isDot whole
    cases found
    obtain rfl : first = dot := by simpa using isDot
    have forth := congrArg List.reverse whole
    rw [List.reverse_reverse] at forth
    exact forth.symm.trans (by simp)
  · cases found

end Jack.Path
