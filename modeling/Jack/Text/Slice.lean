import Jack.Text.Width

namespace Jack.Text

/-- The text in two parts, the first of a given width. There are none if that width ends inside a
character or is more than that of the whole text. -/
def cutAfter? : Nat → List Char → Option (List Char × List Char)
  | 0, cs => some ([], cs)
  | _ + 1, [] => none
  | width + 1, c :: cs =>
    if c.utf8Size ≤ width + 1 then
      (cutAfter? (width + 1 - c.utf8Size) cs).map fun (before, rest) => (c :: before, rest)
    else none

def slice? (start stop : Nat) (cs : List Char) : Option (List Char) :=
  if start ≤ stop then
    (cutAfter? start cs).bind fun (_, rest) => (cutAfter? (stop - start) rest).map Prod.fst
  else none

theorem cutAfter?_zero (cs : List Char) : cutAfter? 0 cs = some ([], cs) := by
  rw [cutAfter?]

theorem cutAfter?_cons (width : Nat) (c : Char) (cs : List Char) :
    cutAfter? (c.utf8Size + width) (c :: cs) =
      (cutAfter? width cs).map fun (before, rest) => (c :: before, rest) := by
  have positive := c.utf8Size_pos
  obtain ⟨less, same⟩ : ∃ less, c.utf8Size + width = less + 1 := ⟨c.utf8Size + width - 1, by omega⟩
  rw [same, cutAfter?, if_pos (by omega), ← same, Nat.add_sub_cancel_left]

theorem cutAfter?_append (before rest : List Char) :
    cutAfter? (byteWidth before) (before ++ rest) = some (before, rest) := by
  induction before with
  | nil => exact cutAfter?_zero rest
  | cons c before ih =>
    rw [byteWidth_cons, List.cons_append, cutAfter?_cons, ih]
    rfl

theorem slice?_append (before part rest : List Char) :
    slice? (byteWidth before) (byteWidth (before ++ part)) (before ++ (part ++ rest)) = some part := by
  rw [slice?, byteWidth_append, if_pos (Nat.le_add_right _ _), cutAfter?_append, Option.bind_some]
  dsimp only
  rw [Nat.add_sub_cancel_left, cutAfter?_append, Option.map_some]

end Jack.Text
