import Jack.Text.Raw
import Mathlib.Data.List.Basic

namespace Jack.RawText

variable {text other : String} {raw : RawText}

@[simp] theorem of_append (text other : String) : of (text ++ other) = of text ++ of other := by
  simp [of]

theorem charsFrom_length (bytes later : RawText) :
    charsFrom bytes.length (bytes ++ later) = charsFrom 0 later := by
  induction bytes with
  | nil => rfl
  | cons byte bytes ih => exact ih

theorem firstChar_encode {c : Char} {first : UInt8} {bytes : RawText}
    (encoded : String.utf8EncodeChar c = first :: bytes) (later : RawText) :
    firstChar first (bytes ++ later) = (c, c.utf8Size) := by
  have decoded : (first :: (bytes ++ later)).toByteArray.utf8DecodeChar? 0 = some c := by
    rw [← List.cons_append, ← encoded, List.toByteArray_append]
    exact ByteArray.utf8DecodeChar?_utf8EncodeChar_append
  rw [firstChar, decoded]

theorem charsFrom_encode (c : Char) (later : RawText) :
    charsFrom 0 (String.utf8EncodeChar c ++ later) = c :: charsFrom 0 later := by
  obtain ⟨first, bytes, encoded⟩ := List.exists_cons_of_ne_nil (String.utf8EncodeChar_ne_nil (c := c))
  have width : c.utf8Size - 1 = bytes.length := by
    rw [← String.length_utf8EncodeChar, encoded]
    rfl
  rw [encoded, List.cons_append, charsFrom, firstChar_encode encoded, width, charsFrom_length]

@[simp] theorem shown_of (text : String) : (of text).shown = text := by
  have chars : ∀ cs : List Char, charsFrom 0 (cs.flatMap String.utf8EncodeChar) = cs := by
    intro cs
    induction cs with
    | nil => rfl
    | cons c cs ih => rw [List.flatMap_cons, charsFrom_encode, ih]
  rw [shown, of, chars, String.ofList_toList]

theorem of_inj : of text = of other ↔ text = other := by
  constructor
  · intro same
    rw [← shown_of text, same, shown_of]
  · rintro rfl
    rfl

def isHigh (byte : UInt8) : Bool :=
  byte.toBitVec.getLsbD 7

theorem isHigh_or {mark : UInt8} (high : isHigh mark) (byte : UInt8) : isHigh (byte ||| mark) := by
  rw [isHigh, UInt8.toBitVec_or, BitVec.getLsbD_or, ← isHigh, ← isHigh, high, Bool.or_true]

/-- One byte is the number of its character, and all of several bytes have their highest bit set. -/
theorem encode_cases (c : Char) :
    (∃ byte, String.utf8EncodeChar c = [byte] ∧ byte.toNat = c.toNat) ∨
      ∀ byte ∈ String.utf8EncodeChar c, isHigh byte := by
  rcases c.utf8Size_eq with one | two | three | four
  · have small : c.val.toNat ≤ 127 := UInt32.le_iff_toNat_le.mp (Char.utf8Size_eq_one_iff.mp one)
    refine .inl ⟨_, String.utf8EncodeChar_eq_singleton one, ?_⟩
    exact Nat.mod_eq_of_lt (by omega)
  · right
    rw [String.utf8EncodeChar_eq_cons_cons two]
    simp only [List.forall_mem_cons]
    exact ⟨isHigh_or rfl _, isHigh_or rfl _, nofun⟩
  · right
    rw [String.utf8EncodeChar_eq_cons_cons_cons three]
    simp only [List.forall_mem_cons]
    exact ⟨isHigh_or rfl _, isHigh_or rfl _, isHigh_or rfl _, nofun⟩
  · right
    rw [String.utf8EncodeChar_eq_cons_cons_cons_cons four]
    simp only [List.forall_mem_cons]
    exact ⟨isHigh_or rfl _, isHigh_or rfl _, isHigh_or rfl _, isHigh_or rfl _, nofun⟩

theorem eq_slash_of_mem {c : Char} (slash : 47 ∈ String.utf8EncodeChar c) : c = '/' := by
  rcases encode_cases c with ⟨byte, encoded, value⟩ | high
  · rw [encoded, List.mem_singleton] at slash
    subst slash
    exact Char.ext (UInt32.toNat.inj value.symm)
  · exact absurd (high 47 slash) (by decide)

/-- A text ends before each byte that is a character by itself. -/
theorem exists_of_append {byte : UInt8} (low : isHigh byte = false) {raw later : RawText} {text : String}
    (same : of text = raw ++ byte :: later) : ∃ before, raw = of before := by
  have chars : ∀ (cs : List Char) (raw : RawText),
      cs.flatMap String.utf8EncodeChar = raw ++ byte :: later →
        ∃ before : List Char, raw = before.flatMap String.utf8EncodeChar := by
    intro cs
    induction cs with
    | nil =>
      intro raw same
      exact absurd same.symm (by simp)
    | cons c cs ih =>
      intro raw same
      rw [List.flatMap_cons] at same
      rcases List.append_eq_append_iff.mp same with ⟨rest, rfl, after⟩ | ⟨rest, inside, after⟩
      · obtain ⟨before, rfl⟩ := ih rest after
        exact ⟨c :: before, rfl⟩
      · cases rest with
        | nil => exact ⟨[c], by simpa using inside.symm⟩
        | cons next rest =>
          obtain rfl : byte = next := (List.cons.inj after).1
          rcases encode_cases c with ⟨only, encoded, _⟩ | high
          · rw [encoded] at inside
            cases raw with
            | nil => exact ⟨[], rfl⟩
            | cons first raw => exact absurd (List.cons.inj inside).2 (by simp)
          · have inner : byte ∈ String.utf8EncodeChar c := by simp [inside]
            rw [high byte inner] at low
            cases low
  obtain ⟨before, rfl⟩ := chars text.toList raw same
  exact ⟨.ofList before, by rw [of, String.toList_ofList]⟩

theorem slash_mem_of_charsFrom {skipped : Nat} (slash : '/' ∈ charsFrom skipped raw) : 47 ∈ raw := by
  induction raw generalizing skipped with
  | nil => cases skipped <;> cases slash
  | cons byte bytes ih =>
    cases skipped with
    | succ skipped => exact List.mem_cons_of_mem _ (ih slash)
    | zero =>
      rw [charsFrom] at slash
      rcases List.mem_cons.mp slash with here | later
      · rw [firstChar] at here
        split at here
        · rename_i c decoded
          subst here
          have begins := congrArg (·.data.toList.head?) (ByteArray.eq_of_utf8DecodeChar?_eq_some decoded)
          simp only [ByteArray.data_append, List.data_toByteArray, Array.toList_append,
            List.head?_append] at begins
          obtain rfl : byte = 47 := Option.some.inj begins
          exact List.mem_cons_self
        · cases here
      · exact List.mem_cons_of_mem _ (ih later)

theorem slash_mem_of_shown (slash : 47 ∈ of raw.shown) : 47 ∈ raw := by
  obtain ⟨c, member, encoded⟩ := List.mem_flatMap.mp slash
  rw [eq_slash_of_mem encoded, shown, String.toList_ofList] at member
  exact slash_mem_of_charsFrom member

end Jack.RawText
