import Jack.Proofs.Token.Listed
import Jack.Proofs.Token.Offence
import Jack.Token.Value

namespace Jack

namespace Text

variable {largest value : Nat} {c : Char} {cs : List Char}

theorem bounded?_of_le (le : value ≤ largest) : bounded? largest value = some value :=
  if_pos le

theorem bounded?_of_lt (lt : largest < value) : bounded? largest value = none :=
  if_neg (Nat.not_le.mpr lt)

def decimalFrom (value : Nat) (digits : List Char) : Nat :=
  digits.foldl (fun value digit => 10 * value + (digit.toNat - 48)) value

theorem le_decimalFrom (value : Nat) (cs : List Char) : value ≤ decimalFrom value cs := by
  induction cs generalizing value with
  | nil => exact Nat.le_refl value
  | cons c cs ih =>
    have further := ih (10 * value + (c.toNat - 48))
    rw [decimalFrom, List.foldl_cons]
    exact Nat.le_trans (by omega) further

/-- Values only grow, so one that goes beyond the largest number does not come back. -/
theorem unsignedFrom?_digits (digits : ∀ c ∈ cs, c.isDigit) (fits : value ≤ largest) :
    unsignedFrom? largest value cs = bounded? largest (decimalFrom value cs) := by
  induction cs generalizing value with
  | nil => exact (bounded?_of_le fits).symm
  | cons c cs ih =>
    obtain ⟨isDigit, later⟩ := List.forall_mem_cons.mp digits
    have digit : digit? c = some (c.toNat - 48) := if_pos isDigit
    have grows := le_decimalFrom (10 * value + (c.toNat - 48)) cs
    have step : decimalFrom value (c :: cs) = decimalFrom (10 * value + (c.toNat - 48)) cs := rfl
    rw [unsignedFrom?, digit, step]
    by_cases shifted : 10 * value ≤ largest
    · rw [bounded?_of_le shifted, Option.bind_some, Option.bind_some]
      by_cases inside : 10 * value + (c.toNat - 48) ≤ largest
      · rw [bounded?_of_le inside, Option.bind_some, ih later inside]
      · rw [bounded?_of_lt (by omega), bounded?_of_lt (by omega)]
        rfl
    · rw [bounded?_of_lt (by omega), bounded?_of_lt (by omega)]
      rfl

theorem unsigned?_digits (nonempty : cs ≠ []) (digits : ∀ c ∈ cs, c.isDigit) :
    unsigned? largest cs = bounded? largest (numeral cs) := by
  have value : decimalFrom 0 cs = numeral cs := decimalValue_eq_numeral cs
  rw [← value, ← unsignedFrom?_digits digits (Nat.zero_le largest)]
  fun_cases unsigned? largest cs with
  | case1 => exact absurd rfl nonempty
  | case2 => simp at digits
  | case3 => simp at digits
  | case4 => rfl

end Text

variable {cs : List Char}

theorem LexemeKind.ofDigits?_eq (nonempty : cs ≠ []) (digits : ∀ c ∈ cs, c.isDigit) :
    ofDigits? cs =
      if numeral cs ≤ maxInteger then some (.integer (numeral cs).toUInt16) else none := by
  have maximum : maxInteger < UInt32.size - 1 := by decide
  rw [ofDigits?, Text.unsigned?_digits nonempty digits]
  by_cases small : numeral cs ≤ UInt32.size - 1
  · rw [Text.bounded?_of_le small]
  · rw [Text.bounded?_of_lt (by omega), if_neg (by omega)]

theorem classify_digits (nonempty : cs ≠ []) (digits : ∀ c ∈ cs, c.isDigit) :
    classify (String.ofList cs) = LexemeKind.ofDigits? cs := by
  have noKeyword : Keyword.ofText? (String.ofList cs) = none :=
    Keyword.ofText?_eq_none_iff.mpr (text_ne_of_digits digits)
  rw [classify, noKeyword, LexemeKind.ofDigits?_eq nonempty digits]
  dsimp only
  rw [String.toList_ofList]
  exact classifyChars_of_digits nonempty digits

namespace Token

variable {token : Token} {value : UInt16} {contents : String}

theorem digits_of_integer (integer : token.kind = .integer value) :
    token.text.toList ≠ [] ∧ ∀ c ∈ token.text.toList, c.isDigit := by
  have classified := token.classified
  rw [integer, classify] at classified
  split at classified
  · cases classified
  · refine ⟨token.chars_ne_nil, ?_⟩
    cases spelled : token.text.toList with
    | nil => exact absurd spelled token.chars_ne_nil
    | cons c cs =>
      rw [spelled, classifyChars] at classified
      split at classified
      · cases classified
      split at classified
      · rename_i digits
        exact List.all_eq_true.mp digits
      split at classified
      · obtain ⟨_, _, same⟩ := Option.map_eq_some_iff.mp classified
        cases same
      split at classified
      · cases classified
      · cases classified

theorem value_of_integer (integer : token.kind = .integer value) :
    numeral token.text.toList ≤ maxInteger ∧ value.toNat = numeral token.text.toList := by
  obtain ⟨nonempty, digits⟩ := digits_of_integer integer
  have classified := token.classified
  rw [integer, ← String.ofList_toList (s := token.text), classify_digits nonempty digits,
    LexemeKind.ofDigits?_eq nonempty digits] at classified
  split at classified
  · rename_i small
    cases classified
    refine ⟨small, Nat.mod_eq_of_lt (Nat.lt_of_le_of_lt small (by decide))⟩
  · cases classified

theorem intValue?_of_integer (integer : token.kind = .integer value) :
    token.intValue? = some value := by
  obtain ⟨nonempty, digits⟩ := digits_of_integer integer
  obtain ⟨small, same⟩ := value_of_integer integer
  have fits : numeral token.text.toList ≤ UInt16.size - 1 := Nat.le_trans small (by decide)
  rw [intValue?, integer]
  dsimp only
  rw [Text.unsigned?_digits nonempty digits, Text.bounded?_of_le fits, ← same, Option.map_some,
    Nat.toUInt16_eq, UInt16.ofNat_toNat]

theorem stringValue?_of_string (string : token.kind = .string contents) :
    token.stringValue? = some contents := by
  have text : token.text.toList = ['"'] ++ (contents.toList ++ ['"']) := by
    rw [token.text_of_string string]
    simp
  have stop : token.text.utf8ByteSize - 1 = Text.byteWidth (['"'] ++ contents.toList) := by
    rw [← Text.byteWidth_toList, text]
    have quote : Char.utf8Size '"' = 1 := rfl
    simp only [Text.byteWidth_append, Text.byteWidth_cons, Text.byteWidth_nil, quote]
    omega
  have part := Text.slice?_append ['"'] contents.toList ['"']
  rw [stringValue?, string]
  dsimp only
  rw [stop, text, show Text.slice? 1 = Text.slice? (Text.byteWidth ['"']) from rfl, part,
    Option.map_some, String.ofList_toList]

/-- No value is missing, so the code of a constant is that of the value it is classified with. -/
theorem constantCode?_eq (token : Token) :
    token.constantCode? = (Constant.ofKind? token.kind).map Constant.code := by
  unfold constantCode?
  split
  · rename_i integer
    rw [intValue?_of_integer integer, integer]
    rfl
  · rename_i string
    rw [stringValue?_of_string string, string]
    rfl
  · rfl

end Token

end Jack
