import Jack.Proofs.FaultPlace
import Jack.Proofs.Text.Around

namespace Jack

open Text

def afterBar (line : String) : List Char :=
  (line.toList.dropWhile (· != '|')).drop 2

def lastLines? (report : String) : Option (List Char × List Char) :=
  match (linesOf report).reverse with
  | caret :: shown :: _ => some (afterBar shown, afterBar caret)
  | _ => none

def aboveCaret? (report : String) : Option Char :=
  (lastLines? report).bind fun (shown, caret) => shown[caret.idxOf '^']?

theorem lastLines?_ended (before : String) {shown caret : String} (isLine : OneLine shown)
    (isCaret : OneLine caret) :
    lastLines? (ended before ++ (ended shown ++ ended caret)) =
      some (afterBar shown, afterBar caret) := by
  have last : linesOf (ended caret) = [caret] := by
    have cut := linesOf_ended isCaret ""
    rwa [String.append_empty] at cut
  rw [lastLines?, linesOf_append, linesOf_ended isLine, last, List.reverse_append]
  rfl

theorem afterBar_shown (number : Nat) (shown : List Char) :
    afterBar (toString number ++ " | " ++ String.ofList shown) = shown := by
  have digits : ∀ c ∈ (toString number).toList ++ [' '], (c != '|') = true := by
    intro c member
    rcases List.mem_append.mp member with digit | blank
    · simpa using fun same : c = '|' => absurd (isDigit_number number c digit) (by rw [same]; decide)
    · rw [List.mem_singleton.mp blank]
      decide
  have chars : (toString number ++ " | " ++ String.ofList shown).toList =
      ((toString number).toList ++ [' ']) ++ '|' :: ' ' :: shown := by
    simp
  rw [afterBar, chars, dropWhile_of_stop (by decide), List.dropWhile_eq_nil_iff.mpr digits]
  rfl

theorem afterBar_caret (width column : Nat) :
    afterBar (padLeft ' ' width "|" ++ " " ++ padLeft '-' (column + 1) "^") =
      List.replicate column '-' ++ ['^'] := by
  have spaces : ∀ c ∈ List.replicate (width - 1) ' ', (c != '|') = true := by
    intro c member
    rw [List.eq_of_mem_replicate member]
    decide
  have chars : (padLeft ' ' width "|" ++ " " ++ padLeft '-' (column + 1) "^").toList =
      List.replicate (width - 1) ' ' ++ '|' :: ' ' :: (List.replicate column '-' ++ ['^']) := by
    simp [padLeft, List.leftpad]
  rw [afterBar, chars, dropWhile_of_stop (by decide), List.dropWhile_eq_nil_iff.mpr spaces]
  rfl

theorem oneLine_padLeft {fill : Char} {text : String} (other : fill ≠ '\n') (isLine : OneLine text)
    (width : Nat) : OneLine (padLeft fill width text) := by
  intro member
  rw [padLeft, String.toList_ofList, List.leftpad] at member
  rcases List.mem_append.mp member with filled | inside
  · exact other (List.eq_of_mem_replicate filled).symm
  · exact isLine inside

section

variable {diagnostic : Diagnostic} {source : String} {line : Line} {shown : List Char}

theorem report_eq (found : lineAt source diagnostic.offset = line)
    (trimmed : trimBlanks (line.text.toList.dropWhile Diagnostic.isIndent) = shown) :
    let bar := padLeft ' ' ((toString line.number).length + 2) "|"
    let column := line.column - (line.text.toList.takeWhile Diagnostic.isIndent).length
    diagnostic.report source =
      ended (diagnostic.heading ++ "-> " ++ diagnostic.file ++ "\n" ++ bar) ++
        (ended (toString line.number ++ " | " ++ String.ofList shown) ++
          ended (bar ++ " " ++ padLeft '-' (column + 1) "^")) := by
  subst found trimmed
  simp only [Diagnostic.report, ended, String.append_assoc]

theorem lastLines?_report (found : lineAt source diagnostic.offset = line)
    (trimmed : trimBlanks (line.text.toList.dropWhile Diagnostic.isIndent) = shown)
    (isLine : '\n' ∉ shown) :
    lastLines? (diagnostic.report source) =
      some (shown, List.replicate
        (line.column - (line.text.toList.takeWhile Diagnostic.isIndent).length) '-' ++ ['^']) := by
  have number : OneLine (toString line.number ++ " | ") := .append (.number rfl _) (by decide)
  have text : OneLine (String.ofList shown) := by rwa [OneLine, Lacks, String.toList_ofList]
  have bar : ∀ width, OneLine (padLeft ' ' width "|") :=
    oneLine_padLeft (by decide) (by decide)
  have caret : ∀ width, OneLine (padLeft '-' width "^") := oneLine_padLeft (by decide) (by decide)
  rw [report_eq found trimmed,
    lastLines?_ended _ (number.append text) (((bar _).append (by decide)).append (caret _)),
    afterBar_shown, afterBar_caret]

end

theorem getElem?_idxOf_caret (front part : List Char) (column : Nat) :
    (front ++ part)[(List.replicate (front.length + column) '-' ++ ['^']).idxOf '^']? =
      part[column]? := by
  have dashes : '^' ∉ List.replicate (front.length + column) '-' := by
    intro member
    exact absurd (List.eq_of_mem_replicate member) (by decide)
  have place : (List.replicate (front.length + column) '-' ++ ['^']).idxOf '^' =
      front.length + column := by
    rw [List.idxOf_append_of_notMem dashes, List.idxOf_cons_self, List.length_replicate, Nat.add_zero]
  rw [place, List.getElem?_append_right (Nat.le_add_right _ _), Nat.add_sub_cancel_left]

namespace Text

/-- How far the caret is to the right of a character with this in front of it in its line: a column for
every byte that is not the first one of its character, and one for every blank from the first that is no
space or tab, as long as there are only blanks. -/
def strayed (before : List Char) : Nat :=
  (byteWidth before - before.length) +
    ((before.takeWhile isBlank).length - (before.takeWhile Diagnostic.isIndent).length)

variable {c : Char} {before : List Char}

theorem isBlank_of_isIndent (isIndent : Diagnostic.isIndent c) : isBlank c := by
  simp only [Diagnostic.isIndent, Bool.or_eq_true, beq_iff_eq] at isIndent
  rcases isIndent with rfl | rfl
  · decide
  · decide

theorem length_le_byteWidth (cs : List Char) : cs.length ≤ byteWidth cs := by
  induction cs with
  | nil => exact Nat.le_refl 0
  | cons c cs ih =>
    have first := c.utf8Size_pos
    rw [List.length_cons, byteWidth_cons]
    omega

theorem byteWidth_eq_length_iff : byteWidth before = before.length ↔ ∀ c ∈ before, c.toNat < 128 := by
  induction before with
  | nil => simp
  | cons c cs ih =>
    have first := c.utf8Size_pos
    have later := length_le_byteWidth cs
    have single : c.utf8Size = 1 ↔ c.toNat < 128 := by
      rw [Char.utf8Size_eq_one_iff, UInt32.le_iff_toNat_le]
      exact Nat.lt_succ_iff.symm
    rw [List.forall_mem_cons, ← ih, ← single, byteWidth_cons, List.length_cons]
    omega

theorem takeWhile_blanks (before : List Char) :
    (before.takeWhile isBlank).takeWhile Diagnostic.isIndent =
      before.takeWhile Diagnostic.isIndent := by
  rw [List.takeWhile_takeWhile]
  congr 1
  funext c
  simpa using isBlank_of_isIndent

theorem isPrefix_indent (before : List Char) :
    before.takeWhile Diagnostic.isIndent <+: before.takeWhile isBlank := by
  rw [← takeWhile_blanks]
  exact List.takeWhile_prefix _

theorem length_blanks_le_iff :
    (before.takeWhile isBlank).length ≤ (before.takeWhile Diagnostic.isIndent).length ↔
      ∀ c ∈ before.takeWhile isBlank, Diagnostic.isIndent c := by
  have part := isPrefix_indent before
  constructor
  · intro all
    rw [← part.eq_of_length_le all]
    exact fun c member => List.mem_takeWhile_imp member
  · intro all
    rw [← takeWhile_blanks, List.takeWhile_eq_self_iff.mpr all]

theorem strayed_eq_zero_iff : strayed before = 0 ↔
    (∀ c ∈ before, c.toNat < 128) ∧ ∀ c ∈ before.takeWhile isBlank, Diagnostic.isIndent c := by
  have wide := length_le_byteWidth before
  rw [← byteWidth_eq_length_iff, ← length_blanks_le_iff, strayed]
  omega

theorem column_eq (before : List Char) :
    byteWidth before - (before.takeWhile Diagnostic.isIndent).length =
      (before.dropWhile isBlank).length + strayed before := by
  have wide := length_le_byteWidth before
  have part := (isPrefix_indent before).length_le
  have split := congrArg List.length
    (List.takeWhile_append_dropWhile : before.takeWhile isBlank ++ before.dropWhile isBlank = before)
  rw [List.length_append] at split
  rw [strayed]
  omega

theorem trimBlanks_line {ending : List Char} (visible : ¬ isBlank c)
    (isEnding : ending = [] ∨ ending = ['\n']) (before after : List Char) :
    trimBlanks ((before ++ c :: (after ++ ending)).dropWhile Diagnostic.isIndent) =
      before.dropWhile isBlank ++ c :: after.rdropWhile isBlank := by
  have trimmed : (after ++ ending).rdropWhile isBlank = after.rdropWhile isBlank := by
    rcases isEnding with rfl | rfl
    · rw [List.append_nil]
    · exact List.rdropWhile_concat_pos _ _ _ (by decide)
  rw [trimBlanks, dropWhile_dropWhile (fun _ => isBlank_of_isIndent), dropWhile_of_stop visible,
    ← trimmed, ← rdropWhile_of_stop visible]
  rfl

end Text

theorem Fault.StandsIn.exists_character {fault : Fault} {source : String}
    (stands : fault.StandsIn source) :
    ∃ before c spelled after, source.toList = before ++ c :: (spelled ++ after) ∧
      byteWidth before = fault.offset ∧ fault.cause.lexeme.toList = c :: spelled ∧ ¬ isBlank c := by
  obtain ⟨c, first, visible⟩ := stands.visible
  obtain ⟨spelled, same⟩ := List.head?_eq_some_iff.mp first
  obtain ⟨stop, after, before, whole, position, _⟩ := stands.found
  rw [same] at whole
  exact ⟨before, c, spelled, after, whole, position, same, visible⟩

theorem lastLines?_at {diagnostic : Diagnostic} {source : String} {before after : List Char} {c : Char}
    (whole : source.toList = before ++ c :: after) (position : byteWidth before = diagnostic.offset)
    (visible : ¬ isBlank c) :
    lastLines? (diagnostic.report source) =
      some ((lineBefore before).dropWhile isBlank ++ c :: (lineAfter after).rdropWhile isBlank,
        List.replicate (((lineBefore before).dropWhile isBlank).length + strayed (lineBefore before)) '-'
          ++ ['^']) := by
  have noNewline : c ≠ '\n' := by
    rintro rfl
    exact visible (by decide)
  obtain ⟨ending, isEnding, found⟩ := lineFrom_at noNewline 1 before after
  rw [← whole, position] at found
  have noIndent : ¬ Diagnostic.isIndent c := fun isIndent => visible (isBlank_of_isIndent isIndent)
  have isLine : '\n' ∉ (lineBefore before).dropWhile isBlank ++
      c :: (lineAfter after).rdropWhile isBlank := by
    intro member
    rcases List.mem_append.mp member with earlier | later
    · exact unended_lineBefore before ((List.dropWhile_sublist _).mem earlier)
    · rcases List.mem_cons.mp later with same | later
      · exact noNewline same.symm
      · exact unended_lineAfter after ((List.rdropWhile_prefix _ _).mem later)
  have trimmed := trimBlanks_line visible isEnding (lineBefore before) (lineAfter after)
  rw [lastLines?_report found (by rw [String.toList_ofList, trimmed]) isLine, String.toList_ofList,
    takeWhile_of_stop noIndent, column_eq]

/-- The report of a fault other than an early end shows the line of the first character of the lexeme
that the fault is about. The caret is as many columns to the right of that character as it has strayed,
which are none when no character in front of it has more than one byte and only spaces and tabs were
dropped. -/
theorem caret_strays_from_fault {source : String} {file? : Option String} {diagnostic : Diagnostic}
    (failed : compile source file? = .error diagnostic) (inside : diagnostic.cause ≠ .endOfInput) :
    ∃ before c spelled after, source.toList = before ++ c :: (spelled ++ after) ∧
      byteWidth before = diagnostic.offset ∧ diagnostic.cause.lexeme.toList = c :: spelled ∧
      let front := (lineBefore before).dropWhile isBlank
      let back := (lineAfter (spelled ++ after)).rdropWhile isBlank
      let stray := strayed (lineBefore before)
      lastLines? (diagnostic.report source) =
        some (front ++ c :: back, List.replicate (front.length + stray) '-' ++ ['^']) ∧
      aboveCaret? (diagnostic.report source) = (c :: back)[stray]? ∧
      (stray = 0 ↔ (∀ d ∈ lineBefore before, d.toNat < 128) ∧
        ∀ d ∈ (lineBefore before).takeWhile isBlank, Diagnostic.isIndent d) := by
  obtain ⟨before, c, spelled, after, whole, position, lexeme, visible⟩ :=
    (standsIn_of_compile failed inside).exists_character
  have lines := lastLines?_at whole position visible
  refine ⟨before, c, spelled, after, whole, position, lexeme, lines, ?_, strayed_eq_zero_iff⟩
  rw [aboveCaret?, lines]
  exact getElem?_idxOf_caret _ _ _

/-- A letter of two bytes, in a comment before the character that begins no lexeme. -/
def accentedSource : String :=
  "class Main \x7b /* é */ # \x7d"

theorem caret_of_accented_is_beside_fault : ∃ diagnostic before,
    compile accentedSource none = .error diagnostic ∧
      diagnostic.cause.lexeme.toList = ['#'] ∧ byteWidth before = diagnostic.offset ∧
      strayed (lineBefore before) ≠ 0 ∧
      aboveCaret? (diagnostic.report accentedSource) = some ' ' := by
  have refused : lexicalFault? accentedSource = some ⟨.unrecognisedToken "#", 22⟩ := by decide +kernel
  have failed : compile accentedSource none = .error ⟨⟨.unrecognisedToken "#", 22⟩, "shell"⟩ := by
    rw [compile, readUnit_of_fault _ (tokenize_of_lexicalFault? refused)]
    rfl
  have beside : aboveCaret? (Diagnostic.report ⟨⟨.unrecognisedToken "#", 22⟩, "shell"⟩ accentedSource) =
      some ' ' := by
    decide +kernel
  obtain ⟨before, c, spelled, after, whole, position, lexeme, _, above, _⟩ :=
    caret_strays_from_fault failed (by decide)
  refine ⟨_, before, failed, rfl, position, ?_, beside⟩
  intro noMark
  obtain ⟨rfl, _⟩ := List.cons.inj lexeme
  rw [beside, noMark] at above
  cases above

example : aboveCaret? (Diagnostic.report ⟨⟨.unrecognisedToken "#", 25⟩, "Main.jack"⟩
    "class Main \x7b\n    let a = #;\n\x7d\n") = some '#' := by
  decide +kernel

end Jack
