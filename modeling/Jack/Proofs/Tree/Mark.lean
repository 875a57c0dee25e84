import Jack.Proofs.Token.Listed
import Jack.Proofs.Tree.Unplaced

namespace Jack

inductive Mark where
  | opening (production : Production)
  | closing (production : Production)
  | leaf (leaf : Leaf)
deriving DecidableEq, Repr

namespace Mark

def text : Mark → String
  | opening production => openTag production.tag
  | closing production => closeTag production.tag
  | leaf found => found.line true

def unplaced : Mark → Mark
  | opening production => opening production
  | closing production => closing production
  | leaf found => leaf found.unplaced

end Mark

def Production.all : List Production :=
  [classDec, classVarDec, subroutineDec, parameterList, subroutineBody, varDec, statements,
    letStatement, ifStatement, whileStatement, doStatement, returnStatement, expression, term,
    expressionList]

theorem Production.mem_all (production : Production) : production ∈ all := by
  cases production <;> simp [all]

def Production.ofTag? (tag : String) : Option Production :=
  all.find? (·.tag == tag)

theorem Production.ofTag?_tag (production : Production) : ofTag? production.tag = some production := by
  cases production <;> decide

theorem Production.lacks_tag {c : Char} (other : c.isAlpha = false) (production : Production) :
    Lacks c production.tag := by
  have letters : production.tag.toList.all Char.isAlpha := by
    cases production <;> decide
  exact .of_all letters other

theorem LexemeKind.lacks_tag {c : Char} (other : c.isAlpha = false) (kind : LexemeKind) :
    Lacks c kind.tag := by
  have letters : kind.tag.toList.all Char.isAlpha := by
    cases kind <;> simp only [tag] <;> decide
  exact .of_all letters other

theorem notMem_intercalate {c separator : Char} {parts : List (List Char)} (differ : c ≠ separator)
    (apart : ∀ part ∈ parts, c ∉ part) : c ∉ [separator].intercalate parts := by
  induction parts with
  | nil => simp
  | cons part parts ih =>
    obtain ⟨first, later⟩ := List.forall_mem_cons.mp apart
    cases parts with
    | nil => simpa using first
    | cons next parts =>
      have rest := ih later
      simp [List.intercalate_cons_cons, first, differ, rest]

def Category.all : List Category :=
  [static, field, argument, localVar, className, subroutine]

def Category.ofText? (text : String) : Option Category :=
  all.find? (·.text == text)

theorem Category.ofText?_text (category : Category) : ofText? category.text = some category := by
  cases category <;> decide

def truthText (value : Bool) : String :=
  if value then "true" else "false"

def truth? (text : String) : Option Bool :=
  [true, false].find? (truthText · == text)

theorem truth?_truthText (value : Bool) : truth? (truthText value) = some value := by
  cases value <;> decide

namespace Resolution

def pieces (resolution : Resolution) : List String :=
  let index := match resolution.index with
    | some index => [" index=", toString index.toNat]
    | none => []
  "category=" :: resolution.category.text :: " declaration=" :: truthText resolution.isDeclaration ::
    (index ++ [""])

def read? (category truth : String) (index : Option UInt16) : Option Resolution :=
  (Category.ofText? category).bind fun category =>
    (truth? truth).map fun isDeclaration => ⟨category, isDeclaration, index⟩

def ofPieces? : List String → Option Resolution
  | ["category=", category, " declaration=", truth, ""] => read? category truth none
  | ["category=", category, " declaration=", truth, " index=", index, ""] =>
    (number? index).bind fun index => read? category truth (some index)
  | _ => none

theorem read?_text (resolution : Resolution) :
    read? resolution.category.text (truthText resolution.isDeclaration) resolution.index =
      some resolution := by
  rw [read?, Category.ofText?_text, truth?_truthText]
  rfl

theorem ofPieces?_pieces (resolution : Resolution) :
    ofPieces? resolution.pieces = some resolution := by
  have read := resolution.read?_text
  cases same : resolution.index with
  | none =>
    rw [same] at read
    simp only [pieces, same]
    exact read
  | some index =>
    rw [same] at read
    simp only [pieces, same, List.cons_append, List.nil_append, ofPieces?, number?_toString]
    exact read

def isPieceChar (c : Char) : Bool :=
  c.isAlphanum || c == ' ' || c == '='

theorem all_pieces (resolution : Resolution) :
    ∀ piece ∈ resolution.pieces, piece.toList.all isPieceChar := by
  have first : "category=".toList.all isPieceChar := by decide
  have category : resolution.category.text.toList.all isPieceChar := by
    cases resolution.category <;> decide
  have second : " declaration=".toList.all isPieceChar := by decide
  have truth : (truthText resolution.isDeclaration).toList.all isPieceChar := by
    cases resolution.isDeclaration <;> decide
  have third : " index=".toList.all isPieceChar := by decide
  have last : "".toList.all isPieceChar := by decide
  cases same : resolution.index with
  | none =>
    simp only [pieces, same, List.nil_append, List.forall_mem_cons]
    exact ⟨first, category, second, truth, last, by simp⟩
  | some index =>
    have number : (toString index.toNat).toList.all isPieceChar := by
      refine List.all_eq_true.mpr fun c member => ?_
      simp [isPieceChar, Char.isAlphanum, isDigit_number index.toNat c member]
    simp only [pieces, same, List.cons_append, List.nil_append, List.forall_mem_cons]
    exact ⟨first, category, second, truth, third, number, last, by simp⟩

theorem lacks_pieces {c : Char} (other : isPieceChar c = false) (resolution : Resolution) :
    ∀ chars ∈ resolution.pieces.map String.toList, c ∉ chars := by
  intro chars own
  obtain ⟨piece, among, rfl⟩ := List.mem_map.mp own
  exact Lacks.of_all (resolution.all_pieces piece among) other

theorem attributes_eq (resolution : Resolution) :
    resolution.attributes.toList = ' ' :: ['"'].intercalate (resolution.pieces.map String.toList) := by
  obtain ⟨category, isDeclaration, index⟩ := resolution
  cases index <;>
    simp [attributes, pieces, truthText, List.intercalate, List.append_assoc]

/-- What the attributes of a leaf say, where the blank before them is gone. A leaf without a resolution
has none. -/
def ofAttributes? (attributes : List Char) : Option (Option Resolution) :=
  if attributes.isEmpty then some none
  else (ofPieces? ((attributes.splitOn '"').map String.ofList)).map some

theorem lacks_attributes {c : Char} (other : isPieceChar c = false) (quote : c ≠ '"')
    (resolution : Resolution) : Lacks c resolution.attributes := by
  intro member
  rw [attributes_eq] at member
  rcases List.mem_cons.mp member with rfl | member
  · exact absurd other (by decide)
  · exact notMem_intercalate quote (resolution.lacks_pieces other) member

theorem ofAttributes?_attributes (resolution : Resolution) :
    ofAttributes? resolution.attributes.toList.tail = some (some resolution) := by
  have spelled : (['"'].intercalate (resolution.pieces.map String.toList)).isEmpty = false := by
    cases same : resolution.index <;> simp [pieces, same, List.intercalate]
  have apart : ∀ chars ∈ resolution.pieces.map String.toList, '"' ∉ chars :=
    resolution.lacks_pieces (by decide)
  have split : (['"'].intercalate (resolution.pieces.map String.toList)).splitOn '"' =
      resolution.pieces.map String.toList :=
    List.splitOn_intercalate '"' apart (by simp [pieces])
  have texts : (resolution.pieces.map String.toList).map String.ofList = resolution.pieces := by
    simp [List.map_map, Function.comp_def]
  rw [attributes_eq, List.tail_cons, ofAttributes?, spelled, split, texts, ofPieces?_pieces]
  rfl

end Resolution

def Leaf.ofParts? (tag : String) (attributes body : List Char) : Option Leaf :=
  (body.dropSuffix? (" " ++ closeTag tag).toList).bind fun text =>
    (Token.ofListed? tag (String.ofList text)).bind fun token =>
      (Resolution.ofAttributes? attributes).map fun resolution? => ⟨token, resolution?⟩

def Leaf.attributes (leaf : Leaf) : String :=
  (leaf.resolution?.map Resolution.attributes).getD ""

namespace Leaf

theorem line_eq (leaf : Leaf) : leaf.line true = leaf.token.line leaf.attributes := by
  obtain ⟨token, resolution?⟩ := leaf
  cases resolution? <;> rfl

theorem ofAttributes?_attributes (leaf : Leaf) :
    Resolution.ofAttributes? leaf.attributes.toList.tail = some leaf.resolution? := by
  obtain ⟨token, resolution?⟩ := leaf
  cases resolution? with
  | none => rfl
  | some resolution => exact resolution.ofAttributes?_attributes

theorem lacks_attributes {c : Char} (other : Resolution.isPieceChar c = false) (quote : c ≠ '"')
    (leaf : Leaf) : Lacks c leaf.attributes := by
  obtain ⟨token, resolution?⟩ := leaf
  cases resolution? with
  | none => simp [attributes, Lacks]
  | some resolution => exact resolution.lacks_attributes other quote

def bare (leaf : Leaf) : Leaf :=
  { leaf with resolution? := none }

@[simp] theorem line_bare (leaf : Leaf) : leaf.bare.line true = leaf.line false := rfl

theorem ofParts?_line (leaf : Leaf) :
    ofParts? leaf.token.kind.tag leaf.attributes.toList.tail
        (leaf.token.listed.toList ++ (" " ++ closeTag leaf.token.kind.tag).toList) =
      some leaf.unplaced := by
  have text : (leaf.token.listed.toList ++ (" " ++ closeTag leaf.token.kind.tag).toList).dropSuffix?
      (" " ++ closeTag leaf.token.kind.tag).toList = some leaf.token.listed.toList :=
    List.dropSuffix?_eq_some_iff.mpr ⟨_, rfl, by simp⟩
  rw [ofParts?, text, Option.bind_some, String.ofList_toList, Token.ofListed?_listed, Option.bind_some,
    ofAttributes?_attributes]
  rfl

end Leaf

namespace Mark

/-- What a line says, whatever its padding. The first `>` ends its tag: a branch has nothing after it, and
a leaf has its text, which ends where the closing tag begins. Nothing in the text can be taken for one
of these, since they are looked for at the two ends of a line. -/
def ofLine? (line : String) : Option Mark :=
  let (head, rest) := cutAt '>' (line.toList.dropWhile (· == ' '))
  match rest, head with
  | [], '<' :: '/' :: tag => (Production.ofTag? (String.ofList tag)).map closing
  | [], '<' :: tag => (Production.ofTag? (String.ofList tag)).map opening
  | ' ' :: body, '<' :: head =>
    let (tag, attributes) := cutAt ' ' head
    (Leaf.ofParts? (String.ofList tag) attributes body).map leaf
  | _, _ => none

theorem toList_padding (style : ListingStyle) (depth : Nat) :
    (Node.padding style depth).toList = List.replicate (depth * style.indent) ' ' := by
  rw [Node.padding, String.pushn_eq_repeat_push]
  induction depth * style.indent with
  | zero => rfl
  | succ n ih =>
    rw [Nat.repeat, String.toList_push, ih, List.replicate_succ']

theorem dropWhile_padding (style : ListingStyle) (depth : Nat) (rest : List Char) :
    ((Node.padding style depth).toList ++ '<' :: rest).dropWhile (· == ' ') = '<' :: rest := by
  have blanks : ∀ c ∈ (Node.padding style depth).toList, (c == ' ') = true := by
    intro c member
    rw [toList_padding] at member
    simp [List.eq_of_mem_replicate member]
  rw [List.dropWhile_append_of_pos blanks]
  rfl

theorem cutAt_padded {line : String} {tag rest : List Char} (apart : '>' ∉ tag)
    (chars : line.toList = '<' :: tag ++ '>' :: rest) (style : ListingStyle) (depth : Nat) :
    cutAt '>' ((Node.padding style depth ++ line).toList.dropWhile (· == ' ')) =
      ('<' :: tag, rest) := by
  have whole : '>' ∉ '<' :: tag := List.not_mem_cons_of_ne_of_not_mem (by decide) apart
  rw [String.toList_append, chars, List.cons_append, dropWhile_padding]
  exact cutAt_mark whole

theorem ofLine?_opening (style : ListingStyle) (depth : Nat) (production : Production) :
    ofLine? (Node.padding style depth ++ openTag production.tag) = some (opening production) := by
  have apart : '>' ∉ production.tag.toList := production.lacks_tag (by decide)
  have chars : (openTag production.tag).toList = '<' :: production.tag.toList ++ '>' :: [] := by
    simp [openTag]
  rw [ofLine?, cutAt_padded apart chars]
  cases production <;> rfl

theorem ofLine?_closing (style : ListingStyle) (depth : Nat) (production : Production) :
    ofLine? (Node.padding style depth ++ closeTag production.tag) = some (closing production) := by
  have tag : '>' ∉ production.tag.toList := production.lacks_tag (by decide)
  have apart : '>' ∉ '/' :: production.tag.toList := List.not_mem_cons_of_ne_of_not_mem (by decide) tag
  have chars : (closeTag production.tag).toList =
      '<' :: '/' :: production.tag.toList ++ '>' :: [] := by
    simp [closeTag]
  rw [ofLine?, cutAt_padded apart chars]
  simp only [String.ofList_toList, Production.ofTag?_tag, Option.map_some]

theorem cutAt_attributes (leaf : Leaf) :
    cutAt ' ' (leaf.token.kind.tag ++ leaf.attributes).toList =
      (leaf.token.kind.tag.toList, leaf.attributes.toList.tail) := by
  have apart : ' ' ∉ leaf.token.kind.tag.toList := leaf.token.kind.lacks_tag (by decide)
  obtain ⟨token, resolution?⟩ := leaf
  cases resolution? with
  | none =>
    simpa [Leaf.attributes] using cutAt_unmarked apart
  | some resolution =>
    simp only [Leaf.attributes, Option.map_some, Option.getD_some, String.toList_append,
      resolution.attributes_eq, List.tail_cons]
    exact cutAt_mark apart

theorem ofLine?_leaf (style : ListingStyle) (depth : Nat) (found : Leaf) :
    ofLine? (Node.padding style depth ++ found.line true) = some (leaf found.unplaced) := by
  have tag : Lacks '>' found.token.kind.tag := found.token.kind.lacks_tag (by decide)
  have attributes : Lacks '>' found.attributes := found.lacks_attributes (by decide) (by decide)
  have chars : (found.line true).toList =
      '<' :: (found.token.kind.tag ++ found.attributes).toList ++
        '>' :: ' ' :: (found.token.listed.toList ++ (" " ++ closeTag found.token.kind.tag).toList) := by
    simp [found.line_eq, Token.line, openTag]
  rw [ofLine?, cutAt_padded (tag.append attributes) chars]
  simp only [cutAt_attributes, String.ofList_toList, found.ofParts?_line, Option.map_some]

theorem ofLine?_text (style : ListingStyle) (depth : Nat) (mark : Mark) :
    ofLine? (Node.padding style depth ++ mark.text) = some mark.unplaced := by
  cases mark with
  | opening production => exact ofLine?_opening style depth production
  | closing production => exact ofLine?_closing style depth production
  | leaf found => exact ofLine?_leaf style depth found

theorem unplaced_of_text {mark other : Mark} (same : mark.text = other.text) :
    mark.unplaced = other.unplaced := by
  have read := ofLine?_text ⟨true, 0⟩ 0 mark
  rw [same, ofLine?_text] at read
  exact (Option.some.inj read).symm

theorem oneLine_padding (style : ListingStyle) (depth : Nat) :
    OneLine (Node.padding style depth) := by
  intro member
  rw [toList_padding] at member
  exact absurd (List.eq_of_mem_replicate member) (by decide)

theorem oneLine_text (mark : Mark) : OneLine mark.text := by
  have opened : OneLine "<" := by decide
  have closed : OneLine ">" := by decide
  have slashed : OneLine "</" := by decide
  have blank : OneLine " " := by decide
  cases mark with
  | opening production =>
    have tag : OneLine production.tag := production.lacks_tag (by decide)
    exact (opened.append tag).append closed
  | closing production =>
    have tag : OneLine production.tag := production.lacks_tag (by decide)
    exact (slashed.append tag).append closed
  | leaf found =>
    have tag : OneLine found.token.kind.tag := found.token.kind.lacks_tag (by decide)
    have attributes : OneLine found.attributes := found.lacks_attributes (by decide) (by decide)
    have first := (opened.append (tag.append attributes)).append closed
    have last := (slashed.append tag).append closed
    have whole := (((first.append blank).append found.token.oneLine_listed).append blank).append last
    rw [text, found.line_eq]
    exact whole

end Mark

end Jack
