import Jack.Proofs.Tree.Outline

namespace Jack

def unpadded (line : String) : String :=
  String.ofList (line.toList.dropWhile (· == ' '))

def isBranchLine (line : String) : Bool :=
  Production.all.any fun production =>
    line == openTag production.tag || line == closeTag production.tag

/-- Lines without their padding, and without those of the branches. -/
def leafLines (lines : List String) : List String :=
  (lines.map unpadded).filter (!isBranchLine ·)

def withoutBranches (listing : String) : String :=
  unlines ("<tokens>" :: (leafLines (linesOf listing) ++ ["</tokens>"]))

theorem leafLines_append (lines later : List String) :
    leafLines (lines ++ later) = leafLines lines ++ leafLines later := by
  simp [leafLines]

namespace Mark

theorem exists_tagged (mark : Mark) : ∃ rest, mark.text.toList = '<' :: rest := by
  cases mark with
  | opening production => simp [text, openTag]
  | closing production => simp [text, closeTag]
  | leaf found => simp [text, found.line_eq, Token.line, openTag]

theorem unpadded_text (style : ListingStyle) (depth : Nat) (mark : Mark) :
    unpadded (Node.padding style depth ++ mark.text) = mark.text := by
  obtain ⟨rest, tagged⟩ := mark.exists_tagged
  rw [unpadded, String.toList_append, tagged, dropWhile_padding, ← tagged, String.ofList_toList]

theorem isBranchLine_opening (production : Production) : isBranchLine (opening production).text := by
  refine List.any_eq_true.mpr ⟨production, production.mem_all, ?_⟩
  simp [text]

theorem isBranchLine_closing (production : Production) : isBranchLine (closing production).text := by
  refine List.any_eq_true.mpr ⟨production, production.mem_all, ?_⟩
  simp [text]

theorem not_isBranchLine_leaf (found : Leaf) : isBranchLine (leaf found).text = false := by
  refine List.any_eq_false.mpr fun production _ => ?_
  have opened : (leaf found).text ≠ (opening production).text :=
    fun same => nomatch unplaced_of_text same
  have closed : (leaf found).text ≠ (closing production).text :=
    fun same => nomatch unplaced_of_text same
  simpa using ⟨opened, closed⟩

end Mark

namespace Node

variable {indent : Nat}

mutual

theorem leafLines_lines (depth : Nat) (node : Node) :
    leafLines (node.lines ⟨false, indent⟩ depth) = node.leaves.map (·.token.line "") := by
  cases node with
  | leaf found =>
    have line := Mark.unpadded_text ⟨false, indent⟩ depth (.leaf found.bare)
    have stays := Mark.not_isBranchLine_leaf found.bare
    rw [Mark.text, found.line_bare] at line stays
    rw [lines, leafLines, List.map_singleton, line, List.filter_singleton, stays]
    rfl
  | branch production children =>
    have first := Mark.unpadded_text ⟨false, indent⟩ depth (.opening production)
    have last := Mark.unpadded_text ⟨false, indent⟩ depth (.closing production)
    have inside := leafLines_linesOfAll (depth + 1) children
    have opens := Mark.isBranchLine_opening production
    have closes := Mark.isBranchLine_closing production
    simp only [Mark.text] at first last opens closes
    rw [lines, ← List.singleton_append, leafLines_append, leafLines_append, inside]
    simp [leafLines, first, last, opens, closes, leaves]

theorem leafLines_linesOfAll (depth : Nat) (nodes : List Node) :
    leafLines (linesOfAll ⟨false, indent⟩ depth nodes) =
      (leavesOfAll nodes).map (·.token.line "") := by
  cases nodes with
  | nil => rfl
  | cons node nodes =>
    rw [linesOfAll, leafLines_append, leafLines_lines depth node, leafLines_linesOfAll depth nodes,
      leavesOfAll, List.map_append]

end

theorem withoutBranches_listing (indent : Nat) (node : Node) :
    withoutBranches (node.listing ⟨false, indent⟩) = tokenListing node.tokens := by
  rw [withoutBranches, linesOf_listing, leafLines_lines, tokenListing, tokens, List.map_map]
  rfl

end Node

/-- Two lines that are the same, but for attributes in the opening tag of a leaf. -/
inductive Annotates : String → String → Prop where
  | same (line : String) : Annotates line line
  | attributes {padding : String} (blank : ∀ c ∈ padding.toList, c = ' ') (kind : LexemeKind)
    (resolution : Resolution) (rest : String) :
    Annotates (padding ++ openTag (kind.tag ++ resolution.attributes) ++ rest)
      (padding ++ openTag kind.tag ++ rest)

namespace Node

variable {indent : Nat}

theorem blank_padding (style : ListingStyle) (depth : Nat) :
    ∀ c ∈ (padding style depth).toList, c = ' ' := by
  intro c member
  rw [Mark.toList_padding] at member
  exact List.eq_of_mem_replicate member

theorem annotates_leaf (style : ListingStyle) (depth : Nat) (found : Leaf) :
    Annotates (padding style depth ++ found.line true) (padding style depth ++ found.line false) := by
  obtain ⟨token, resolution?⟩ := found
  cases resolution? with
  | none => exact .same _
  | some resolution =>
    have annotates := Annotates.attributes (blank_padding style depth) token.kind resolution
      (" " ++ token.listed ++ " " ++ closeTag token.kind.tag)
    simpa [Leaf.line, Token.line, String.append_assoc] using annotates

mutual

theorem annotates_lines (depth : Nat) (node : Node) :
    List.Forall₂ Annotates (node.lines ⟨true, indent⟩ depth) (node.lines ⟨false, indent⟩ depth) := by
  cases node with
  | leaf found => exact .cons (annotates_leaf ⟨true, indent⟩ depth found) .nil
  | branch production children =>
    have inside := annotates_linesOfAll (depth + 1) children
    exact .cons (.same _) (List.rel_append inside (.cons (.same _) .nil))

theorem annotates_linesOfAll (depth : Nat) (nodes : List Node) :
    List.Forall₂ Annotates (linesOfAll ⟨true, indent⟩ depth nodes)
      (linesOfAll ⟨false, indent⟩ depth nodes) := by
  cases nodes with
  | nil => exact .nil
  | cons node nodes =>
    exact List.rel_append (annotates_lines depth node) (annotates_linesOfAll depth nodes)

end

end Node

def textOfLine? (line : String) : Option String :=
  (Mark.ofLine? line).bind fun
    | .leaf found => some found.token.text
    | _ => none

def textsOfListing? (listing : String) : Option (List String) :=
  (linesOf listing).tail.dropLast.mapM textOfLine?

theorem textOfLine?_line (token : Token) : textOfLine? (token.line "") = some token.text := by
  have read := Mark.ofLine?_text ⟨true, 0⟩ 0 (.leaf ⟨token, none⟩)
  have line : Node.padding ⟨true, 0⟩ 0 ++ (Mark.leaf ⟨token, none⟩).text = token.line "" :=
    String.empty_append
  rw [line] at read
  rw [textOfLine?, read]
  rfl

theorem linesOf_tokenListing (tokens : List Token) :
    linesOf (tokenListing tokens) = "<tokens>" :: (tokens.map (·.line "") ++ ["</tokens>"]) := by
  refine linesOf_join (List.forall_mem_cons.mpr ⟨by decide, List.forall_mem_append.mpr ⟨?_, ?_⟩⟩)
  · refine List.forall_mem_map.mpr fun token _ => ?_
    exact (Mark.leaf ⟨token, none⟩).oneLine_text
  · exact List.forall_mem_singleton.mpr (by decide)

theorem textsOfListing?_tokenListing (tokens : List Token) :
    textsOfListing? (tokenListing tokens) = some (tokens.map (·.text)) := by
  rw [textsOfListing?, linesOf_tokenListing, List.tail_cons, List.dropLast_concat]
  induction tokens with
  | nil => rfl
  | cons token tokens ih =>
    rw [List.map_cons, List.mapM_cons, textOfLine?_line, ih]
    rfl

theorem Token.line_of_text (token : Token) :
    token.line "" = ((ofText? token.text 0 0).map (·.line "")).getD "" := by
  have read : ofText? token.text 0 0 = some token.unplaced := token.unplaced.ofText?_text
  rw [read]
  rfl

theorem tokenListing_congr {tokens others : List Token}
    (same : others.map (·.text) = tokens.map (·.text)) : tokenListing others = tokenListing tokens := by
  have lines : ∀ all : List Token, all.map (·.line "") = (all.map (·.text)).map fun text =>
      ((Token.ofText? text 0 0).map (·.line "")).getD "" := by
    intro all
    rw [List.map_map]
    exact List.map_congr_left fun token _ => token.line_of_text
  rw [tokenListing, tokenListing, lines, lines, same]

/-- A listing without attributes is that of the tokens, once the lines of the branches and the padding are
gone; attributes are all that an annotated listing has more; and the listing of any tokens shows their
texts. -/
theorem listings_show_tokens (indent : Nat) (node : Node) (tokens : List Token) :
    withoutBranches (node.listing ⟨false, indent⟩) = tokenListing node.tokens ∧
      List.Forall₂ Annotates (linesOf (node.listing ⟨true, indent⟩))
        (linesOf (node.listing ⟨false, indent⟩)) ∧
      textsOfListing? (tokenListing tokens) = some (tokens.map (·.text)) ∧
      ∀ others, tokenListing others = tokenListing tokens ↔ others.map (·.text) = tokens.map (·.text) := by
  refine ⟨node.withoutBranches_listing indent, ?_, textsOfListing?_tokenListing tokens, ?_⟩
  · rw [node.linesOf_listing, node.linesOf_listing]
    exact node.annotates_lines 0
  · intro others
    constructor
    · intro same
      have read := textsOfListing?_tokenListing others
      rw [same, textsOfListing?_tokenListing] at read
      exact (Option.some.inj read).symm
    · exact tokenListing_congr

end Jack
