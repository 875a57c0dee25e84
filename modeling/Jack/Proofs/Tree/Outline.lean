import Jack.Proofs.Tree.Mark

namespace Jack

namespace Node

mutual

def marks : Node → List Mark
  | leaf found => [.leaf found]
  | branch production children => .opening production :: (marksOfAll children ++ [.closing production])

def marksOfAll : List Node → List Mark
  | [] => []
  | node :: nodes => node.marks ++ marksOfAll nodes

end

variable {indent : Nat}

mutual

theorem ofLine?_lines (depth : Nat) (node : Node) :
    (node.lines ⟨true, indent⟩ depth).mapM Mark.ofLine? = some node.unplaced.marks := by
  cases node with
  | leaf found =>
    have read := Mark.ofLine?_text ⟨true, indent⟩ depth (.leaf found)
    rw [Mark.text] at read
    simp [lines, read, marks, unplaced, Mark.unplaced]
  | branch production children =>
    have first := Mark.ofLine?_opening ⟨true, indent⟩ depth production
    have inside := ofLine?_linesOfAll (depth + 1) children
    have last := Mark.ofLine?_closing ⟨true, indent⟩ depth production
    simp [lines, first, inside, last, marks]

theorem ofLine?_linesOfAll (depth : Nat) (nodes : List Node) :
    (linesOfAll ⟨true, indent⟩ depth nodes).mapM Mark.ofLine? = some (marksOfAll (unplacedAll nodes)) := by
  cases nodes with
  | nil => rfl
  | cons node nodes =>
    have first := ofLine?_lines depth node
    have later := ofLine?_linesOfAll depth nodes
    simp [linesOfAll, first, later, marksOfAll]

end

mutual

theorem oneLine_lines (style : ListingStyle) (depth : Nat) (node : Node) :
    ∀ line ∈ node.lines style depth, OneLine line := by
  have padded : ∀ mark : Mark, OneLine (padding style depth ++ mark.text) :=
    fun mark => (Mark.oneLine_padding _ depth).append mark.oneLine_text
  intro line member
  cases node with
  | leaf found =>
    obtain rfl := List.mem_singleton.mp member
    cases style.annotate with
    | true => exact padded (.leaf found)
    | false => exact padded (.leaf found.bare)
  | branch production children =>
    rcases List.mem_cons.mp member with rfl | member
    · exact padded (.opening production)
    rcases List.mem_append.mp member with member | member
    · exact oneLine_linesOfAll style (depth + 1) children line member
    · obtain rfl := List.mem_singleton.mp member
      exact padded (.closing production)

theorem oneLine_linesOfAll (style : ListingStyle) (depth : Nat) (nodes : List Node) :
    ∀ line ∈ linesOfAll style depth nodes, OneLine line := by
  intro line member
  cases nodes with
  | nil => cases member
  | cons node nodes =>
    rcases List.mem_append.mp member with member | member
    · exact oneLine_lines style depth node line member
    · exact oneLine_linesOfAll style depth nodes line member

end

end Node

theorem Node.linesOf_listing (style : ListingStyle) (node : Node) :
    linesOf (node.listing style) = node.lines style 0 :=
  linesOf_join (node.oneLine_lines style 0)

/-- What is read of a tree: the nodes of the innermost open branch, the last one first, and around them
the open branches, each with the nodes before it. -/
structure Outline where
  nodes : List Node
  around : List (Production × List Node)

namespace Outline

def add (outline : Outline) (node : Node) : Outline :=
  { outline with nodes := node :: outline.nodes }

/-- Only the innermost branch can be closed. -/
def step (outline : Outline) : Mark → Option Outline
  | .leaf found => some (outline.add (.leaf found))
  | .opening production => some ⟨[], (production, outline.nodes) :: outline.around⟩
  | .closing production =>
    match outline.around with
    | (innermost, before) :: around =>
      if innermost = production then
        some (add ⟨before, around⟩ (.branch production outline.nodes.reverse))
      else none
    | [] => none

def run (outline : Outline) (marks : List Mark) : Option Outline :=
  marks.foldlM step outline

theorem run_append (outline : Outline) (first later : List Mark) :
    outline.run (first ++ later) = (outline.run first).bind (·.run later) :=
  List.foldlM_append

mutual

/-- The marks of a tree leave the open branches as they were. -/
theorem run_marks (node : Node) (outline : Outline) :
    outline.run node.marks = some (outline.add node) := by
  cases node with
  | leaf found => rfl
  | branch production children =>
    -- The children are collected in a branch of their own, which the closing mark adds to the nodes around it.
    have inside := run_marksOfAll children ⟨[], (production, outline.nodes) :: outline.around⟩
    have opened : outline.run (.opening production ::
        (Node.marksOfAll children ++ [.closing production])) =
      Outline.run ⟨[], (production, outline.nodes) :: outline.around⟩
        (Node.marksOfAll children ++ [.closing production]) := rfl
    rw [Node.marks, opened, run_append, inside, Option.bind_some, List.append_nil]
    simp [run, step, add]

theorem run_marksOfAll (nodes : List Node) (outline : Outline) :
    outline.run (Node.marksOfAll nodes) =
      some { outline with nodes := nodes.reverse ++ outline.nodes } := by
  cases nodes with
  | nil => rfl
  | cons node nodes =>
    have first := run_marks node outline
    have later := run_marksOfAll nodes (outline.add node)
    rw [Node.marksOfAll, run_append, first, Option.bind_some, later]
    simp [add]

end

def tree? : Outline → Option Node
  | ⟨[node], []⟩ => some node
  | _ => none

end Outline

def Node.ofListing? (text : String) : Option Node :=
  ((linesOf text).mapM Mark.ofLine?).bind fun marks =>
    (Outline.run ⟨[], []⟩ marks).bind Outline.tree?

theorem Node.ofListing?_listing (indent : Nat) (node : Node) :
    ofListing? (node.listing ⟨true, indent⟩) = some node.unplaced := by
  rw [ofListing?, linesOf_listing, node.ofLine?_lines, Option.bind_some, Outline.run_marks, Option.bind_some]
  rfl

/-- The listing of a tree can be read back, so trees that are listed alike differ in the places of their
tokens only. A string constant is listed without quotes and may look like a tag. -/
theorem listing_determines_tree (indent : Nat) (node : Node) :
    Node.ofListing? (node.listing ⟨true, indent⟩) = some node.unplaced ∧
    ∀ other : Node, other.listing ⟨true, indent⟩ = node.listing ⟨true, indent⟩ ↔
      other.unplaced = node.unplaced := by
  refine ⟨node.ofListing?_listing indent, ?_⟩
  intro other
  constructor
  · intro same
    have read := other.ofListing?_listing indent
    rw [same, node.ofListing?_listing] at read
    exact (Option.some.inj read).symm
  · intro same
    rw [← other.listing_unplaced, same, node.listing_unplaced]

end Jack
