import Mathlib.Data.List.Forall2
import Jack.Proofs.Tree.Spells
import Jack.Tree.Listing

namespace Jack

namespace Token

variable {t u : Token}

def unplaced (token : Token) : Token :=
  { token with start := 0, stop := 0 }

theorem kind_eq_of_text (same : t.text = u.text) : t.kind = u.kind := by
  apply Option.some.inj
  rw [← t.classified, ← u.classified, same]

theorem unplaced_eq_iff : t.unplaced = u.unplaced ↔ t.text = u.text := by
  constructor
  · intro same
    have texts : t.unplaced.text = u.unplaced.text := by rw [same]
    exact texts
  · intro same
    have kinds := kind_eq_of_text same
    obtain ⟨text, kind, _, _, _⟩ := t
    cases same
    cases kinds
    rfl

end Token

def Leaf.unplaced (leaf : Leaf) : Leaf :=
  { leaf with token := leaf.token.unplaced }

namespace Node

mutual

def unplaced : Node → Node
  | leaf found => leaf found.unplaced
  | branch production children => branch production (unplacedAll children)

def unplacedAll : List Node → List Node
  | [] => []
  | node :: nodes => node.unplaced :: unplacedAll nodes

end

@[simp] theorem unplacedAll_nil : unplacedAll [] = [] := rfl

@[simp] theorem unplacedAll_cons (node : Node) (nodes : List Node) :
    unplacedAll (node :: nodes) = node.unplaced :: unplacedAll nodes := rfl

@[simp] theorem unplacedAll_append (xs ys : List Node) :
    unplacedAll (xs ++ ys) = unplacedAll xs ++ unplacedAll ys := by
  induction xs with
  | nil => rfl
  | cons node nodes ih =>
    rw [List.cons_append, unplacedAll_cons, ih, unplacedAll_cons, List.cons_append]

@[simp] theorem unplaced_branch (production : Production) (children : List Node) :
    (branch production children).unplaced = branch production (unplacedAll children) := rfl

theorem unplaced_token {t u : Token} (same : t.text = u.text) :
    (token t).unplaced = (token u).unplaced := by
  rw [token, token, unplaced, unplaced, Leaf.unplaced, Leaf.unplaced, Token.unplaced_eq_iff.mpr same]

theorem unplaced_name {t u : Token} (same : t.text = u.text) (resolution : Resolution) :
    (name t resolution).unplaced = (name u resolution).unplaced := by
  rw [name, name, unplaced, unplaced, Leaf.unplaced, Leaf.unplaced, Token.unplaced_eq_iff.mpr same]

@[simp] abbrev SameTree {α : Type} (node : α → Node) (a b : α) : Prop :=
  (node a).unplaced = (node b).unplaced

@[simp] abbrev SameTrees {α : Type} (nodes : α → List Node) (a b : α) : Prop :=
  unplacedAll (nodes a) = unplacedAll (nodes b)

section

variable {α : Type} {node : α → Node} {nodes : α → List Node} {xs ys : List α}

theorem SameTree.map (same : List.Forall₂ (SameTree node) xs ys) :
    unplacedAll (xs.map node) = unplacedAll (ys.map node) := by
  induction same with
  | nil => rfl
  | cons first _ ih => rw [List.map_cons, List.map_cons, unplacedAll_cons, unplacedAll_cons, first, ih]

theorem SameTrees.flatMap (same : List.Forall₂ (SameTrees nodes) xs ys) :
    unplacedAll (xs.flatMap nodes) = unplacedAll (ys.flatMap nodes) := by
  induction same with
  | nil => rfl
  | cons first _ ih =>
    rw [List.flatMap_cons, List.flatMap_cons, unplacedAll_append, unplacedAll_append, first, ih]

end

mutual

theorem lines_unplaced (style : ListingStyle) (depth : Nat) (node : Node) :
    node.unplaced.lines style depth = node.lines style depth := by
  cases node with
  | leaf found =>
    obtain ⟨token, resolution?⟩ := found
    rfl
  | branch production children =>
    rw [unplaced, lines, lines, linesOfAll_unplaced style (depth + 1) children]

theorem linesOfAll_unplaced (style : ListingStyle) (depth : Nat) (nodes : List Node) :
    linesOfAll style depth (unplacedAll nodes) = linesOfAll style depth nodes := by
  cases nodes with
  | nil => rfl
  | cons node nodes =>
    rw [unplacedAll, linesOfAll, linesOfAll, lines_unplaced style depth node,
      linesOfAll_unplaced style depth nodes]

end

theorem listing_unplaced (style : ListingStyle) (node : Node) :
    node.unplaced.listing style = node.listing style := by
  rw [listing, lines_unplaced, listing]

end Node

open Node (SameTree)

theorem Expression.nodesBefore_eq_append (value : Expression) (later : List Node) :
    value.nodesBefore later = value.nodesBefore [] ++ later := by
  cases value with
  | term first => rfl
  | binary left token operator right =>
    rw [nodesBefore, nodesBefore, left.nodesBefore_eq_append, left.nodesBefore_eq_append [_, _],
      List.append_assoc]
    rfl

theorem Arguments.nodesBefore_eq_append (arguments : Arguments) (later : List Node) :
    arguments.nodesBefore later = arguments.nodesBefore [] ++ later := by
  cases arguments with
  | none => rfl
  | one value => rfl
  | more before comma value =>
    rw [nodesBefore, nodesBefore, before.nodesBefore_eq_append, before.nodesBefore_eq_append [_, _],
      List.append_assoc]
    rfl

structure SameArguments (a b : Arguments) : Prop where
  trees : SameTree Arguments.node a b
  count : a.count = b.count

theorem SameArguments.none : SameArguments .none .none :=
  ⟨rfl, rfl⟩

theorem SameArguments.one {value value' : Expression} (same : SameTree Expression.node value value') :
    SameArguments (.one value) (.one value') := by
  refine ⟨?_, rfl⟩
  simp [Arguments.node, same]

theorem SameArguments.more {before before' : Arguments} {comma comma' : Token}
    {value value' : Expression} (start : SameArguments before before')
    (separator : (Node.token comma).unplaced = (Node.token comma').unplaced)
    (last : SameTree Expression.node value value') :
    SameArguments (.more before comma value) (.more before' comma' value') := by
  have trees := start.trees
  rw [SameTree, before.node_eq_branch, before'.node_eq_branch] at trees
  have nodes := (Node.branch.inj trees).2
  refine ⟨?_, congrArg (· + 1) start.count⟩
  rw [SameTree, Arguments.node, Arguments.node, before.nodesBefore_eq_append, before'.nodesBefore_eq_append]
  simp [nodes, separator, last]

theorem Expression.sameTree_binary {left left' : Expression} {token token' : Token}
    {operator : BinaryOperator} {right right' : Term} (first : SameTree Expression.node left left')
    (between : (Node.token token).unplaced = (Node.token token').unplaced)
    (last : SameTree Term.node right right') :
    SameTree Expression.node (.binary left token operator right)
      (.binary left' token' operator right') := by
  rw [SameTree, left.node_eq_branch, left'.node_eq_branch] at first
  have nodes := (Node.branch.inj first).2
  rw [SameTree, node, node, left.nodesBefore_eq_append, left'.nodesBefore_eq_append]
  simp [nodes, between, last]

theorem statementNodes_eq (statements : List Statement) :
    statementNodes statements = statements.map Statement.node := by
  induction statements with
  | nil => rfl
  | cons statement statements ih => rw [statementNodes, ih, List.map_cons]

structure SameType (a b : TypeName) : Prop where
  trees : SameTree TypeName.node a b
  text : a.text = b.text

def declaredNodes : Name × Token → List Node
  | (name, separator) => [name.node, .token separator]

theorem VariableDec.node_eq (production : Production) (declaration : VariableDec) :
    declaration.node production = .branch production
      (.token declaration.keyword :: declaration.type.node ::
        declaration.names.flatMap declaredNodes) := rfl

end Jack
