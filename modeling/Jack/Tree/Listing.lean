import Jack.Tree.Basic

namespace Jack

structure ListingStyle where
  annotate : Bool := true
  indent : Nat := 2
deriving DecidableEq, Repr

def unlines (lines : List String) : String :=
  String.join (lines.map (· ++ "\n"))

def openTag (tag : String) : String :=
  "<" ++ tag ++ ">"

def closeTag (tag : String) : String :=
  "</" ++ tag ++ ">"

def Resolution.attributes (resolution : Resolution) : String :=
  let index := match resolution.index with
    | some index => " index=\"" ++ toString index.toNat ++ "\""
    | none => ""
  " category=\"" ++ resolution.category.text ++ "\" declaration=\"" ++
    (if resolution.isDeclaration then "true" else "false") ++ "\"" ++ index

def Token.line (token : Token) (attributes : String) : String :=
  let tag := token.kind.tag
  openTag (tag ++ attributes) ++ " " ++ token.listed ++ " " ++ closeTag tag

def Leaf.line (annotate : Bool) (leaf : Leaf) : String :=
  match annotate, leaf.resolution? with
  | true, some resolution => leaf.token.line resolution.attributes
  | _, _ => leaf.token.line ""

namespace Node

def padding (style : ListingStyle) (depth : Nat) : String :=
  "".pushn ' ' (depth * style.indent)

mutual

def lines (style : ListingStyle) (depth : Nat) : Node → List String
  | leaf found => [padding style depth ++ found.line style.annotate]
  | branch production children =>
    (padding style depth ++ openTag production.tag) ::
      (linesOfAll style (depth + 1) children ++ [padding style depth ++ closeTag production.tag])

def linesOfAll (style : ListingStyle) (depth : Nat) : List Node → List String
  | [] => []
  | node :: nodes => node.lines style depth ++ linesOfAll style depth nodes

end

def listing (style : ListingStyle) (node : Node) : String :=
  unlines (node.lines style 0)

end Node

def tokenListing (tokens : List Token) : String :=
  unlines ("<tokens>" :: (tokens.map (·.line "") ++ ["</tokens>"]))

end Jack
