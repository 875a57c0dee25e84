import Jack.CommandLine.Run
import Jack.Proofs.Files.Path
import Jack.Proofs.Text.Raw

namespace Jack

variable {name other : RawText} {options : Options}

theorem eq_of_isSourceName (source : isSourceName name) : name = Path.stem name ++ .of ".jack" := by
  have found : Path.extension? name = some (.of "jack") := by simpa [isSourceName] using source
  exact Path.eq_of_extension? found

theorem namesEntry_of_long (whole : Path.slash ∉ name) (long : 2 < name.length) :
    Path.NamesEntry name where
  whole := whole
  moves := by
    rw [Path.staysPut, Bool.or_eq_false_iff, beq_eq_false_iff_ne, beq_eq_false_iff_ne]
    constructor
    · rintro rfl
      exact absurd long (by decide)
    · rintro rfl
      exact absurd long (by decide)
  notBack := by
    rintro rfl
    exact absurd long (by decide)

structure IsSource (name : RawText) : Prop where
  source : isSourceName name
  whole : Path.slash ∉ name

theorem IsSource.namesEntry (source : IsSource name) : Path.NamesEntry name := by
  apply namesEntry_of_long source.whole
  rw [eq_of_isSourceName source.source, List.length_append]
  exact Nat.lt_add_left _ (by decide)

theorem IsSource.whole_stem (source : IsSource name) : Path.slash ∉ Path.stem name := by
  intro slash
  apply source.whole
  rw [eq_of_isSourceName source.source]
  exact List.mem_append_left _ slash

theorem eq_of_stem_eq (source : isSourceName name) (source' : isSourceName other)
    (same : Path.stem name = Path.stem other) : name = other := by
  rw [eq_of_isSourceName source, same, ← eq_of_isSourceName source']

theorem stem_eq_of_shownStem (source : isSourceName name) {text : String} (isText : name = .of text) :
    Path.stem name = .of (shownStem name) := by
  have whole := eq_of_isSourceName source
  obtain ⟨stem, same⟩ := RawText.exists_of_append (rfl : RawText.isHigh Path.dot = false)
    (isText.symm.trans whole)
  rw [shownStem, same, RawText.shown_of]

theorem lt_of_stem_eq (source : isSourceName name) (source' : isSourceName other)
    (longer : Path.stem other = Path.stem name ++ .of "T") : name < other := by
  rw [eq_of_isSourceName source, eq_of_isSourceName source', longer, List.append_assoc]
  exact List.append_left_lt (by decide)

inductive Product where
  | vm | tree | tokens
deriving DecidableEq, Repr

namespace Product

def suffix : Product → String
  | vm => ".vm"
  | tree => ".xml"
  | tokens => "T.xml"

def isAsked (options : Options) : Product → Bool
  | vm => !options.noVm
  | tree => options.xml
  | tokens => options.tokens

def text (options : Options) (compilation : Compilation) : Product → String
  | vm => compilation.vm
  | tree => compilation.tree.listing { annotate := !options.plain }
  | tokens => tokenListing compilation.tokens

def nameOf (name : RawText) (product : Product) : RawText :=
  .of (shownStem name ++ product.suffix)

variable {product product' : Product}

theorem namesEntry_nameOf (source : IsSource name) : Path.NamesEntry (product.nameOf name) := by
  apply namesEntry_of_long
  · rw [nameOf, RawText.of_append]
    intro slash
    rcases List.mem_append.mp slash with slash | slash
    · exact source.whole_stem (RawText.slash_mem_of_shown slash)
    · cases product <;> exact absurd slash (by decide)
  · rw [nameOf, RawText.of_append, List.length_append]
    apply Nat.lt_add_left
    cases product <;> decide

theorem nameOf_ne_source (source : isSourceName other) : product.nameOf name ≠ other := by
  intro same
  have source_last : other.getLast? = some 107 := by
    rw [eq_of_isSourceName source, List.getLast?_append]
    rfl
  have last : (product.nameOf name).getLast? = (RawText.of product.suffix).getLast? := by
    rw [nameOf, RawText.of_append, List.getLast?_append]
    cases product <;> rfl
  rw [same, source_last] at last
  cases product <;> exact absurd last (by decide)

theorem suffix_tokens (stem : String) : stem ++ tokens.suffix = stem ++ "T" ++ tree.suffix := by
  rw [String.append_assoc]
  rfl

theorem getLast?_suffix (stem : String) (product : Product) :
    (stem ++ product.suffix).toList.getLast? = product.suffix.toList.getLast? := by
  rw [String.toList_append, List.getLast?_append]
  cases product <;> rfl

/-- Where two outputs have one name they are of sources that are shown alike, or one is a token listing
and the other a tree. -/
theorem nameOf_eq_iff : product.nameOf name = product'.nameOf other ↔
    product = product' ∧ shownStem name = shownStem other ∨
      product = tokens ∧ product' = tree ∧ shownStem other = shownStem name ++ "T" ∨
      product = tree ∧ product' = tokens ∧ shownStem name = shownStem other ++ "T" := by
  rw [nameOf, nameOf, RawText.of_inj]
  constructor
  · intro same
    have last := congrArg (·.toList.getLast?) same
    simp only [getLast?_suffix] at last
    cases product with
    | vm =>
      cases product' with
      | vm => exact .inl ⟨rfl, (String.append_left_inj _).mp same⟩
      | tree => exact absurd last (by decide)
      | tokens => exact absurd last (by decide)
    | tree =>
      cases product' with
      | vm => exact absurd last (by decide)
      | tree => exact .inl ⟨rfl, (String.append_left_inj _).mp same⟩
      | tokens =>
        rw [suffix_tokens] at same
        exact .inr (.inr ⟨rfl, rfl, (String.append_left_inj _).mp same⟩)
    | tokens =>
      cases product' with
      | vm => exact absurd last (by decide)
      | tree =>
        rw [suffix_tokens] at same
        exact .inr (.inl ⟨rfl, rfl, ((String.append_left_inj _).mp same).symm⟩)
      | tokens => exact .inl ⟨rfl, (String.append_left_inj _).mp same⟩
  · rintro (⟨rfl, stems⟩ | ⟨rfl, rfl, stems⟩ | ⟨rfl, rfl, stems⟩)
    · rw [stems]
    · rw [stems, suffix_tokens]
    · rw [stems, suffix_tokens]

/-- Bytes that are no characters are all shown alike. -/
example : vm.nameOf (0xFE :: RawText.of ".jack") = vm.nameOf (0xFF :: RawText.of ".jack") := by
  decide

end Product

def Options.products (options : Options) : List Product :=
  [.vm, .tree, .tokens].filter (Product.isAsked options)

def Options.target (options : Options) : RawText :=
  options.outDir?.getD (Path.ofParts (Path.trimEnd (Path.leading options.path)))

def Options.named (options : Options) (name : RawText) (compilation : Compilation) :
    List (RawText × String) :=
  options.products.map fun product => (product.nameOf name, product.text options compilation)

theorem outputs_join (source : IsSource name) (compilation : Compilation) :
    outputs options (Path.join options.path name) compilation =
      (options.named name compilation).map fun output =>
        (Path.join options.target output.1, output.2) := by
  rw [outputs, Path.fileName?_join source.namesEntry, Path.parent_join source.namesEntry]
  cases vm : options.noVm <;> cases tree : options.xml <;> cases tokens : options.tokens <;>
    simp [Options.named, Options.products, Options.target, Product.isAsked, Product.nameOf,
      Product.suffix, Product.text, vm, tree, tokens]

theorem mem_products {product : Product} :
    product ∈ options.products ↔ product.isAsked options := by
  rw [Options.products, List.mem_filter]
  cases product <;> simp

theorem mem_outputs (source : IsSource name) (compilation : Compilation)
    {output : RawText × String} :
    output ∈ outputs options (Path.join options.path name) compilation ↔
      ∃ product : Product, product.isAsked options ∧
        output = (Path.join options.target (product.nameOf name),
          product.text options compilation) := by
  rw [outputs_join source, Options.named, List.map_map, List.mem_map]
  simp only [mem_products, Function.comp_apply, eq_comm]

theorem unlines_cons (line : String) (lines : List String) :
    unlines (line :: lines) = line ++ ("\n" ++ unlines lines) := by
  rw [unlines, List.map_cons, String.join_cons, String.append_assoc]
  rfl

/-- The first tag tells the tree of a class from its tokens. -/
theorem listing_ne_tokenListing (analysis : Analysis) (style : ListingStyle) (tokens : List Token) :
    analysis.tree.listing style ≠ tokenListing tokens := by
  intro same
  rw [Analysis.tree, ClassDec.node, Node.listing, Node.lines, tokenListing, unlines_cons,
    unlines_cons, Node.padding, Nat.zero_mul] at same
  have second := congrArg (·.toList[1]?) same
  simp only [String.toList_append, List.append_assoc] at second
  cases second

end Jack
