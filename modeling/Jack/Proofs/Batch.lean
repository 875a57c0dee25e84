import Jack.Proofs.Files.Sources

namespace Jack

variable {options : Options} {disk wide final : Disk} {name other : RawText} {names : List RawText}
  {place : List RawText} {compilation : Compilation}

def Disk.HasOutput (disk : Disk) (options : Options) (name : RawText) (output : RawText × String) :
    Prop :=
  ∃ compilation, disk.compilation? options.path name = some compilation ∧
    output ∈ outputs options (Path.join options.path name) compilation

structure BatchEnd (options : Options) (disk final : Disk) (names : List RawText) : Prop where
  /-- The last source with an output at a path has its text there. -/
  holds : ∀ name ∈ names, ∀ output, disk.HasOutput options name output →
    (∀ other ∈ names, name < other → ∀ output', disk.HasOutput options other output' →
      output'.1 ≠ output.1) →
    final.readText output.1 = .ok output.2
  /-- Two sources have outputs at one path only if their stems are shown alike, or if one of them is
  shown with one more letter and its tree has the path of the other's tokens. -/
  shares : ∀ name ∈ names, ∀ other ∈ names, ∀ output output',
    disk.HasOutput options name output → disk.HasOutput options other output' →
    output.1 = output'.1 →
    shownStem name = shownStem other ∨
      options.xml ∧ options.tokens ∧
        (shownStem other = shownStem name ++ "T" ∨ shownStem name = shownStem other ++ "T")
  /-- Sources that are shown alike have all their outputs at the same paths. -/
  alike : ∀ name ∈ names, ∀ other ∈ names, ∀ compilation compilation',
    shownStem name = shownStem other →
    (outputs options (Path.join options.path name) compilation).map Prod.fst =
      (outputs options (Path.join options.path other) compilation').map Prod.fst
  /-- Whatever is neither an output of a source that compiles nor a new folder on the way to the
  outputs is as it was. -/
  elsewhere : ∀ place,
    final.at? place = disk.at? place ∨
      options.outDir?.isSome ∧ disk.at? place = none ∧ final.at? place = some .folder ∨
      ∃ name ∈ names, ∃ output, disk.HasOutput options name output ∧
        final.locate output.1 = .ok place ∧ final.at? place = some (.file output.2.toUTF8)

structure OnlyTokensLost (options : Options) (disk final : Disk) (names : List RawText) : Prop where
  /-- The code and the tree of a source that compiles are there, and its tokens unless the tree of
  another source that compiles has their path. -/
  kept : ∀ name ∈ names, ∀ compilation,
    disk.compilation? options.path name = some compilation →
    ∀ output ∈ outputs options (Path.join options.path name) compilation,
      output ∈ outputs { options with tokens := false } (Path.join options.path name) compilation ∨
        (options.xml → ∀ other ∈ names, shownStem other = shownStem name ++ "T" →
          disk.compilation? options.path other = none) →
      final.readText output.1 = .ok output.2
  lost : ∀ name ∈ names, ∀ other ∈ names, ∀ compilation compilation',
    disk.compilation? options.path name = some compilation →
    disk.compilation? options.path other = some compilation' →
    options.xml → options.tokens → shownStem other = shownStem name ++ "T" →
    ∃ path,
      (path, tokenListing compilation.tokens) ∈
        outputs options (Path.join options.path name) compilation ∧
      (path, compilation'.tree.listing { annotate := !options.plain }) ∈
        outputs options (Path.join options.path other) compilation' ∧
      final.readText path = .ok (compilation'.tree.listing { annotate := !options.plain }) ∧
      compilation'.tree.listing { annotate := !options.plain } ≠ tokenListing compilation.tokens

theorem Options.nodup_products (options : Options) : options.products.Nodup :=
  List.Nodup.filter _ (by decide)

theorem stem_ne_longer (stem : String) : stem ≠ stem ++ "T" := by
  intro same
  have lengths := congrArg String.length same
  rw [String.length_append] at lengths
  exact absurd lengths (Nat.ne_of_lt (Nat.lt_add_of_pos_right (by decide)))

theorem Disk.hasOutput_iff (source : IsSource name) {output : RawText × String} :
    disk.HasOutput options name output ↔
      ∃ named ∈ disk.written options name, output = (Path.join options.target named.1, named.2) := by
  rw [HasOutput, written]
  cases disk.compilation? options.path name with
  | none => simp
  | some compilation =>
    rw [Option.elim_some]
    constructor
    · rintro ⟨_, same, listed⟩
      cases same
      rw [outputs_join source] at listed
      obtain ⟨named, member, rfl⟩ := List.mem_map.mp listed
      exact ⟨named, member, rfl⟩
    · rintro ⟨named, member, rfl⟩
      refine ⟨compilation, rfl, ?_⟩
      rw [outputs_join source]
      exact List.mem_map_of_mem member

structure Compiled (options : Options) (disk wide final : Disk) (names : List RawText) : Prop where
  sources : ∀ name ∈ names, IsSource name
  sorted : names.Pairwise (· < ·)
  written : Disk.Written options.target (names.flatMap (disk.written options)) wide final

namespace Compiled

theorem proper (compiled : Compiled options disk wide final names) :
    ∀ output ∈ names.flatMap (disk.written options), Path.NamesEntry output.1 := by
  intro output written
  obtain ⟨name, member, written⟩ := List.mem_flatMap.mp written
  exact Disk.namesEntry_of_mem_written (compiled.sources name member) output written

theorem readText (compiled : Compiled options disk wide final names) (member : name ∈ names)
    (compiles : disk.compilation? options.path name = some compilation) {product : Product}
    (asked : product ∈ options.products)
    (last : ∀ other ∈ names, name < other → ∀ output ∈ disk.written options other,
      output.1 ≠ product.nameOf name) :
    final.readText (Path.join options.target (product.nameOf name)) =
      .ok (product.text options compilation) := by
  have proper := compiled.proper
  obtain ⟨before, after, split⟩ := List.append_of_mem member
  obtain ⟨earlier, later, splitProducts⟩ := List.append_of_mem asked
  -- All texts in the order in which they are written, cut at the one that is to be read.
  have inOrder : names.flatMap (disk.written options) =
      (before.flatMap (disk.written options) ++
          earlier.map fun product => (product.nameOf name, product.text options compilation)) ++
        (product.nameOf name, product.text options compilation) ::
          ((later.map fun product => (product.nameOf name, product.text options compilation)) ++
            after.flatMap (disk.written options)) := by
    rw [split, List.flatMap_append, List.flatMap_cons, Disk.written, compiles, Option.elim_some,
      Options.named, splitProducts]
    simp
  have written := compiled.written
  rw [inOrder] at written proper
  apply written.readText proper
  intro output member'
  -- What comes later is another product of this source or belongs to a later source.
  rcases List.mem_append.mp member' with own | others
  · obtain ⟨product', within, rfl⟩ := List.mem_map.mp own
    intro same
    have apart : product ≠ product' := by
      have nodup := options.nodup_products
      rw [splitProducts] at nodup
      rintro rfl
      exact (List.nodup_cons.mp (List.nodup_append.mp nodup).2.1).1 within
    rcases Product.nameOf_eq_iff.mp same with ⟨is, _⟩ | ⟨_, _, stems⟩ | ⟨_, _, stems⟩
    · exact apart is.symm
    · exact stem_ne_longer _ stems
    · exact stem_ne_longer _ stems
  · obtain ⟨other, behind, others⟩ := List.mem_flatMap.mp others
    have member' : other ∈ names := by
      rw [split]
      exact List.mem_append_right _ (List.mem_cons_of_mem _ behind)
    have ordered : name < other := by
      have sorted := compiled.sorted
      rw [split] at sorted
      exact (List.pairwise_cons.mp (List.pairwise_append.mp sorted).2.1).1 other behind
    exact last other member' ordered output others

theorem holds (compiled : Compiled options disk wide final names) (member : name ∈ names)
    {output : RawText × String} (has : disk.HasOutput options name output)
    (last : ∀ other ∈ names, name < other → ∀ output', disk.HasOutput options other output' →
      output'.1 ≠ output.1) : final.readText output.1 = .ok output.2 := by
  obtain ⟨compilation, compiles, listed⟩ := has
  obtain ⟨product, asked, rfl⟩ := (mem_outputs (compiled.sources name member) compilation).mp listed
  apply compiled.readText member compiles (mem_products.mpr asked)
  intro other member' later named written equal
  have has' := (Disk.hasOutput_iff (compiled.sources other member')).mpr ⟨named, written, rfl⟩
  exact last other member' later _ has' (Path.join_inj.mpr equal)

theorem shares (compiled : Compiled options disk wide final names) (member : name ∈ names)
    (member' : other ∈ names) {output output' : RawText × String}
    (has : disk.HasOutput options name output) (has' : disk.HasOutput options other output')
    (meet : output.1 = output'.1) :
    shownStem name = shownStem other ∨
      options.xml ∧ options.tokens ∧
        (shownStem other = shownStem name ++ "T" ∨ shownStem name = shownStem other ++ "T") := by
  obtain ⟨_, _, listed⟩ := has
  obtain ⟨_, _, listed'⟩ := has'
  obtain ⟨product, asked, rfl⟩ := (mem_outputs (compiled.sources name member) _).mp listed
  obtain ⟨product', asked', rfl⟩ := (mem_outputs (compiled.sources other member') _).mp listed'
  rcases Product.nameOf_eq_iff.mp (Path.join_inj.mp meet) with
    ⟨_, stems⟩ | ⟨rfl, rfl, stems⟩ | ⟨rfl, rfl, stems⟩
  · exact .inl stems
  · exact .inr ⟨asked', asked, .inl stems⟩
  · exact .inr ⟨asked, asked', .inr stems⟩

theorem alike (compiled : Compiled options disk wide final names) (member : name ∈ names)
    (member' : other ∈ names) (compilation compilation' : Compilation)
    (stems : shownStem name = shownStem other) :
    (outputs options (Path.join options.path name) compilation).map Prod.fst =
      (outputs options (Path.join options.path other) compilation').map Prod.fst := by
  have names (product : Product) : product.nameOf name = product.nameOf other :=
    Product.nameOf_eq_iff.mpr (.inl ⟨rfl, stems⟩)
  simp only [outputs_join (compiled.sources name member),
    outputs_join (compiled.sources other member'), Options.named, List.map_map, Function.comp_def,
    names]

theorem elsewhere (compiled : Compiled options disk wide final names) (widens : disk.Widens wide)
    (same : options.outDir? = none → wide = disk) (place : List RawText) :
    final.at? place = disk.at? place ∨
      options.outDir?.isSome ∧ disk.at? place = none ∧ final.at? place = some .folder ∨
      ∃ name ∈ names, ∃ output, disk.HasOutput options name output ∧
        final.locate output.1 = .ok place ∧ final.at? place = some (.file output.2.toUTF8) := by
  rcases compiled.written.at?_eq_or compiled.proper place with
    kept | ⟨output, member, located, found⟩
  · rw [kept]
    rcases widens.at? place with kept | ⟨missing, made⟩
    · exact .inl kept
    · cases outDir : options.outDir? with
      | none =>
        rw [same outDir]
        exact .inl rfl
      | some folder => exact .inr (.inl ⟨rfl, missing, made⟩)
  · obtain ⟨name, member', written⟩ := List.mem_flatMap.mp member
    have has := (Disk.hasOutput_iff (compiled.sources name member')).mpr ⟨output, written, rfl⟩
    exact .inr (.inr ⟨name, member', _, has, located, found⟩)

theorem batchEnd (compiled : Compiled options disk wide final names) (widens : disk.Widens wide)
    (same : options.outDir? = none → wide = disk) : BatchEnd options disk final names where
  holds _ member _ := compiled.holds member
  shares _ member _ member' _ _ := compiled.shares member member'
  alike _ member _ member' := compiled.alike member member'
  elsewhere := compiled.elsewhere widens same

theorem last_of_texts (compiled : Compiled options disk wide final names)
    (texts : ∀ name ∈ names, ∃ text, name = RawText.of text) (member : name ∈ names)
    {product : Product}
    (kept : product = .tokens → options.xml → ∀ other ∈ names,
      shownStem other = shownStem name ++ "T" → disk.compilation? options.path other = none) :
    ∀ other ∈ names, name < other → ∀ output ∈ disk.written options other,
      output.1 ≠ product.nameOf name := by
  intro other member' later output written meet
  obtain ⟨compilation, compiles, product', asked, rfl⟩ := Disk.exists_of_mem_written written
  have source := (compiled.sources name member).source
  have source' := (compiled.sources other member').source
  obtain ⟨_, isText⟩ := texts name member
  obtain ⟨_, isText'⟩ := texts other member'
  have stem := stem_eq_of_shownStem source isText
  have stem' := stem_eq_of_shownStem source' isText'
  rcases Product.nameOf_eq_iff.mp meet.symm with ⟨_, stems⟩ | ⟨rfl, rfl, stems⟩ | ⟨_, _, stems⟩
  · obtain rfl := eq_of_stem_eq source source' (by rw [stem, stem', stems])
    exact List.lt_irrefl name later
  · have xml : options.xml := (List.mem_filter.mp asked).2
    rw [kept rfl xml other member' stems] at compiles
    cases compiles
  · exact List.lt_asymm later
      (lt_of_stem_eq source' source (by rw [stem, stem', stems, RawText.of_append]))

theorem onlyTokensLost (compiled : Compiled options disk wide final names)
    (texts : ∀ name ∈ names, ∃ text, name = RawText.of text) :
    OnlyTokensLost options disk final names where
  kept := by
    intro name member compilation compiles output listed fate
    have source := compiled.sources name member
    rcases fate with fixed | alone
    · have few := @mem_outputs name { options with tokens := false } source compilation output
      obtain ⟨product, asked, rfl⟩ := few.mp fixed
      cases product with
      | tokens => cases asked
      | vm =>
        exact compiled.readText member compiles (mem_products.mpr asked)
          (compiled.last_of_texts texts member nofun)
      | tree =>
        exact compiled.readText member compiles (mem_products.mpr asked)
          (compiled.last_of_texts texts member nofun)
    · obtain ⟨product, asked, rfl⟩ := (mem_outputs source compilation).mp listed
      exact compiled.readText member compiles (mem_products.mpr asked)
        (compiled.last_of_texts texts member fun _ => alone)
  lost := by
    intro name member other member' compilation compilation' compiles compiles' xml tokens stems
    have asked : Product.tree ∈ options.products := mem_products.mpr xml
    have tree := compiled.readText member' compiles' asked
      (compiled.last_of_texts texts member' (nofun : Product.tree = .tokens → _))
    have meet : Product.tree.nameOf other = Product.tokens.nameOf name :=
      Product.nameOf_eq_iff.mpr (.inr (.inr ⟨rfl, rfl, stems⟩))
    have listed := (mem_outputs (compiled.sources name member) compilation).mpr
      ⟨.tokens, tokens, rfl⟩
    refine ⟨_, listed, ?_, ?_, listing_ne_tokenListing _ _ _⟩
    · rw [← meet]
      exact (mem_outputs (compiled.sources other member') compilation').mpr ⟨.tree, xml, rfl⟩
    · rw [← meet]
      exact tree

end Compiled

/-- What a run over the sources of a folder shows: in the order of the names the report of each that
does not compile, and nothing else but what is logged. -/
structure BatchShown (options : Options) (disk : Disk) (names : List RawText) (outcome : Outcome) :
    Prop where
  status : outcome.status =
    if ∃ name ∈ names, (disk.report? options.path name).isSome then 1 else 0
  output : outcome.output = ""
  messages : outcome.messages = names.flatMap (disk.messages options) ++
    [.logged (.finished names.length (names.filterMap (disk.report? options.path)).length)]
  /-- With nothing logged the error stream has the reports alone. -/
  errors : (outcome.errors fun _ _ => "") =
    String.join ((names.filterMap (disk.report? options.path)).map (· ++ "\n"))

theorem join_text_silent {messages : List Message}
    (plain : ∀ message ∈ messages, (∃ event, message = .logged event) ∨ ∃ text, message = .report text) :
    String.join (messages.map (Message.text fun _ => "")) =
      String.join ((messages.filterMap Message.report?).map (· ++ "\n")) := by
  induction messages with
  | nil => rfl
  | cons message later ih =>
    obtain ⟨first, plain⟩ := List.forall_mem_cons.mp plain
    rw [List.map_cons, String.join_cons, ih plain]
    rcases first with ⟨event, rfl⟩ | ⟨text, rfl⟩
    · exact String.empty_append
    · exact (String.join_cons).symm

theorem Disk.plain_messages (disk : Disk) (options : Options) (name : RawText) :
    ∀ message ∈ disk.messages options name,
      (∃ event, message = .logged event) ∨ ∃ text, message = .report text := by
  intro message member
  rw [messages] at member
  rcases List.mem_cons.mp member with rfl | member
  · exact .inl ⟨_, rfl⟩
  · split at member
    · rcases List.mem_pair.mp member with rfl | rfl
      · exact .inr ⟨_, rfl⟩
      · exact .inl ⟨_, rfl⟩
    · obtain ⟨output, _, rfl⟩ := List.mem_map.mp member
      exact .inl ⟨_, rfl⟩

theorem batchShown_of_messages {batch : Batch} (noFailure : batch.failure? = none)
    (messages : batch.messages = names.flatMap (disk.messages options) ++
      [.logged (.finished names.length (names.filterMap (disk.report? options.path)).length)]) :
    BatchShown options disk names batch.outcome := by
  have reports : batch.reports = names.filterMap (disk.report? options.path) := by
    rw [Batch.reports, messages, List.filterMap_append, Disk.reports_messages]
    exact List.append_nil _
  have shown : batch.outcome = ⟨if batch.reports.isEmpty then 0 else 1, "", batch.messages⟩ := by
    rw [Batch.outcome, noFailure]
  have fine : batch.reports.isEmpty ↔
      ¬ ∃ name ∈ names, (disk.report? options.path name).isSome := by
    rw [reports, List.isEmpty_iff, List.filterMap_eq_nil_iff]
    simp
  refine ⟨?_, by rw [shown], by rw [shown, messages], ?_⟩
  · rw [shown]
    by_cases failed : ∃ name ∈ names, (disk.report? options.path name).isSome
    · simp only [if_pos failed, mt fine.mp (not_not_intro failed), Bool.false_eq_true, if_false]
    · simp only [if_neg failed, fine.mpr failed, if_true]
  · have plain : ∀ message ∈ batch.messages,
        (∃ event, message = .logged event) ∨ ∃ text, message = .report text := by
      intro message member
      rw [messages] at member
      rcases List.mem_append.mp member with member | member
      · obtain ⟨name, _, member⟩ := List.mem_flatMap.mp member
        exact disk.plain_messages options name message member
      · exact .inl ⟨_, List.mem_singleton.mp member⟩
    have unnumbered : ∀ messages : List Message,
        messages.mapIdx (fun _ => Message.text fun _ => "") =
          messages.map (Message.text fun _ => "") := by
      intro messages
      induction messages with
      | nil => rfl
      | cons message later ih => rw [List.mapIdx_cons, List.map_cons, ih]
    rw [Outcome.errors, shown, unnumbered, join_text_silent plain, ← Batch.reports, reports]

/-- A run over a folder compiles each source in it as if it were alone, in the order of the names. The
exit status tells whether one of them failed. An output is lost only if a later source has an output
at its path, and where all names are texts these are the tokens of a source `X` beside the tree of a
source `XT`. -/
theorem batch_loses_only_shared_outputs (located : disk.locate options.path = .ok place)
    (isFolder : disk.at? place = some .folder)
    (whole : ∀ name ∈ disk.namesAt place, Path.slash ∉ name)
    (noFailure : ((compileAll Disk.fileSystem options).run disk).1.failure? = none) :
    ∃ names outcome final,
      names.Pairwise (· < ·) ∧
      (∀ name, name ∈ names ↔ name ∈ disk.namesAt place ∧ isSourceName name) ∧
      (∀ name ∈ names, ∃ result, disk.compiled options.path name = .ok result) ∧
      (runWith Disk.fileSystem options).run disk = (outcome, final) ∧
      BatchShown options disk names outcome ∧ BatchEnd options disk final names ∧
      ((∀ name ∈ names, ∃ text, name = RawText.of text) →
        OnlyTokensLost options disk final names) := by
  generalize ran : (compileAll Disk.fileSystem options).run disk = result at noFailure
  obtain ⟨batch, final⟩ := result
  obtain ⟨comes, messages, wide, widens, same, written⟩ :=
    compileAll_of_run located isFolder whole ran noFailure
  have compiled : Compiled options disk wide final (disk.sourceNames place) :=
    ⟨fun _ => Disk.isSource_of_mem whole, disk.sorted_sourceNames place, written⟩
  refine ⟨disk.sourceNames place, batch.outcome, final, compiled.sorted,
    fun _ => Disk.mem_sourceNames, comes, ?_, batchShown_of_messages noFailure messages,
    compiled.batchEnd widens same, compiled.onlyTokensLost⟩
  rw [runWith, Disk.run_bind, ran]
  rfl

/-- A folder with two classes, the name of one of which has one more letter. -/
def twoClasses : Disk :=
  ((Disk.empty (.of "w")).putWithFolders [.of "w", .of "d", .of "A.jack"]
    (.file "class A \x7b \x7d".toUTF8)).putWithFolders [.of "w", .of "d", .of "AT.jack"]
      (.file "class AT \x7b \x7d".toUTF8)

def treesAndTokens : Options :=
  ⟨.of "d", true, true, false, false, none⟩

theorem namesAt_twoClasses :
    twoClasses.namesAt [.of "w", .of "d"] = [.of "A.jack", .of "AT.jack"] := by decide

theorem noFailure_of_twoClasses :
    ((compileAll Disk.fileSystem treesAndTokens).run twoClasses).1.failure? = none := by
  have located : twoClasses.locate treesAndTokens.path = .ok [.of "w", .of "d"] := rfl
  have sourceNames : twoClasses.sourceNames [.of "w", .of "d"] = [.of "A.jack", .of "AT.jack"] := by
    rw [Disk.sourceNames, namesAt_twoClasses]
    exact List.mergeSort_of_pairwise (by decide)
  rw [compileAll, Disk.run_bind, run_sources located rfl, sourceNames]
  decide +kernel

theorem tokens_of_shorter_name_are_lost :
    ∃ outcome final short long,
      (runWith Disk.fileSystem treesAndTokens).run twoClasses = (outcome, final) ∧
      outcome.status = 0 ∧
      twoClasses.compilation? (.of "d") (.of "A.jack") = some short ∧
      twoClasses.compilation? (.of "d") (.of "AT.jack") = some long ∧
      ∃ path,
        (path, tokenListing short.tokens) ∈ outputs treesAndTokens (.of "d/A.jack") short ∧
        final.readText path = .ok (long.tree.listing {}) ∧
        long.tree.listing {} ≠ tokenListing short.tokens := by
  have whole : ∀ name ∈ twoClasses.namesAt [.of "w", .of "d"], Path.slash ∉ name := by
    rw [namesAt_twoClasses]
    decide
  have located : twoClasses.locate treesAndTokens.path = .ok [.of "w", .of "d"] := rfl
  obtain ⟨names, outcome, final, _, member, _, ran, shown, _, lost⟩ :=
    batch_loses_only_shared_outputs located rfl whole noFailure_of_twoClasses
  simp only [namesAt_twoClasses] at member
  have either : ∀ name ∈ names, name = .of "A.jack" ∨ name = .of "AT.jack" := fun name inside =>
    List.mem_pair.mp ((member name).mp inside).1
  have texts : ∀ name ∈ names, ∃ text, name = RawText.of text := by
    intro name inside
    rcases either name inside with rfl | rfl <;> exact ⟨_, rfl⟩
  have fine : ¬ ∃ name ∈ names, (twoClasses.report? treesAndTokens.path name).isSome := by
    rintro ⟨name, inside, failed⟩
    revert failed
    rcases either name inside with rfl | rfl <;> decide +kernel
  obtain ⟨short, compiles⟩ := Option.isSome_iff_exists.mp
    (show (twoClasses.compilation? (.of "d") (.of "A.jack")).isSome by decide +kernel)
  obtain ⟨long, compiles'⟩ := Option.isSome_iff_exists.mp
    (show (twoClasses.compilation? (.of "d") (.of "AT.jack")).isSome by decide +kernel)
  obtain ⟨path, listed, _, found, differ⟩ :=
    (lost texts).lost (.of "A.jack") ((member _).mpr (by decide)) (.of "AT.jack")
      ((member _).mpr (by decide)) short long compiles compiles' rfl rfl (by decide)
  exact ⟨outcome, final, short, long, ran, shown.status.trans (if_neg fine), compiles, compiles', path,
    listed, found, differ⟩

end Jack
