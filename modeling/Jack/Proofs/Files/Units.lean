import Jack.Proofs.Files.Change
import Jack.Proofs.Files.Outputs

namespace Jack

namespace Disk

def compiled (disk : Disk) (folder name : RawText) : Except SystemError (Compilation ⊕ String) :=
  (disk.readText (Path.join folder name)).map fun source =>
    match compile source (some name.shown) with
    | .ok compilation => .inl compilation
    | .error diagnostic => .inr (diagnostic.report source)

def compilation? (disk : Disk) (folder name : RawText) : Option Compilation :=
  (disk.compiled folder name).toOption.bind Sum.getLeft?

def report? (disk : Disk) (folder name : RawText) : Option String :=
  (disk.compiled folder name).toOption.bind Sum.getRight?

def written (disk : Disk) (options : Options) (name : RawText) : List (RawText × String) :=
  (disk.compilation? options.path name).elim [] (options.named name)

def messages (disk : Disk) (options : Options) (name : RawText) : List Message :=
  .logged (.compiled (Path.join options.path name)) ::
    match disk.report? options.path name with
    | some report => [.report report, .logged (.failed (Path.join options.path name))]
    | none =>
      (disk.written options name).map fun output =>
        .logged (.wrote (Path.join options.target output.1))

theorem reports_messages (disk : Disk) (options : Options) (names : List RawText) :
    (names.flatMap (disk.messages options)).filterMap Message.report? =
      names.filterMap (disk.report? options.path) := by
  have one : ∀ name, (disk.messages options name).filterMap Message.report? =
      (disk.report? options.path name).toList := by
    intro name
    rw [messages]
    cases disk.report? options.path name with
    | some report => rfl
    | none =>
      apply List.filterMap_eq_nil_iff.mpr
      intro message member
      rcases List.mem_cons.mp member with rfl | member
      · rfl
      · obtain ⟨output, _, rfl⟩ := List.mem_map.mp member
        rfl
  induction names with
  | nil => rfl
  | cons name names ih =>
    rw [List.flatMap_cons, List.filterMap_append, ih, one, List.filterMap_cons]
    cases disk.report? options.path name <;> rfl

end Disk

variable {disk first disk' : Disk} {options : Options} {name : RawText} {names : List RawText}
  {place : List RawText} {batch : Batch}

theorem run_compileFile (source : IsSource name) (options : Options) (disk : Disk) :
    (compileFile Disk.fileSystem options (Path.join options.path name)).run disk =
      match disk.compiled options.path name with
      | .error error =>
        (⟨[], some ⟨"failed to read " ++ (Path.join options.path name).shown, some error⟩⟩, disk)
      | .ok (.inr report) =>
        (⟨[.logged (.compiled (Path.join options.path name)), .report report,
          .logged (.failed (Path.join options.path name))], none⟩, disk)
      | .ok (.inl compilation) =>
        let (rest, disk') := (writeOutputs Disk.fileSystem
          (outputs options (Path.join options.path name) compilation)).run disk
        (⟨.logged (.compiled (Path.join options.path name)) :: rest.messages, rest.failure?⟩,
          disk') := by
  rw [compileFile, Disk.run_bind, Disk.run_readText, Disk.compiled,
    Path.fileName?_join source.namesEntry]
  cases disk.readText (Path.join options.path name) with
  | error error => rfl
  | ok text =>
    simp only [Except.map, Option.map_some]
    cases compile text (some name.shown) with
    | error diagnostic => rfl
    | ok compilation => rfl

theorem written_of_run {folder : RawText} {outputs : List (RawText × String)}
    (ran : (writeOutputs Disk.fileSystem (outputs.map fun output =>
      (Path.join folder output.1, output.2))).run disk = (batch, disk'))
    (noFailure : batch.failure? = none) :
    Disk.Written folder outputs disk disk' ∧
      batch.messages = outputs.map fun output => .logged (.wrote (Path.join folder output.1)) := by
  induction outputs generalizing disk batch with
  | nil =>
    cases ran
    exact ⟨.done, rfl⟩
  | cons output later ih =>
    rw [List.map_cons, writeOutputs, Disk.run_bind,
      show Disk.fileSystem.writeText _ output.2 = Disk.change (·.writeText _ output.2) from rfl,
      Disk.run_change] at ran
    cases wrote : disk.writeText (Path.join folder output.1) output.2 with
    | error error =>
      rw [wrote] at ran
      cases ran
      cases noFailure
    | ok after =>
      rw [wrote] at ran
      dsimp only at ran
      rw [Disk.run_bind] at ran
      generalize rest : (writeOutputs Disk.fileSystem (later.map fun output =>
        (Path.join folder output.1, output.2))).run after = ended at ran
      obtain ⟨tail, last⟩ := ended
      cases ran
      obtain ⟨place, located, free, rfl⟩ := Disk.writeText_eq_ok_iff.mp wrote
      obtain ⟨written, messages⟩ := ih rest noFailure
      refine ⟨.write located free written, ?_⟩
      simp only [messages, List.map_cons]

theorem Disk.exists_of_mem_written {output : RawText × String}
    (member : output ∈ disk.written options name) :
    ∃ compilation, disk.compilation? options.path name = some compilation ∧
      ∃ product ∈ options.products,
        output = (product.nameOf name, product.text options compilation) := by
  rw [written] at member
  cases compiles : disk.compilation? options.path name with
  | none =>
    rw [compiles] at member
    cases member
  | some compilation =>
    rw [compiles] at member
    obtain ⟨product, asked, same⟩ := List.mem_map.mp member
    exact ⟨compilation, rfl, product, asked, same.symm⟩

theorem Disk.namesEntry_of_mem_written (source : IsSource name) :
    ∀ output ∈ disk.written options name, Path.NamesEntry output.1 := by
  intro output member
  obtain ⟨_, _, product, _, rfl⟩ := exists_of_mem_written member
  exact product.namesEntry_nameOf source

structure SameSources (options : Options) (place names : List RawText) (first disk : Disk) :
    Prop where
  begins : first.LeadsTo options.path place
  leads : disk.LeadsTo options.path place
  same : ∀ name ∈ names, disk.at? (place ++ [name]) = first.at? (place ++ [name])

namespace SameSources

theorem compiled (same : SameSources options place names first disk) (member : name ∈ names)
    (source : IsSource name) :
    disk.compiled options.path name = first.compiled options.path name := by
  rw [Disk.compiled, Disk.compiled,
    Disk.readText_congr source.namesEntry same.begins same.leads (same.same name member)]

theorem after (same : SameSources options place names first disk) {other : RawText}
    (source : IsSource other) (sources : ∀ name ∈ names, IsSource name)
    (written : Disk.Written options.target (first.written options other) disk disk') :
    SameSources options place names first disk' where
  begins := same.begins
  leads := same.leads.keeps written.keeps
  same name member := by
    rw [← same.same name member]
    apply written.at?_of_notMem (Disk.namesEntry_of_mem_written source)
    intro output written
    obtain ⟨_, _, product, _, rfl⟩ := Disk.exists_of_mem_written written
    exact product.nameOf_ne_source (sources name member).source

end SameSources

theorem compileFile_of_run (source : IsSource name)
    (same : disk.compiled options.path name = first.compiled options.path name)
    (ran : (compileFile Disk.fileSystem options (Path.join options.path name)).run disk =
      (batch, disk'))
    (noFailure : batch.failure? = none) :
    (∃ result, first.compiled options.path name = .ok result) ∧
      batch.messages = first.messages options name ∧
      Disk.Written options.target (first.written options name) disk disk' := by
  rw [run_compileFile source, same] at ran
  rw [Disk.messages, Disk.report?, Disk.written, Disk.compilation?]
  cases comes : first.compiled options.path name with
  | error error =>
    rw [comes] at ran
    cases ran
    cases noFailure
  | ok result =>
    rw [comes] at ran
    apply And.intro ⟨result, rfl⟩
    cases result with
    | inr report =>
      cases ran
      exact ⟨rfl, .done⟩
    | inl compilation =>
      dsimp only at ran
      rw [outputs_join source] at ran
      generalize wrote : (writeOutputs Disk.fileSystem ((options.named name compilation).map
        fun output => (Path.join options.target output.1, output.2))).run disk = ended at ran
      obtain ⟨rest, last⟩ := ended
      cases ran
      obtain ⟨written, messages⟩ := written_of_run wrote noFailure
      refine ⟨?_, written⟩
      simp only [messages]
      rfl

theorem compileFiles_of_run (sources : ∀ name ∈ names, IsSource name)
    (same : SameSources options place names first disk)
    (ran : (compileFiles Disk.fileSystem options (names.map (Path.join options.path))).run disk =
      (batch, disk'))
    (noFailure : batch.failure? = none) :
    (∀ name ∈ names, ∃ result, first.compiled options.path name = .ok result) ∧
      batch.messages = names.flatMap (first.messages options) ∧
      Disk.Written options.target (names.flatMap (first.written options)) disk disk' := by
  induction names generalizing disk batch with
  | nil =>
    cases ran
    exact ⟨fun _ member => (List.not_mem_nil member).elim, rfl, .done⟩
  | cons name names ih =>
    obtain ⟨source, sources'⟩ := List.forall_mem_cons.mp sources
    rw [List.map_cons, compileFiles, Disk.run_bind] at ran
    generalize unit : (compileFile Disk.fileSystem options (Path.join options.path name)).run disk =
      step at ran
    obtain ⟨head, after⟩ := step
    cases failed : head.failure? with
    | some failure =>
      simp only [failed, Option.isSome_some, ↓reduceIte] at ran
      cases ran
      rw [failed] at noFailure
      cases noFailure
    | none =>
      simp only [failed, Option.isSome_none, Bool.false_eq_true, ↓reduceIte] at ran
      obtain ⟨comes, messages, written⟩ :=
        compileFile_of_run source (same.compiled List.mem_cons_self source) unit failed
      -- What was written has no name of a source, so the sources that are left are still those of `first`.
      have same' : SameSources options place names first disk :=
        ⟨same.begins, same.leads,
          fun other member => same.same other (List.mem_cons_of_mem _ member)⟩
      rw [Disk.run_bind] at ran
      generalize rest : (compileFiles Disk.fileSystem options
        (names.map (Path.join options.path))).run after = ended at ran
      obtain ⟨tail, last⟩ := ended
      cases ran
      obtain ⟨comes', messages', written'⟩ :=
        ih sources' (same'.after source sources' written) rest noFailure
      refine ⟨List.forall_mem_cons.mpr ⟨comes, comes'⟩, ?_, ?_⟩
      · simp only
        rw [messages, messages', List.flatMap_cons]
      · rw [List.flatMap_cons]
        exact written.append written'

end Jack
