import Jack.Proofs.Files.Disk

namespace Jack.Disk

variable {disk disk' disk'' : Disk} {place base : List RawText} {folder name path : RawText} {text : String}

theorem ne_root (free : disk.at? place ≠ some .folder) : place ≠ [] := by
  rintro rfl
  exact free rfl

theorem run_bind {α β : Type} (action : StateM Disk α) (next : α → StateM Disk β) (disk : Disk) :
    (action >>= next).run disk = (next (action.run disk).1).run (action.run disk).2 := rfl

theorem run_isFile (path : RawText) (disk : Disk) :
    (fileSystem.isFile path).run disk = (disk.isFile path, disk) := rfl

theorem run_names (path : RawText) (disk : Disk) :
    (fileSystem.names path).run disk = (disk.names path, disk) := rfl

theorem run_readText (path : RawText) (disk : Disk) :
    (fileSystem.readText path).run disk = (disk.readText path, disk) := rfl

theorem run_change (changed : Disk → Except SystemError Disk) (disk : Disk) :
    (change changed).run disk =
      match changed disk with
      | .ok disk' => (.ok (), disk')
      | .error error => (.error error, disk) := by
  rw [change, run_bind]
  show StateT.run (match changed disk with
    | .ok disk => _
    | .error error => _) disk = _
  cases changed disk <;> rfl

inductive Written (folder : RawText) : List (RawText × String) → Disk → Disk → Prop where
  | done {disk : Disk} : Written folder [] disk disk
  | write {name : RawText} {text : String} {place : List RawText} {later : List (RawText × String)}
    {disk disk' : Disk} (located : disk.locate (Path.join folder name) = .ok place)
    (free : disk.at? place ≠ some .folder)
    (rest : Written folder later (disk.put place (.file text.toUTF8)) disk') :
    Written folder ((name, text) :: later) disk disk'

namespace Written

variable {outputs first later : List (RawText × String)}

theorem append (written : Written folder first disk disk')
    (written' : Written folder later disk' disk'') :
    Written folder (first ++ later) disk disk'' := by
  induction written with
  | done => exact written'
  | write located free _ ih => exact .write located free (ih written')

theorem keeps (written : Written folder outputs disk disk') : disk.Keeps disk' := by
  induction written with
  | done => exact .refl _
  | write located free _ ih => exact (keeps_put _ (ne_root free) free).trans ih

theorem at?_eq_or (written : Written folder outputs disk disk')
    (proper : ∀ output ∈ outputs, Path.NamesEntry output.1) (place : List RawText) :
    disk'.at? place = disk.at? place ∨
      ∃ output ∈ outputs, disk'.locate (Path.join folder output.1) = .ok place ∧
        disk'.at? place = some (.file output.2.toUTF8) := by
  induction written with
  | done => exact .inl rfl
  | @write name text written later disk disk' located free rest ih =>
    obtain ⟨properName, properLater⟩ := List.forall_mem_cons.mp proper
    rcases ih properLater with same | ⟨output, member, located', found⟩
    · rw [at?_put disk _ (ne_root free)] at same
      by_cases here : written = place
      · subst here
        rw [if_pos rfl] at same
        obtain ⟨short, base, leads, rfl⟩ := (locate_join_iff properName).mp located
        have leads' := leads.keeps ((keeps_put _ (ne_root free) free).trans rest.keeps)
        exact .inr ⟨_, List.mem_cons_self, leads'.locate properName short, same⟩
      · rw [if_neg here] at same
        exact .inl same
    · exact .inr ⟨output, List.mem_cons_of_mem _ member, located', found⟩

theorem at?_of_notMem (written : Written folder outputs disk disk')
    (proper : ∀ output ∈ outputs, Path.NamesEntry output.1)
    (apart : ∀ output ∈ outputs, output.1 ≠ name)
    (base : List RawText) : disk'.at? (base ++ [name]) = disk.at? (base ++ [name]) := by
  rcases written.at?_eq_or proper (base ++ [name]) with same | ⟨output, member, located, _⟩
  · exact same
  · obtain ⟨_, base', _, same⟩ := (locate_join_iff (proper _ member)).mp located
    have last := (List.append_inj' same rfl).2
    exact absurd (List.singleton_inj.mp last).symm (apart output member)

theorem readText (written : Written folder (first ++ (name, text) :: later) disk disk')
    (proper : ∀ output ∈ first ++ (name, text) :: later, Path.NamesEntry output.1)
    (last : ∀ output ∈ later, output.1 ≠ name) :
    disk'.readText (Path.join folder name) = .ok text := by
  induction first generalizing disk with
  | nil =>
    obtain ⟨properName, properLater⟩ := List.forall_mem_cons.mp proper
    cases written with
    | write located free rest =>
      obtain ⟨short, base, leads, rfl⟩ := (locate_join_iff properName).mp located
      have keeps := (keeps_put (.file text.toUTF8) (ne_root free) free).trans rest.keeps
      have found := rest.at?_of_notMem properLater last base
      rw [at?_put disk _ (ne_root free), if_pos rfl] at found
      exact readText_of_file ((leads.keeps keeps).locate properName short) found
  | cons output first ih =>
    cases written with
    | write _ _ rest => exact ih rest (List.forall_mem_cons.mp proper).2

end Written

/-- Folders are made where nothing was. -/
structure Widens (disk disk' : Disk) : Prop where
  here : disk'.here = disk.here
  at? : ∀ place, disk'.at? place = disk.at? place ∨
    disk.at? place = none ∧ disk'.at? place = some .folder

theorem Widens.refl (disk : Disk) : disk.Widens disk :=
  ⟨rfl, fun _ => .inl rfl⟩

theorem Widens.trans (first : disk.Widens disk') (later : disk'.Widens disk'') :
    disk.Widens disk'' where
  here := later.here.trans first.here
  at? place := by
    rcases later.at? place with same | ⟨absent, made⟩
    · rw [same]
      exact first.at? place
    · rcases first.at? place with same | ⟨_, made'⟩
      · exact .inr ⟨same ▸ absent, made⟩
      · rw [made'] at absent
        cases absent

theorem Widens.at?_of_some {entry : Entry} (widens : disk.Widens disk')
    (found : disk.at? place = some entry) : disk'.at? place = some entry := by
  rcases widens.at? place with same | ⟨absent, _⟩
  · rw [same, found]
  · rw [found] at absent
    cases absent

theorem Widens.keeps (widens : disk.Widens disk') : disk.Keeps disk' :=
  ⟨widens.here, fun _ => widens.at?_of_some⟩

theorem widens_of_makeFolder (made : disk.makeFolder path = .ok disk') : disk.Widens disk' := by
  simp only [makeFolder, bind, Except.bind] at made
  split at made
  · cases made
  · split at made
    · cases made
    · rename_i place _
      split at made
      · cases made
      · rename_i absent
        cases made
        have free : disk.at? place ≠ some .folder := by simp [absent]
        refine ⟨rfl, fun other => ?_⟩
        rw [at?_put disk _ (ne_root free)]
        by_cases here : place = other
        · subst here
          rw [if_pos rfl]
          exact .inr ⟨absent, rfl⟩
        · rw [if_neg here]
          exact .inl rfl

def OnlyWidens {α : Type} (action : StateM Disk α) : Prop :=
  ∀ disk : Disk, disk.Widens (action.run disk).2

namespace OnlyWidens

variable {α β : Type} {action : StateM Disk α} {next : α → StateM Disk β}

theorem pure (value : α) : OnlyWidens (pure value) :=
  fun disk => .refl disk

theorem bind (first : OnlyWidens action) (later : ∀ value, OnlyWidens (next value)) :
    OnlyWidens (action >>= next) :=
  fun disk => (first disk).trans (later (action.run disk).1 (action.run disk).2)

theorem makeFolder (path : RawText) : OnlyWidens (fileSystem.makeFolder path) := by
  intro disk
  rw [show fileSystem.makeFolder path = change (·.makeFolder path) from rfl, run_change]
  split
  · rename_i made
    exact widens_of_makeFolder made
  · exact .refl disk

theorem orFolder (path : RawText) (made : Except SystemError Unit) :
    OnlyWidens (fileSystem.orFolder path made) := by
  cases made with
  | ok done => exact pure _
  | error error =>
    refine bind (fun disk => .refl disk) fun isFolder => ?_
    cases isFolder with
    | true => exact pure _
    | false => exact pure _

theorem makeFolders (paths : List RawText) : OnlyWidens (fileSystem.makeFolders paths) := by
  induction paths with
  | nil => exact pure _
  | cons path outer ih =>
    refine bind (makeFolder path) fun made => ?_
    split
    · refine bind ih fun around => ?_
      cases around with
      | error error => exact pure _
      | ok done => exact bind (makeFolder path) (orFolder path)
    · exact orFolder path made

end OnlyWidens

end Jack.Disk
