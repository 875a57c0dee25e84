import Jack.Files.Disk
import Jack.Proofs.Files.Path

namespace Jack.Disk

variable {disk disk' disk'' : Disk} {place place' other base : List RawText} {entry : Entry}
  {folder name path : RawText} {text : String}

theorem at?_put (disk : Disk) (entry : Entry) (inside : place ≠ []) (other : List RawText) :
    (disk.put place entry).at? other = if place = other then some entry else disk.at? other := by
  cases other with
  | nil => rw [if_neg inside, at?, at?]
  | cons part parts =>
    rw [at?, at?, put, Std.TreeMap.getElem?_insert]
    simp only [Std.LawfulEqCmp.compare_eq_iff_eq]

structure Keeps (disk disk' : Disk) : Prop where
  here : disk'.here = disk.here
  folders : ∀ place, disk.at? place = some .folder → disk'.at? place = some .folder

theorem Keeps.refl (disk : Disk) : disk.Keeps disk :=
  ⟨rfl, fun _ => id⟩

theorem Keeps.trans (first : disk.Keeps disk') (later : disk'.Keeps disk'') :
    disk.Keeps disk'' where
  here := later.here.trans first.here
  folders place found := later.folders place (first.folders place found)

theorem keeps_put (entry : Entry) (inside : place ≠ []) (free : disk.at? place ≠ some .folder) :
    disk.Keeps (disk.put place entry) where
  here := rfl
  folders other found := by
    have apart : place ≠ other := by
      rintro rfl
      exact free found
    rw [at?_put disk entry inside, if_neg apart, found]

theorem Keeps.follow (keeps : disk.Keeps disk') {parts : List RawText}
    (followed : disk.follow place parts = .ok place') : disk'.follow place parts = .ok place' := by
  induction parts generalizing place with
  | nil => exact followed
  | cons part parts ih =>
    rw [Disk.follow] at followed ⊢
    split at followed
    · rename_i found
      rw [keeps.folders _ found]
      split at followed
      · cases followed
      · rename_i short
        simp only [short, Bool.false_eq_true, ↓reduceIte]
        exact ih followed
    · cases followed
    · cases followed

theorem follow_append (disk : Disk) (place first later : List RawText) :
    disk.follow place (first ++ later) =
      (disk.follow place first).bind fun place' => disk.follow place' later := by
  induction first generalizing place with
  | nil => rfl
  | cons part first ih =>
    rw [List.cons_append, follow, follow]
    split
    · split
      · rfl
      · exact ih (step place part)
    · rfl
    · rfl

def start (disk : Disk) (path : RawText) : List RawText :=
  if Path.isAbsolute path then [] else disk.here

structure LeadsTo (disk : Disk) (folder : RawText) (base : List RawText) : Prop where
  followed : disk.follow (disk.start folder) (Path.leading folder) = .ok base
  isFolder : disk.at? base = some .folder

theorem LeadsTo.keeps (leads : disk.LeadsTo folder base) (keeps : disk.Keeps disk') :
    disk'.LeadsTo folder base where
  followed := by
    rw [start, keeps.here]
    exact keeps.follow leads.followed
  isFolder := keeps.folders base leads.isFolder

def IsShort (folder name : RawText) : Prop :=
  Path.isTooLong (Path.join folder name) = false ∧ Path.isNameTooLong name = false

theorem locate_join (proper : Path.NamesEntry name)
    (short : Path.isTooLong (Path.join folder name) = false) :
    disk.locate (Path.join folder name) =
      (disk.follow (disk.start folder) (Path.leading folder)).bind (disk.follow · [name]) := by
  rw [locate, short, Path.isAbsolute_join proper, List.isEmpty_eq_false_iff.mpr (Path.join_ne_nil proper),
    Path.parts_join proper.whole, follow_append, follow_append, start]
  by_cases absolute : Path.isAbsolute folder
  · simp [absolute]
  · simp [absolute]

theorem step_of_namesEntry (proper : Path.NamesEntry name) : step base name = base ++ [name] := by
  rw [step, if_neg (by simp [proper.moves]), if_neg (by simpa using proper.notBack)]

theorem follow_name_iff (proper : Path.NamesEntry name) :
    disk.follow base [name] = .ok place ↔
      disk.at? base = some .folder ∧ Path.isNameTooLong name = false ∧ place = base ++ [name] := by
  rw [follow]
  cases found : disk.at? base with
  | none => simp
  | some entry =>
    cases entry with
    | file bytes => simp
    | folder =>
      cases long : Path.isNameTooLong name with
      | true => simp
      | false => simp [follow, step_of_namesEntry proper, eq_comm]

theorem LeadsTo.locate (leads : disk.LeadsTo folder base) (proper : Path.NamesEntry name)
    (short : IsShort folder name) : disk.locate (Path.join folder name) = .ok (base ++ [name]) := by
  rw [locate_join proper short.1, leads.followed]
  exact (follow_name_iff proper).mpr ⟨leads.isFolder, short.2, rfl⟩

theorem LeadsTo.locate_of_long (leads : disk.LeadsTo folder base) (proper : Path.NamesEntry name)
    (long : ¬ IsShort folder name) :
    disk.locate (Path.join folder name) = .error .nameTooLong := by
  cases path : Path.isTooLong (Path.join folder name) with
  | true => rw [Disk.locate, if_pos path]
  | false =>
    have part : Path.isNameTooLong name = true :=
      (Bool.not_eq_false _).mp fun short => long ⟨path, short⟩
    rw [locate_join proper path, leads.followed]
    simp [Except.bind, follow, leads.isFolder, part]

theorem locate_join_iff (proper : Path.NamesEntry name) :
    disk.locate (Path.join folder name) = .ok place ↔
      IsShort folder name ∧ ∃ base, disk.LeadsTo folder base ∧ place = base ++ [name] := by
  constructor
  · intro located
    cases long : Path.isTooLong (Path.join folder name) with
    | true =>
      rw [Disk.locate, if_pos long] at located
      cases located
    | false =>
      rw [locate_join proper long] at located
      cases followed : disk.follow (disk.start folder) (Path.leading folder) with
      | error error =>
        rw [followed] at located
        cases located
      | ok base =>
        rw [followed] at located
        obtain ⟨isFolder, short, same⟩ := (follow_name_iff proper).mp located
        exact ⟨⟨long, short⟩, base, ⟨followed, isFolder⟩, same⟩
  · rintro ⟨short, base, leads, rfl⟩
    exact leads.locate proper short

theorem followed_of_locate (located : disk.locate path = .ok place) :
    path ≠ [] ∧ disk.follow (disk.start path) (Path.parts path) = .ok place := by
  rw [locate] at located
  rw [start]
  split at located
  · cases located
  · split at located
    · rename_i absolute
      rw [if_pos absolute]
      refine ⟨?_, located⟩
      rintro rfl
      cases absolute
    · rename_i relative
      rw [if_neg relative]
      split at located
      · cases located
      · rename_i given
        exact ⟨fun empty => given (List.isEmpty_iff.mpr empty), located⟩

theorem leadsTo_of_locate (located : disk.locate folder = .ok place)
    (isFolder : disk.at? place = some .folder) : disk.LeadsTo folder place := by
  obtain ⟨given, followed⟩ := followed_of_locate located
  rcases Path.parts_eq_leading given with same | same
  · exact ⟨same ▸ followed, isFolder⟩
  · rw [same, follow_append] at followed
    cases leads : disk.follow (disk.start folder) (Path.leading folder) with
    | error error =>
      rw [leads] at followed
      cases followed
    | ok base =>
      -- a slash at the end asks for the folder itself
      have stays : disk.follow base [[]] = .ok place := by rwa [leads] at followed
      rw [follow] at stays
      split at stays
      · obtain rfl : base = place := Except.ok.inj stays
        exact ⟨leads, isFolder⟩
      · cases stays
      · cases stays

theorem readText_of_error {error : SystemError} (failed : disk.locate path = .error error) :
    disk.readText path = .error error := by
  rw [readText, Disk.entry, failed]
  rfl

theorem readText_of_file (located : disk.locate path = .ok place)
    (found : disk.at? place = some (.file text.toUTF8)) : disk.readText path = .ok text := by
  have decoded : String.fromUTF8? text.toUTF8 = some text := by
    exact dif_pos text.isValidUTF8
  simp only [readText, Disk.entry, located, found, decoded, bind, Except.bind]

theorem readText_congr (proper : Path.NamesEntry name) (leads : disk.LeadsTo folder base)
    (leads' : disk'.LeadsTo folder base)
    (same : disk'.at? (base ++ [name]) = disk.at? (base ++ [name])) :
    disk'.readText (Path.join folder name) = disk.readText (Path.join folder name) := by
  by_cases short : IsShort folder name
  · simp only [readText, Disk.entry, leads.locate proper short, leads'.locate proper short, bind,
      Except.bind, same]
  · rw [readText_of_error (leads.locate_of_long proper short),
      readText_of_error (leads'.locate_of_long proper short)]

theorem writeText_eq_ok_iff : disk.writeText path text = .ok disk' ↔
    ∃ place, disk.locate path = .ok place ∧ disk.at? place ≠ some .folder ∧
      disk' = disk.put place (.file text.toUTF8) := by
  cases located : disk.locate path with
  | error error => simp [writeText, located, bind, Except.bind]
  | ok place =>
    simp only [writeText, located, bind, Except.bind]
    split
    · rename_i isFolder
      simp [isFolder]
    · rename_i free
      constructor
      · intro same
        exact ⟨place, rfl, free, (Except.ok.inj same).symm⟩
      · rintro ⟨other, same, _, rfl⟩
        cases same
        rfl

end Jack.Disk
