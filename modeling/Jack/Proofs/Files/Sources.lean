import Jack.Proofs.Files.Units
import Mathlib.Data.List.Nodup

namespace Jack

namespace Disk

variable {disk : Disk} {place : List RawText} {name : RawText}

theorem at?_concat (disk : Disk) (place : List RawText) (name : RawText) :
    disk.at? (place ++ [name]) = disk.entries[place ++ [name]]? := by
  cases place <;> rfl

theorem namesAt_eq (disk : Disk) (place : List RawText) :
    disk.namesAt place = disk.entries.keys.filterMap fun other =>
      if other.dropLast = place then other.getLast? else none := by
  rw [namesAt, ← Std.TreeMap.map_fst_toList_eq_keys, List.filterMap_map]
  rfl

theorem named_iff {other : List RawText} :
    (if other.dropLast = place then other.getLast? else none) = some name ↔
      other = place ++ [name] := by
  constructor
  · intro named
    split at named
    · rename_i same
      obtain ⟨before, rfl⟩ := List.getLast?_eq_some_iff.mp named
      rw [List.dropLast_concat] at same
      rw [same]
    · cases named
  · rintro rfl
    rw [List.dropLast_concat, if_pos rfl, List.getLast?_concat]

theorem nodup_namesAt (disk : Disk) (place : List RawText) : (disk.namesAt place).Nodup := by
  rw [namesAt_eq]
  apply List.Nodup.filterMap
  · intro other other' name named named'
    exact (named_iff.mp named).trans (named_iff.mp named').symm
  · exact Std.TreeMap.nodup_keys

theorem exists_of_mem_namesAt (member : name ∈ disk.namesAt place) :
    ∃ entry, disk.at? (place ++ [name]) = some entry := by
  rw [namesAt_eq] at member
  obtain ⟨other, key, named⟩ := List.mem_filterMap.mp member
  obtain rfl := named_iff.mp named
  rw [at?_concat]
  exact Option.isSome_iff_exists.mp (by simpa using key)

def sourceNames (disk : Disk) (place : List RawText) : List RawText :=
  ((disk.namesAt place).filter isSourceName).mergeSort fun a b => decide (a ≤ b)

theorem mem_sourceNames :
    name ∈ disk.sourceNames place ↔ name ∈ disk.namesAt place ∧ isSourceName name := by
  rw [sourceNames, List.mem_mergeSort, List.mem_filter]

theorem isSource_of_mem (whole : ∀ name ∈ disk.namesAt place, Path.slash ∉ name)
    (member : name ∈ disk.sourceNames place) : IsSource name :=
  have ⟨named, source⟩ := mem_sourceNames.mp member
  ⟨source, whole name named⟩

theorem sorted_sourceNames (disk : Disk) (place : List RawText) :
    (disk.sourceNames place).Pairwise (· < ·) := by
  have ordered : (disk.sourceNames place).Pairwise fun a b => decide (a ≤ b) :=
    List.pairwise_mergeSort (by simpa using fun _ _ _ => List.le_trans)
      (by simpa using List.le_total) _
  have apart : (disk.sourceNames place).Nodup :=
    (List.mergeSort_perm _ _).nodup_iff.mpr ((disk.nodup_namesAt place).filter _)
  apply (ordered.and apart).imp
  rintro a b ⟨le, ne⟩
  exact Std.lt_of_le_of_ne (of_decide_eq_true le) ne

end Disk

open Disk

theorem run_sources {disk : Disk} {path : RawText} {place : List RawText}
    (located : disk.locate path = .ok place) (isFolder : disk.at? place = some .folder) :
    (sources fileSystem path).run disk =
      (if (disk.sourceNames place).isEmpty then
          .error ⟨"no .jack files found at " ++ path.shown, none⟩
        else .ok ((disk.sourceNames place).map (Path.join path)), disk) := by
  have notFile : disk.isFile path = false := by
    simp [isFile, Disk.entry, located, isFolder, bind, Except.bind]
  have names : disk.names path = .ok (disk.namesAt place) := by
    simp [Disk.names, located, isFolder, bind, Except.bind]
  rw [sources, run_bind, run_isFile, notFile, if_neg Bool.false_ne_true, run_bind, run_names, names]
  show StateT.run (if (disk.sourceNames place).isEmpty then _ else _) disk = _
  cases (disk.sourceNames place).isEmpty <;> rfl

theorem widens_of_makeOutDir {disk disk' : Disk} {outDir? : Option RawText}
    (ran : (makeOutDir fileSystem outDir?).run disk = (none, disk')) :
    disk.Widens disk' ∧ (outDir? = none → disk' = disk) := by
  cases outDir? with
  | none =>
    cases ran
    exact ⟨.refl disk, fun _ => rfl⟩
  | some folder =>
    have widens := OnlyWidens.makeFolders (Path.ancestors folder) disk
    rw [makeOutDir, run_bind] at ran
    generalize (fileSystem.makeFolders (Path.ancestors folder)).run disk = made at ran widens
    obtain ⟨result, after⟩ := made
    cases result with
    | error error => cases ran
    | ok done =>
      cases ran
      exact ⟨widens, nofun⟩

theorem failure?_finish (batch : Batch) (units : Nat) :
    (batch.finish units).failure? = batch.failure? := by
  rw [Batch.finish]
  split <;> rfl

theorem messages_finish {batch : Batch} (noFailure : batch.failure? = none) (units : Nat) :
    (batch.finish units).messages =
      batch.messages ++ [.logged (.finished units batch.reports.length)] := by
  rw [Batch.finish, noFailure]
  rfl

theorem compileAll_of_run {options : Options} {disk disk' : Disk} {place : List RawText}
    {batch : Batch} (located : disk.locate options.path = .ok place)
    (isFolder : disk.at? place = some .folder)
    (whole : ∀ name ∈ disk.namesAt place, Path.slash ∉ name)
    (ran : (compileAll fileSystem options).run disk = (batch, disk'))
    (noFailure : batch.failure? = none) :
    (∀ name ∈ disk.sourceNames place, ∃ result, disk.compiled options.path name = .ok result) ∧
      batch.messages = (disk.sourceNames place).flatMap (disk.messages options) ++
        [.logged (.finished (disk.sourceNames place).length
          ((disk.sourceNames place).filterMap (disk.report? options.path)).length)] ∧
      ∃ wide, disk.Widens wide ∧ (options.outDir? = none → wide = disk) ∧
        Written options.target ((disk.sourceNames place).flatMap (disk.written options)) wide
          disk' := by
  rw [compileAll, run_bind, run_sources located isFolder] at ran
  by_cases empty : (disk.sourceNames place).isEmpty
  · rw [if_pos empty] at ran
    cases ran
    cases noFailure
  · rw [if_neg empty] at ran
    simp only [run_bind] at ran
    generalize made : (makeOutDir fileSystem options.outDir?).run disk = result at ran
    obtain ⟨failure?, wide⟩ := result
    cases failure? with
    | some failure =>
      cases ran
      cases noFailure
    | none =>
      obtain ⟨widens, same⟩ := widens_of_makeOutDir made
      have sources : ∀ name ∈ disk.sourceNames place, IsSource name :=
        fun _ => isSource_of_mem whole
      have leads := leadsTo_of_locate located isFolder
      -- The folder of the outputs is made where nothing was, so all sources are where they were.
      have start : SameSources options place (disk.sourceNames place) disk wide := by
        refine ⟨leads, leads.keeps widens.keeps, fun name member => ?_⟩
        obtain ⟨entry, found⟩ := exists_of_mem_namesAt (mem_sourceNames.mp member).1
        rw [found, widens.at?_of_some found]
      dsimp only at ran
      rw [run_bind] at ran
      generalize compiled : (compileFiles fileSystem options
        ((disk.sourceNames place).map (Path.join options.path))).run wide = ended at ran
      obtain ⟨units, last⟩ := ended
      cases ran
      rw [failure?_finish] at noFailure
      obtain ⟨comes, messages, written⟩ := compileFiles_of_run sources start compiled noFailure
      refine ⟨comes, ?_, wide, widens, same, written⟩
      rw [messages_finish noFailure, Batch.reports, messages, reports_messages, List.length_map]

end Jack
