import Jack.Files.System
import Std.Data.TreeMap.Basic

namespace Jack

inductive Entry where
  | folder
  | file (bytes : ByteArray)

instance : DecidableEq Entry
  | .folder, .folder => isTrue rfl
  | .folder, .file _ | .file _, .folder => isFalse nofun
  | .file bytes, .file others =>
    match ByteArray.instDecidableEq bytes others with
    | isTrue same => isTrue (congrArg Entry.file same)
    | isFalse differ => isFalse fun same => differ (Entry.file.inj same)

/-- What stands at each place below the root, where a place is the names that lead to it. The root
is always a folder. -/
structure Disk where
  entries : Std.TreeMap (List RawText) Entry
  here : List RawText

namespace Disk

def at? (disk : Disk) (place : List RawText) : Option Entry :=
  match place with
  | [] => some .folder
  | _ :: _ => disk.entries[place]?

def put (disk : Disk) (place : List RawText) (entry : Entry) : Disk :=
  { disk with entries := disk.entries.insert place entry }

def putWithFolders (disk : Disk) (place : List RawText) (entry : Entry) : Disk :=
  let around := (List.range place.length).tail.map fun n => place.take n
  (around.foldl (fun disk place => disk.put place .folder) disk).put place entry

def empty (here : RawText) : Disk :=
  (Disk.mk ∅ [here]).put [here] .folder

def step (place : List RawText) (part : RawText) : List RawText :=
  if Path.staysPut part then place
  else if part == Path.back then place.dropLast
  else place ++ [part]

/-- Follows the parts of a path. Every place that is left on the way has to be a folder, and no
folder looks up a name that is too long. -/
def follow (disk : Disk) (place : List RawText) : List RawText → Except SystemError (List RawText)
  | [] => .ok place
  | part :: parts =>
    match disk.at? place with
    | some .folder =>
      if Path.isNameTooLong part then .error .nameTooLong else disk.follow (step place part) parts
    | some (.file _) => .error .notAFolder
    | none => .error .notFound

def locate (disk : Disk) (path : RawText) : Except SystemError (List RawText) :=
  if Path.isTooLong path then .error .nameTooLong
  else if Path.isAbsolute path then disk.follow [] (Path.parts path)
  else if path.isEmpty then .error .notFound
  else disk.follow disk.here (Path.parts path)

def entry (disk : Disk) (path : RawText) : Except SystemError Entry := do
  match disk.at? (← disk.locate path) with
  | some entry => .ok entry
  | none => .error .notFound

def isFile (disk : Disk) (path : RawText) : Bool :=
  match disk.entry path with
  | .ok (.file _) => true
  | _ => false

def isFolder (disk : Disk) (path : RawText) : Bool :=
  match disk.entry path with
  | .ok .folder => true
  | _ => false

def namesAt (disk : Disk) (place : List RawText) : List RawText :=
  disk.entries.toList.filterMap fun (other, _) =>
    if other.dropLast = place then other.getLast? else none

def names (disk : Disk) (path : RawText) : Except SystemError (List RawText) := do
  let place ← disk.locate path
  match disk.at? place with
  | some .folder => .ok (disk.namesAt place)
  | some (.file _) => .error .notAFolder
  | none => .error .notFound

/-- Slashes at the end do not ask for a folder that is still to be made, though they count for the
length of the path. -/
def makeFolder (disk : Disk) (path : RawText) : Except SystemError Disk := do
  if Path.isTooLong path then throw .nameTooLong
  let place ← disk.locate (trimSlashes path)
  match disk.at? place with
  | some _ => .error .alreadyExists
  | none => .ok (disk.put place .folder)
where
  trimSlashes (path : RawText) : RawText :=
    match (path.reverse.dropWhile (· == Path.slash)).reverse with
    | [] => path
    | kept => kept

def readText (disk : Disk) (path : RawText) : Except SystemError String := do
  match ← disk.entry path with
  | .folder => .error .isAFolder
  | .file bytes =>
    match String.fromUTF8? bytes with
    | some text => .ok text
    | none => .error .notText

def writeText (disk : Disk) (path : RawText) (text : String) : Except SystemError Disk := do
  let place ← disk.locate path
  match disk.at? place with
  | some .folder => .error .isAFolder
  | _ => .ok (disk.put place (.file text.toUTF8))

def change (changed : Disk → Except SystemError Disk) : StateM Disk (Except SystemError Unit) := do
  match changed (← get) with
  | .ok disk =>
    set disk
    return .ok ()
  | .error error => return .error error

def fileSystem : FileSystem (StateM Disk) where
  isFile path := do return (← get).isFile path
  isFolder path := do return (← get).isFolder path
  names path := do return (← get).names path
  makeFolder path := change (·.makeFolder path)
  readText path := do return (← get).readText path
  writeText path text := change (·.writeText path text)

end Disk

end Jack
