import Jack.CommandLine.Run

namespace Jack

def SystemError.ofError : IO.Error → SystemError
  | .noFileOrDirectory _ _ _ => .notFound
  | .alreadyExists _ _ _ => .alreadyExists
  | .inappropriateType _ 20 _ => .notAFolder
  | .inappropriateType _ 21 _ => .isAFolder
  | .invalidArgument _ 36 _ => .nameTooLong
  | .permissionDenied _ code details => .other (withCode code details)
  | .resourceExhausted _ code details => .other (withCode code details)
  | error => .other (toString error)
where
  withCode (code : UInt32) (details : String) : String :=
    details ++ " (os error " ++ toString code ++ ")"

def tried {α : Type} (action : IO α) : IO (Except SystemError α) := do
  try return .ok (← action)
  catch error => return .error (.ofError error)

def triedAt {α : Type} (path : RawText) (action : String → IO α) : IO (Except SystemError α) :=
  match String.fromUTF8? path.toByteArray with
  | some text => tried (action text)
  | none => return .error .notFound

def entryAt (path : String) : IO.FS.DirEntry :=
  ⟨path, ""⟩

def kindAt? (path : RawText) : IO (Option IO.FS.FileType) := do
  match ← triedAt path fun text => (entryAt text).root.metadata with
  | .ok metadata => return some metadata.type
  | .error _ => return none

def machineFiles : FileSystem IO where
  isFile path := do return (← kindAt? path) matches some .file
  isFolder path := do return (← kindAt? path) matches some .dir
  names path := triedAt path fun text => do
    return (← (entryAt text).root.readDir).toList.map (.of ·.fileName)
  makeFolder path := triedAt path (IO.FS.createDir ·)
  readText path := do
    if (← kindAt? path) matches some .dir then return .error .isAFolder
    match ← triedAt path (IO.FS.readBinFile ·) with
    | .error error => return .error error
    | .ok bytes =>
      match String.fromUTF8? bytes with
      | some text => return .ok text
      | none => return .error .notText
  writeText path text := triedAt path (IO.FS.writeFile · text)

/-- The log of warnings, without the time of each. -/
def warnings (_ : Nat) : Event → String
  | .failed path => " WARN jackc: unit failed file=" ++ path.shown ++ "\n"
  | .compiled _ | .wrote _ | .finished _ _ => ""

end Jack

def main (arguments : List String) : IO UInt32 := do
  let outcome ← Jack.run Jack.machineFiles arguments
  IO.print outcome.output
  IO.eprint (outcome.errors Jack.warnings)
  return outcome.status.toUInt32
