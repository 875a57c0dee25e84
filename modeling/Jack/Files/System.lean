import Jack.Files.Path

namespace Jack

inductive SystemError where
  | notFound
  | alreadyExists
  | notAFolder
  | isAFolder
  | nameTooLong
  | notText
  | other (message : String)
deriving DecidableEq, Repr

def SystemError.message : SystemError → String
  | notFound => "No such file or directory (os error 2)"
  | alreadyExists => "File exists (os error 17)"
  | notAFolder => "Not a directory (os error 20)"
  | isAFolder => "Is a directory (os error 21)"
  | nameTooLong => "File name too long (os error 36)"
  | notText => "stream did not contain valid UTF-8"
  | other message => message

structure FileSystem (m : Type → Type) where
  isFile : RawText → m Bool
  isFolder : RawText → m Bool
  /-- The names in a folder, in any order. -/
  names : RawText → m (Except SystemError (List RawText))
  makeFolder : RawText → m (Except SystemError Unit)
  readText : RawText → m (Except SystemError String)
  writeText : RawText → String → m (Except SystemError Unit)

namespace FileSystem

variable {m : Type → Type} [Monad m]

/-- A folder that is there already is as good as a new one. -/
def orFolder (files : FileSystem m) (path : RawText) (made : Except SystemError Unit) :
    m (Except SystemError Unit) := do
  match made with
  | .ok () => return .ok ()
  | .error error => if ← files.isFolder path then return .ok () else return .error error

/-- Makes the first folder of a list, with as many of the later ones around it as are missing. -/
def makeFolders (files : FileSystem m) : List RawText → m (Except SystemError Unit)
  | [] => return .ok ()
  | path :: outer => do
    match ← files.makeFolder path with
    | .error .notFound =>
      match ← files.makeFolders outer with
      | .error error => return .error error
      | .ok () => files.orFolder path (← files.makeFolder path)
    | made => files.orFolder path made

end FileSystem

end Jack
