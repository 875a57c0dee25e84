import Jack.CommandLine.Arguments
import Jack.Compile
import Jack.Files.System
import Jack.Tree.Listing

namespace Jack

structure Failure where
  context : String
  cause? : Option SystemError
deriving DecidableEq, Repr

def Failure.report (failure : Failure) : String :=
  "Error: " ++ failure.context ++ "\n" ++
    match failure.cause? with
    | none => ""
    | some cause => "\nCaused by:\n    " ++ cause.message ++ "\n"

/-- What a run can log: all that is logged while a source is compiled, then how that ended. -/
inductive Event where
  | compiled (path : RawText)
  | failed (path : RawText)
  | wrote (path : RawText)
  | finished (units failed : Nat)
deriving DecidableEq, Repr

inductive Message where
  | logged (event : Event)
  | report (text : String)
  | failure (reason : Failure)
  | misuse (usage : String)
deriving DecidableEq, Repr

namespace Message

def report? : Message → Option String
  | report text => some text
  | logged _ | failure _ | misuse _ => none

def text (log : Event → String) : Message → String
  | logged event => log event
  | report text => text ++ "\n"
  | failure reason => reason.report
  | misuse usage => usage

end Message

structure Outcome where
  status : Nat
  output : String
  messages : List Message
deriving DecidableEq, Repr

/-- The text on the error stream. The log is not part of the program: it writes what it likes for
each message that it is given, and a line can tell the time, so it depends on the number of the
message too. -/
def Outcome.errors (outcome : Outcome) (log : Nat → Event → String) : String :=
  String.join (outcome.messages.mapIdx fun number message => message.text (log number))

structure Batch where
  messages : List Message
  failure? : Option Failure
deriving DecidableEq, Repr

namespace Batch

def reports (batch : Batch) : List String :=
  batch.messages.filterMap Message.report?

def finish (batch : Batch) (units : Nat) : Batch :=
  if batch.failure?.isSome then batch
  else { batch with
    messages := batch.messages ++ [.logged (.finished units batch.reports.length)] }

def outcome (batch : Batch) : Outcome :=
  match batch.failure? with
  | some failure => ⟨1, "", batch.messages ++ [.failure failure]⟩
  | none => ⟨if batch.reports.isEmpty then 0 else 1, "", batch.messages⟩

end Batch

def isSourceName (name : RawText) : Bool :=
  Path.extension? name == some (.of "jack")

def shownStem (name : RawText) : String :=
  (Path.stem name).shown

/-- The outputs asked for, each with its path. They go next to the source unless a folder is given. -/
def outputs (options : Options) (path : RawText) (compilation : Compilation) :
    List (RawText × String) :=
  let stem := ((Path.fileName? path).map shownStem).getD compilation.className
  let folder := options.outDir?.getD (Path.parent path)
  let style : ListingStyle := { annotate := !options.plain }
  let vm := if options.noVm then [] else [(stem ++ ".vm", compilation.vm)]
  let tree := if options.xml then [(stem ++ ".xml", compilation.tree.listing style)] else []
  let tokens :=
    if options.tokens then [(stem ++ "T.xml", tokenListing compilation.tokens)] else []
  (vm ++ tree ++ tokens).map fun (name, text) => (Path.join folder (.of name), text)

section

variable {m : Type → Type} [Monad m]

/-- The sources a path stands for: itself if it is a file, else those in the folder, by name. -/
def sources (files : FileSystem m) (path : RawText) : m (Except Failure (List RawText)) := do
  if ← files.isFile path then return .ok [path]
  match ← files.names path with
  | .error error => return .error ⟨"failed to read " ++ path.shown, some error⟩
  | .ok names =>
    let sorted := (names.filter isSourceName).mergeSort fun a b => decide (a ≤ b)
    if sorted.isEmpty then return .error ⟨"no .jack files found at " ++ path.shown, none⟩
    return .ok (sorted.map (Path.join path))

def writeOutputs (files : FileSystem m) : List (RawText × String) → m Batch
  | [] => return ⟨[], none⟩
  | (path, text) :: later => do
    match ← files.writeText path text with
    | .error error => return ⟨[], some ⟨"failed to write " ++ path.shown, some error⟩⟩
    | .ok () =>
      let rest ← writeOutputs files later
      return { rest with messages := .logged (.wrote path) :: rest.messages }

def compileFile (files : FileSystem m) (options : Options) (path : RawText) : m Batch := do
  match ← files.readText path with
  | .error error => return ⟨[], some ⟨"failed to read " ++ path.shown, some error⟩⟩
  | .ok source =>
    match compile source ((Path.fileName? path).map RawText.shown) with
    | .error diagnostic =>
      return ⟨[.logged (.compiled path), .report (diagnostic.report source),
        .logged (.failed path)], none⟩
    | .ok compilation =>
      let rest ← writeOutputs files (outputs options path compilation)
      return { rest with messages := .logged (.compiled path) :: rest.messages }

/-- Compiles sources in order. Only a failure of the file system keeps the later ones from being
compiled. -/
def compileFiles (files : FileSystem m) (options : Options) : List RawText → m Batch
  | [] => return ⟨[], none⟩
  | path :: paths => do
    let first ← compileFile files options path
    if first.failure?.isSome then return first
    let rest ← compileFiles files options paths
    return { rest with messages := first.messages ++ rest.messages }

def makeOutDir (files : FileSystem m) : Option RawText → m (Option Failure)
  | none => return none
  | some folder => do
    match ← files.makeFolders (Path.ancestors folder) with
    | .ok () => return none
    | .error error => return some ⟨"failed to create " ++ folder.shown, some error⟩

def compileAll (files : FileSystem m) (options : Options) : m Batch := do
  match ← sources files options.path with
  | .error failure => return ⟨[], some failure⟩
  | .ok paths =>
    match ← makeOutDir files options.outDir? with
    | some failure => return ⟨[], some failure⟩
    | none => return (← compileFiles files options paths).finish paths.length

def versionText : String :=
  "jackc 0.1.0\n"

def usageText : String :=
  "Usage: jackc [--xml] [--tokens] [--no-vm] [--plain] [--out-dir <DIR>] <PATH>\n"

def runWith (files : FileSystem m) (options : Options) : m Outcome := do
  return (← compileAll files options).outcome

def run (files : FileSystem m) (arguments : List String) : m Outcome := do
  match readArguments arguments with
  | .version => return ⟨0, versionText, []⟩
  | .help => return ⟨0, usageText, []⟩
  | .misuse => return ⟨2, "", [.misuse usageText]⟩
  | .run options => runWith files options

end

end Jack
