import Jack.Text.Raw

namespace Jack

structure Options where
  path : RawText
  xml : Bool
  tokens : Bool
  noVm : Bool
  plain : Bool
  outDir? : Option RawText
deriving DecidableEq, Repr

inductive Request where
  | run (options : Options)
  | version
  | help
  | misuse
deriving DecidableEq, Repr

structure PartialOptions where
  path? : Option RawText := none
  xml : Bool := false
  tokens : Bool := false
  noVm : Bool := false
  plain : Bool := false
  outDir? : Option RawText := none
deriving DecidableEq, Repr

namespace PartialOptions

def finish (options : PartialOptions) : Request :=
  match options.path? with
  | none => .misuse
  | some path =>
    .run ⟨path, options.xml, options.tokens, options.noVm, options.plain, options.outDir?⟩

def withPath? (options : PartialOptions) (path : String) : Option PartialOptions :=
  if options.path?.isNone && path != "" then some { options with path? := some (.of path) } else none

def withOutDir? (options : PartialOptions) (folder : String) : Option PartialOptions :=
  if options.outDir?.isNone && folder != "" then some { options with outDir? := some (.of folder) }
  else none

def withSwitch? (options : PartialOptions) : String → Option PartialOptions
  | "--xml" => if options.xml then none else some { options with xml := true }
  | "--tokens" => if options.tokens then none else some { options with tokens := true }
  | "--no-vm" => if options.noVm then none else some { options with noVm := true }
  | "--plain" => if options.plain then none else some { options with plain := true }
  | _ => none

end PartialOptions

def outDirWord : String :=
  "--out-dir"

def isFlagWord (word : String) : Bool :=
  word.startsWith "-" && word != "-"

def attachedOutDir? (word : String) : Option String :=
  if word.startsWith (outDirWord ++ "=") then
    some (String.ofList (word.toList.drop (outDirWord.length + 1)))
  else none

/-- Words after a double dash are paths, whatever they look like. -/
def readPaths (options : PartialOptions) : List String → Request
  | [] => options.finish
  | word :: words =>
    match options.withPath? word with
    | some options => readPaths options words
    | none => .misuse

/-- Reads words from left to right; the first that is wrong, or that asks for the version or for
help, decides. -/
def readWords (options : PartialOptions) : List String → Request
  | [] => options.finish
  | word :: words =>
    if !isFlagWord word then
      match options.withPath? word with
      | some options => readWords options words
      | none => .misuse
    else if word = "--" then readPaths options words
    else if word = "--version" || word.startsWith "-V" then .version
    else if word = "--help" || word.startsWith "-h" then .help
    else if word = outDirWord then
      match words with
      | [] => .misuse
      | folder :: words =>
        if isFlagWord folder then .misuse
        else match options.withOutDir? folder with
          | some options => readWords options words
          | none => .misuse
    else match attachedOutDir? word with
      | some folder =>
        match options.withOutDir? folder with
        | some options => readWords options words
        | none => .misuse
      | none =>
        match options.withSwitch? word with
        | some options => readWords options words
        | none => .misuse

def readArguments (words : List String) : Request :=
  readWords {} words

end Jack
