import Jack.Text.Raw

namespace Jack.Path

def slash : UInt8 := 47

def dot : UInt8 := 46

def parts : RawText → List RawText
  | [] => [[]]
  | byte :: bytes =>
    if byte = slash then [] :: parts bytes
    else match parts bytes with
      | [] => [[byte]]
      | part :: later => (byte :: part) :: later

def isAbsolute (path : RawText) : Bool :=
  path.head? == some slash

def staysPut (part : RawText) : Bool :=
  part == [] || part == [dot]

def back : RawText :=
  [dot, dot]

def isNameTooLong (name : RawText) : Bool :=
  decide (255 < name.length)

def isTooLong (path : RawText) : Bool :=
  decide (4095 < path.length)

/-- The path of a name in a folder, where an empty path is the folder at hand. -/
def join (folder name : RawText) : RawText :=
  match folder.getLast? with
  | none => name
  | some last => if last = slash then folder ++ name else folder ++ slash :: name

/-- The last name of a path, if the path does not end by going back. -/
def fileName? (path : RawText) : Option RawText :=
  ((parts path).filter fun part => !staysPut part).getLast?.filter (· != back)

/-- A name divided at its last dot, unless that dot is the first byte. -/
def splitExtension (name : RawText) : RawText × Option RawText :=
  let afterDot := name.reverse.takeWhile (· != dot)
  match name.reverse.dropWhile (· != dot) with
  | _ :: byte :: before => ((byte :: before).reverse, some afterDot.reverse)
  | _ => (name, none)

def stem (name : RawText) : RawText :=
  (splitExtension name).1

def extension? (name : RawText) : Option RawText :=
  (splitExtension name).2

/-- Drops parts that stay put from the end, but never the first part. -/
def trimEnd : List RawText → List RawText
  | [] => []
  | first :: rest => first :: (rest.reverse.dropWhile staysPut).reverse

theorem length_trimEnd_le (parts : List RawText) : (trimEnd parts).length ≤ parts.length := by
  cases parts with
  | nil => exact Nat.le_refl _
  | cons first rest =>
    have := (List.dropWhile_sublist (l := rest.reverse) staysPut).length_le
    simpa [trimEnd] using this

def parentParts (parts : List RawText) : List RawText :=
  trimEnd (trimEnd parts).dropLast

theorem length_parentParts_lt (part : RawText) (parts : List RawText) :
    (parentParts (part :: parts)).length < (part :: parts).length := by
  have h₁ := length_trimEnd_le (part :: parts)
  have h₂ := length_trimEnd_le (trimEnd (part :: parts)).dropLast
  simp only [parentParts, List.length_dropLast, List.length_cons] at *
  omega

/-- Puts parts together again; one empty part is the root. -/
def ofParts : List RawText → RawText
  | [[]] => [slash]
  | parts => [slash].intercalate parts

def parent (path : RawText) : RawText :=
  ofParts (parentParts (parts path))

def ancestorsOfParts : List RawText → List RawText
  | [] => []
  | part :: parts => ofParts (part :: parts) :: ancestorsOfParts (parentParts (part :: parts))
termination_by parts => parts.length
decreasing_by exact length_parentParts_lt part parts

/-- A path and the folders around it, from the inside out. -/
def ancestors (path : RawText) : List RawText :=
  ancestorsOfParts (parts path)

end Jack.Path
