/-
  EpubAccess.Files
  ────────────────────────────────
  A flat directory of files, and the directories above it.

  A path is cut at slashes and followed part by part (`follow`): empty parts
  and single dots stay where they are, two dots lead up, and the first part
  that is a name ends the walk, because no name is a directory.  What else
  the path asks of that name decides between a file and an error.  The limits
  are 255 bytes for a name and 4095 bytes for a path.
-/
import EpubAccess.Error
import EpubAccess.Text.Blank

namespace EpubAccess

/-- Files by the shortest path that leads to them. -/
structure Files where
  contents : Std.ExtTreeMap String ByteArray

namespace Files

/-- No files. -/
def empty : Files := ⟨∅⟩

instance : Inhabited Files := ⟨empty⟩

/-! ## Errors. -/

/-- Nothing is there. -/
def notFound : IoError := ⟨.notFound, "No such file or directory (os error 2)"⟩

/-- A directory is there, where a file is needed. -/
def isADirectory : IoError := ⟨.isADirectory, "Is a directory (os error 21)"⟩

/-- A file is there, where a directory is needed. -/
def notADirectory : IoError := ⟨.notADirectory, "Not a directory (os error 20)"⟩

/-- A name or the whole path is too long. -/
def tooLong : IoError := ⟨.invalidFilename, "File name too long (os error 36)"⟩

/-- The path holds a NUL. -/
def nulInPath : IoError := ⟨.invalidInput, "file name contained an unexpected NUL byte"⟩

/-! ## Paths. -/

/-- A directory that a path can reach. -/
inductive Directory where
  /-- The topmost directory. -/
  | root
  /-- The directory so many levels above the one that relative paths start in. -/
  | above (levels : Nat)
  deriving DecidableEq, Inhabited

/-- The directory one level up; the topmost one has none and stands for it. -/
def Directory.parent : Directory → Directory
  | root => root
  | above levels => above (levels + 1)

/-- The shortest way to a directory, as the front of a path. -/
def Directory.front : Directory → String
  | root => "/"
  | above levels => String.join (List.replicate levels "../")

/-- A name in a directory. -/
structure Spot where
  directory : Directory
  name : List Char
  deriving DecidableEq, Inhabited

/-- The shortest path to a name. -/
def Spot.path (s : Spot) : String := s.directory.front ++ String.ofList s.name

/-- Is the name longer than a name may be? -/
def Spot.isTooLong (s : Spot) : Bool := 255 < (String.ofList s.name).utf8ByteSize

/-- Where a path leads. -/
inductive Place where
  /-- To a directory. -/
  | directory
  /-- To a name. -/
  | name (s : Spot)
  /-- To a name with nothing but slashes after it. -/
  | slashed (s : Spot)
  /-- Through a name to something else. -/
  | through (s : Spot)
  deriving DecidableEq, Inhabited

/-- The place that the parts of a path lead to from a directory. -/
def follow (d : Directory) : List (List Char) → Place
  | [] => .directory
  | part :: rest =>
    if part = [] ∨ part = ['.'] then follow d rest
    else if part = ['.', '.'] then follow d.parent rest
    else if rest = [] then .name ⟨d, part⟩
    else if rest.all List.isEmpty then .slashed ⟨d, part⟩
    else .through ⟨d, part⟩

/-- The place that a path leads to. -/
def place (path : String) : Except IoError Place :=
  let parts := Text.cutAt (· == '/') path.toList
  if '\x00' ∈ path.toList then .error nulInPath
  else if path.isEmpty then .error notFound
  else if 4095 < path.utf8ByteSize then .error tooLong
  else if path.toList.head? = some '/' then .ok (follow .root parts)
  else .ok (follow (.above 0) parts)

/-! ## Access. -/

/-- Why a name is not the directory that a path needs there. -/
def obstacle (f : Files) (s : Spot) : IoError :=
  if s.path ∈ f.contents then notADirectory
  else if s.isTooLong then tooLong
  else notFound

/-- The bytes of a file. -/
def read (f : Files) (path : String) : Except IoError ByteArray := do
  match ← place path with
  | .directory => .error isADirectory
  | .slashed s | .through s => .error (f.obstacle s)
  | .name s =>
    match f.contents[s.path]? with
    | some bytes => .ok bytes
    | none => .error (f.obstacle s)

/-- A file written; it replaces an earlier one. -/
def write (f : Files) (path : String) (bytes : ByteArray) : Except IoError Files := do
  match ← place path with
  | .directory | .slashed _ => .error isADirectory
  | .through s => .error (f.obstacle s)
  | .name s =>
    if s.isTooLong then .error tooLong
    else .ok ⟨f.contents.insert s.path bytes⟩

end Files

end EpubAccess
