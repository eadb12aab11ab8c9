import CppSurface.Path
import CppSurface.Text.Utf8

/-!
# File trees

The part of the world that can be asked about files: a tree of regular files, directories and
symbolic links, and a working directory.  A location is a list of names from the root.  `resolve`
follows a path the way an operating system does, links before `..`, and says why it fails; the
other questions are answered from it.
-/

namespace CppSurface

open CppSurface.Text

/-- What stands at a location. -/
inductive FileTree.Entry where
  | file (content : List UInt8)
  | directory
  | link (target : Path)
  deriving Repr, DecidableEq

/-- A file tree with a working directory. -/
structure FileTree where
  entries : List (List (List Char) × FileTree.Entry)
  workingDirectory : List (List Char)
  deriving Repr, DecidableEq

namespace FileTree

/-! ## 1. Looking up and adding entries -/

/-- The entry at a location.  The root is always a directory. -/
def entry? (t : FileTree) (location : List (List Char)) : Option Entry :=
  if location = [] then some .directory else t.entries.lookup location

/-- Whether a directory stands at a location. -/
def isDirectoryAt (t : FileTree) (location : List (List Char)) : Bool :=
  t.entry? location == some .directory

/-- The tree with a directory at a location where nothing stood. -/
def ensureDirectory (t : FileTree) (location : List (List Char)) : FileTree :=
  match t.entry? location with
  | some _ => t
  | none => { t with entries := t.entries ++ [(location, .directory)] }

/-- The tree with directories at every beginning of a location. -/
def ensureDirectories (t : FileTree) (location : List (List Char)) : FileTree :=
  ((List.range location.length).map fun n => location.take (n + 1)).foldl ensureDirectory t

/-- The tree with a file or link at a location, in place of whatever stood there. -/
def put (t : FileTree) (location : List (List Char)) (e : Entry) : FileTree :=
  let t := t.ensureDirectories location.dropLast
  { t with entries := (t.entries.filter fun x => x.1 ≠ location) ++ [(location, e)] }

/-! ## 2. Following a path -/

/-- Why a path leads nowhere. -/
inductive Failure where
  | missing
  | notDirectory
  | tooManyLinks
  deriving Repr, DecidableEq

/-- Follow segments from a location that holds no link.  A link is left to `follow`, with the
location to go on from and the segments still to go. -/
def walkWith (t : FileTree)
    (follow : List (List Char) → List (List Char) → Except Failure (List (List Char))) :
    List (List Char) → List (List Char) → Except Failure (List (List Char))
  | here, [] => .ok here
  | here, segment :: rest =>
    if t.isDirectoryAt here = false then .error .notDirectory
    else if segment = [] ∨ segment = ['.'] then walkWith t follow here rest
    else if segment = ['.', '.'] then walkWith t follow here.dropLast rest
    else
      match t.entry? (here ++ [segment]) with
      | none => .error .missing
      | some (.link target) =>
        follow (if target.isAbsolute then [] else here) (target.segments ++ rest)
      | some _ => walkWith t follow (here ++ [segment]) rest

/-- Follow segments through at most so many links. -/
def walk (t : FileTree) : Nat → List (List Char) → List (List Char) →
    Except Failure (List (List Char))
  | 0 => walkWith t fun _ _ => .error .tooManyLinks
  | links + 1 => walkWith t (walk t links)

/-- The number of links that one path may lead through. -/
def linkLimit : Nat := 40

/-- **The location that a path leads to**, or why it leads nowhere. -/
def resolve (t : FileTree) (p : Path) : Except Failure (List (List Char)) :=
  if p.text = "" then .error .missing
  else t.walk linkLimit (if p.isAbsolute then [] else t.workingDirectory) p.segments

/-! ## 3. Questions about a path -/

/-- The absolute path of a location. -/
def pathOf (location : List (List Char)) : Path :=
  if location = [] then ⟨"/"⟩ else Path.ofSegments ([] :: location)

/-- **The canonical spelling of a path**: the absolute path of the location that it leads to, or
the path as given when it leads nowhere. -/
def canonical (t : FileTree) (p : Path) : Path :=
  match t.resolve p with
  | .ok location => pathOf location
  | .error _ => p

/-- Whether a path leads to a regular file. -/
def isFile (t : FileTree) (p : Path) : Bool :=
  match t.resolve p with
  | .ok location =>
    match t.entry? location with
    | some (.file _) => true
    | _ => false
  | .error _ => false

/-- The working directory as a path. -/
def currentPath (t : FileTree) : Path := pathOf t.workingDirectory

/-! ## 4. Reading a file -/

/-- Why a file's text cannot be read. -/
inductive ReadFailure where
  | missing
  | notDirectory
  | tooManyLinks
  | isDirectory
  | nulInPath
  | notText
  deriving Repr, DecidableEq

/-- A read failure in the words of the operating system. -/
def ReadFailure.message : ReadFailure → String
  | .missing => "No such file or directory (os error 2)"
  | .notDirectory => "Not a directory (os error 20)"
  | .tooManyLinks => "Too many levels of symbolic links (os error 40)"
  | .isDirectory => "Is a directory (os error 21)"
  | .nulInPath => "file name contained an unexpected NUL byte"
  | .notText => "stream did not contain valid UTF-8"

/-- A path that leads nowhere cannot be read. -/
def Failure.toReadFailure : Failure → ReadFailure
  | .missing => .missing
  | .notDirectory => .notDirectory
  | .tooManyLinks => .tooManyLinks

/-- **The text of the file that a path leads to.** -/
def readText (t : FileTree) (p : Path) : Except ReadFailure String :=
  if p.text.toList.contains '\x00' then .error .nulInPath
  else
    match t.resolve p with
    | .error e => .error e.toReadFailure
    | .ok location =>
      match t.entry? location with
      | some (.file content) =>
        match Utf8.decode content with
        | .ok cs => .ok (String.ofList cs)
        | .error _ => .error .notText
      | _ => .error .isDirectory

end FileTree

end CppSurface
