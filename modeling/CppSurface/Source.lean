import CppSurface.FileTree
import CppSurface.Survey.FilePass

/-!
# Sources

A survey starts from a file, or from source text.  Source text is written to a scratch file first,
so that from there on both are files; only the entry point remembers the difference.
-/

namespace CppSurface

/-- Where the source comes from. -/
inductive Source where
  | path (p : Path)
  | text (t : String)
  deriving Repr, DecidableEq

namespace Source

/-- Whether the source is text. -/
def isText : Source → Bool
  | path _ => false
  | text _ => true

/-- **What an argument stands for**: the file of that name if there is one, and otherwise the text
itself.  Nothing with a line break in it is taken for a name. -/
def detect (files : FileTree) (argument : String) : Source :=
  if !argument.toList.contains '\n' && files.isFile ⟨argument⟩ then .path ⟨argument⟩
  else .text argument

/-- The files with the source among them: text is written to the scratch file. -/
def filesWith (files : FileTree) (scratch : Path) : Source → FileTree
  | path _ => files
  | text t =>
    files.put (scratch.segments.filter (· ≠ [])) (.file (String.toUTF8 t).toList)

/-- The entry point of a survey, once the source is among the files. -/
def entryPoint (files : FileTree) (scratch : Path) : Source → EntryPoint
  | path p => ⟨files.canonical p, false⟩
  | text _ => ⟨files.canonical scratch, true⟩

/-- Where the search for a configuration file starts. -/
def settingsStart (files : FileTree) : Source → Path
  | path p => p
  | text _ => files.currentPath

end Source

end CppSurface
