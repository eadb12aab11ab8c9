import CppSurface.FileTree
import CppSurface.Survey.Options
import CppSurface.Toml.Reader

/-!
# Settings

What can be configured: the compiler, which includes are followed, and how much is logged.  The
settings are defaults, over which a configuration document may be laid, over which the command line
may lay its own.  `normalize` brings them into the form in which they are used: without white space
at the ends, without empty or repeated items, and within bounds.
-/

namespace CppSurface

open CppSurface.Text

/-! ## 1. The settings -/

/-- How the compiler is run. -/
structure CompilerSettings where
  clang : String := "clang++"
  /-- The language standard. -/
  std : String := "c++17"
  includePaths : List String := []
  extraFlags : List String := []
  /-- Whether the directories that the environment names are searched too. -/
  useIncludeEnv : Bool := true
  deriving Repr, DecidableEq

/-- Which includes are followed, with patterns as texts. -/
structure TraversalSettings where
  traverseIncludes : Bool := true
  includePatterns : List String := []
  excludePatterns : List String := []
  skipSystemHeaders : Bool := true
  maxAliasPasses : Nat := 64
  deriving Repr, DecidableEq

/-- How much is logged, from least to most. -/
inductive LogLevel where
  | error
  | warn
  | info
  | debug
  | trace
  deriving Repr, DecidableEq

namespace LogLevel

/-- The name of a level. -/
def name : LogLevel → String
  | error => "error"
  | warn => "warn"
  | info => "info"
  | debug => "debug"
  | trace => "trace"

/-- The level of a name. -/
def ofName? (s : String) : Option LogLevel :=
  [error, warn, info, debug, trace].find? fun l => l.name == s

/-- The rank of a level. -/
def rank : LogLevel → Nat
  | error => 0
  | warn => 1
  | info => 2
  | debug => 3
  | trace => 4

/-- The greater of two levels. -/
def max (a b : LogLevel) : LogLevel := if a.rank < b.rank then b else a

end LogLevel

/-- All settings. -/
structure Settings where
  compiler : CompilerSettings := {}
  traversal : TraversalSettings := {}
  level : LogLevel := .warn
  deriving Repr, DecidableEq

/-! ## 2. Normal form -/

/-- The elements of a list without repetitions, each where it stood first. -/
def firstOccurrences : List String → List String
  | [] => []
  | s :: rest => s :: (firstOccurrences rest).filter (· ≠ s)

/-- Texts without white space at their ends and without empty ones. -/
def trimmedTexts (ss : List String) : List String := (ss.map trimmed).filter (· ≠ "")

/-- A text, or another one in place of an empty one. -/
def orElseIfEmpty (s fallback : String) : String := if s = "" then fallback else s

/-- Remove every repetition of a text from the start of another; `fuel` bounds their number. -/
def dropLeading (mark : List Char) : (fuel : Nat) → List Char → List Char
  | 0, cs => cs
  | fuel + 1, cs =>
    if mark.isPrefixOf cs then dropLeading mark fuel (cs.drop mark.length) else cs

/-- The name of a language standard, without the option it may be written as.  White space between
the option and the name stays. -/
def standardName (s : String) : String :=
  String.ofList (dropLeading "-std=".toList s.length (trim s.toList))

/-- The bounds of the number of alias passes. -/
def clampPasses (n : Nat) : Nat := min (max n 1) 4096

namespace CompilerSettings

/-- The compiler's settings in normal form. -/
def normalize (c : CompilerSettings) : CompilerSettings where
  clang := orElseIfEmpty (trimmed c.clang) "clang++"
  std := orElseIfEmpty (standardName c.std) "c++17"
  includePaths := firstOccurrences (trimmedTexts c.includePaths)
  extraFlags := trimmedTexts c.extraFlags
  useIncludeEnv := c.useIncludeEnv

end CompilerSettings

namespace TraversalSettings

/-- The traversal's settings in normal form. -/
def normalize (t : TraversalSettings) : TraversalSettings where
  traverseIncludes := t.traverseIncludes
  includePatterns := firstOccurrences (trimmedTexts t.includePatterns)
  excludePatterns := firstOccurrences (trimmedTexts t.excludePatterns)
  skipSystemHeaders := t.skipSystemHeaders
  maxAliasPasses := clampPasses t.maxAliasPasses

/-- **The options of a survey under these settings**, unless a pattern is none. -/
def options? (t : TraversalSettings) : Option SurveyOptions :=
  match Pattern.ofTexts? t.includePatterns, Pattern.ofTexts? t.excludePatterns with
  | some include_, some exclude =>
    some ⟨t.traverseIncludes, include_, exclude, t.skipSystemHeaders, t.maxAliasPasses⟩
  | _, _ => none

end TraversalSettings

namespace Settings

/-- **The settings in normal form.** -/
def normalize (s : Settings) : Settings :=
  { s with compiler := s.compiler.normalize, traversal := s.traversal.normalize }

/-! ## 3. Configuration documents -/

/-- Read an entry over a setting: the setting stays if there is no entry, and the document is
refused if the entry is of another sort. -/
def overlay {α : Type} (entries : Toml.Entries) (key : String) (read : Toml → Option α)
    (current : α) : Option α :=
  match entries.lookup key with
  | some v => read v
  | none => some current

/-- Lay the compiler's table over its settings. -/
def overlayCompiler (c : CompilerSettings) (v : Toml) : Option CompilerSettings :=
  match v.entries? with
  | none => none
  | some e => do
    let clang ← overlay e "clang" Toml.string? c.clang
    let std ← overlay e "std" Toml.string? c.std
    let includePaths ← overlay e "include_paths" Toml.strings? c.includePaths
    let extraFlags ← overlay e "extra_flags" Toml.strings? c.extraFlags
    let useIncludeEnv ← overlay e "use_include_env" Toml.boolean? c.useIncludeEnv
    return ⟨clang, std, includePaths, extraFlags, useIncludeEnv⟩

/-- Lay the traversal's table over its settings. -/
def overlayTraversal (t : TraversalSettings) (v : Toml) : Option TraversalSettings :=
  match v.entries? with
  | none => none
  | some e => do
    let traverseIncludes ← overlay e "traverse_includes" Toml.boolean? t.traverseIncludes
    let includePatterns ← overlay e "include_regexes" Toml.strings? t.includePatterns
    let excludePatterns ← overlay e "exclude_regexes" Toml.strings? t.excludePatterns
    let skipSystemHeaders ← overlay e "skip_system_headers" Toml.boolean? t.skipSystemHeaders
    let maxAliasPasses ← overlay e "max_alias_passes" Toml.natural? t.maxAliasPasses
    return ⟨traverseIncludes, includePatterns, excludePatterns, skipSystemHeaders, maxAliasPasses⟩

/-- Lay the logging table over its setting. -/
def overlayLogging (level : LogLevel) (v : Toml) : Option LogLevel :=
  match v.entries? with
  | none => none
  | some e => overlay e "level" (fun w => w.name?.bind LogLevel.ofName?) level

/-- **The settings of a configuration document**, in normal form.  Keys without a meaning are passed
over. -/
def ofToml? (document : String) : Option Settings :=
  match Toml.read document.toList with
  | none => none
  | some e => do
    let defaults : Settings := {}
    let compiler ← overlay e "compiler" (overlayCompiler defaults.compiler) defaults.compiler
    let traversal ← overlay e "traversal" (overlayTraversal defaults.traversal) defaults.traversal
    let level ← overlay e "logging" (overlayLogging defaults.level) defaults.level
    return normalize ⟨compiler, traversal, level⟩

/-! ## 4. Configuration files -/

/-- Why there are no settings. -/
inductive Failure where
  /-- The file cannot be read. -/
  | unreadable (path : Path) (reason : FileTree.ReadFailure)
  /-- The file is no configuration document. -/
  | malformed (path : Path)
  deriving Repr, DecidableEq

/-- The file that a failure is about. -/
def Failure.path : Failure → Path
  | .unreadable path _ => path
  | .malformed path => path

/-- A failure in words. -/
def Failure.message : Failure → String
  | .unreadable path reason => "invalid configuration in " ++ path.text ++ ": " ++ reason.message
  | .malformed path => "invalid configuration in " ++ path.text ++ ": TOML parse error"

/-- The name of a configuration file. -/
def fileName : String := "cpp-to-json.toml"

/-- The settings of a document that was read from a path. -/
def ofDocument (document : String) (path : Path) : Except Failure Settings :=
  match ofToml? document with
  | some s => .ok s
  | none => .error (.malformed path)

/-- **The settings of a configuration file.** -/
def load (files : FileTree) (path : Path) : Except Failure Settings :=
  match files.readText path with
  | .ok document => ofDocument document path
  | .error reason => .error (.unreadable path reason)

/-- The nearest configuration file in a directory or one above it, as far as the spelling of the
directory goes; `fuel` bounds the number of steps up. -/
def findUpwards (files : FileTree) : (fuel : Nat) → Path → Option Path
  | 0, _ => none
  | fuel + 1, dir =>
    let candidate := dir.join fileName
    if files.isFile candidate then some candidate
    else
      match dir.parent? with
      | some above => findUpwards files fuel above
      | none => none

/-- **The nearest configuration file for a path**: from the file's directory upwards, or from the
path itself if it is no file. -/
def find? (files : FileTree) (start : Path) : Option Path :=
  let dir := if files.isFile start then start.parent? else some start
  dir.bind fun d => findUpwards files (d.text.length + 2) d

/-- The settings for a path: those of the nearest configuration file, or the defaults. -/
def discover (files : FileTree) (start : Path) : Except Failure Settings :=
  match find? files start with
  | some path => load files path
  | none => .ok {}

end Settings

end CppSurface
