import CppSurface.Dump.Reader
import CppSurface.Dump.Tree
import CppSurface.Settings
import CppSurface.Unit

/-!
# The compiler as a provider

The compiler is asked for a dump of a file's tree and for a trace of the headers it enters.  What
it prints decides what becomes of the file: a dump gives a unit; without one, errors among the
diagnostics give an empty unit that carries them, and otherwise there is no unit.
-/

namespace CppSurface

open CppSurface.Text

/-! ## 1. Running the compiler -/

/-- What a run of the compiler printed, and whether it succeeded. -/
structure CompilerRun where
  stdout : List UInt8
  stderr : List UInt8
  succeeded : Bool
  deriving Repr, DecidableEq

/-- The programs that can be run: what each prints, by name and arguments, if it is there. -/
abbrev Programs := (name : String) → (arguments : List String) → Option CompilerRun

namespace Compiler

/-- Whether a text holds the character that ends texts for the operating system. -/
def holdsNul (s : String) : Bool := s.toList.contains '\x00'

/-- Start a program. -/
def start (programs : Programs) (name : String) (arguments : List String) :
    Except StartFailure CompilerRun :=
  if holdsNul name || arguments.any holdsNul then .error .nulInArgument
  else
    match programs name arguments with
    | some run => .ok run
    | none => .error .notFound

/-! ## 2. Arguments -/

/-- The directories that an environment variable lists. -/
def environmentPaths (value : Option String) : List String :=
  match value with
  | some v => (splitAt ':' v.toList).map String.ofList
  | none => []

/-- The directories to search for headers: none blank, none twice. -/
def searchPaths (settings : CompilerSettings) (includeEnv : Option String) : List String :=
  let fromEnv := if settings.useIncludeEnv then environmentPaths includeEnv else []
  firstOccurrences ((settings.includePaths ++ fromEnv).filter fun p => trimmed p ≠ "")

/-- **The arguments for a dump of a file.** -/
def arguments (settings : CompilerSettings) (includeEnv : Option String) (file : Path) :
    List String :=
  ["-x", "c++", "-std=" ++ settings.std, "-fsyntax-only", "-fno-color-diagnostics", "-H",
    "-Xclang", "-ast-dump=json"] ++
  (searchPaths settings includeEnv).flatMap (fun p => ["-I", p]) ++
  settings.extraFlags ++ [file.text]

/-! ## 3. Reading what was printed -/

/-- Whether a text begins like a dump. -/
def beginsDump (cs : List Char) : Bool := (trimStart cs).head? == some '{'

/-- The unit that a run of the compiler describes, once its output is text. -/
def unitOf (files : FileTree) (file : Path) (dump stderr : List Char) (succeeded : Bool) :
    Except ProviderFailure ParsedUnit :=
  let diagnostics := Diagnostic.ofOutput stderr
  let includes := IncludeTrace.read files file stderr
  if beginsDump dump then
    match Dump.read dump with
    | some root => .ok ⟨Dump.toTree files.canonical root, includes, diagnostics⟩
    | none => .error .malformedDump
  else if diagnostics.any Diagnostic.isError then .ok ⟨.empty, includes, diagnostics⟩
  else if succeeded then .error .noDump
  else .error (.compilerFailed (String.ofList (trim stderr)))

/-- **The provider that runs the compiler.**  Its warnings are those of the compiler. -/
def provider (programs : Programs) (settings : CompilerSettings) (includeEnv : Option String)
    (files : FileTree) : Provider := fun file =>
  match start programs settings.clang (arguments settings includeEnv file) with
  | .error reason => ⟨[], .error (.cannotRun settings.clang reason)⟩
  | .ok run =>
    match Utf8.decode run.stdout with
    | .error defect => ⟨[], .error (.dumpNotText defect)⟩
    | .ok dump =>
      let stderr := Utf8.decodeLossy run.stderr
      ⟨(Diagnostic.ofOutput stderr).filter fun d => d.severity == .warning,
        unitOf files file dump stderr run.succeeded⟩

/-- The arguments with which the compiler was in fact started for these files. -/
def startedWith (programs : Programs) (settings : CompilerSettings) (includeEnv : Option String)
    (parsed : List Path) : List (List String) :=
  (parsed.map (arguments settings includeEnv)).filter fun args =>
    match start programs settings.clang args with
    | .ok _ => true
    | .error _ => false

end Compiler

end CppSurface
