import CppSurface.DeclTree
import CppSurface.Diagnostic
import CppSurface.IncludeTrace
import CppSurface.Text.Utf8

/-!
# Parsed units and their providers

A provider turns a file into a parsed unit: its declarations, the inclusions among its files, and
the compiler's diagnostics.  Diagnostics are handed on, not judged: whether a unit is usable is for
the survey to say.  A provider that cannot produce a unit at all says why.
-/

namespace CppSurface

/-- A parsed translation unit. -/
structure ParsedUnit where
  tree : DeclTree
  includes : List Inclusion
  diagnostics : List Diagnostic
  deriving Repr, DecidableEq

namespace ParsedUnit

/-- Whether the compiler reported an error. -/
def hasErrors (u : ParsedUnit) : Bool := u.diagnostics.any Diagnostic.isError

/-- Add a path to a list, unless the same path is in it. -/
def addNew (paths : List Path) (p : Path) : List Path :=
  if paths.any p.same then paths else paths ++ [p]

/-- **The files that `file` itself includes**, each once, in the order of their inclusion. -/
def directIncludes (u : ParsedUnit) (file : Path) : List Path :=
  ((u.includes.filter fun i => i.includer.same file).map Inclusion.included).foldl addNew []

end ParsedUnit

/-- Why a compiler could not be started. -/
inductive StartFailure where
  | notFound
  | nulInArgument
  deriving Repr, DecidableEq

/-- A start failure in words. -/
def StartFailure.message : StartFailure → String
  | .notFound => "No such file or directory (os error 2)"
  | .nulInArgument => "nul byte found in provided data"

/-- Why a provider has no unit for a file. -/
inductive ProviderFailure where
  /-- The compiler could not be started. -/
  | cannotRun (compiler : String) (reason : StartFailure)
  /-- The dump is no text. -/
  | dumpNotText (defect : Text.Utf8.Defect)
  /-- The compiler succeeded and printed no dump. -/
  | noDump
  /-- The compiler failed without a diagnostic that says so. -/
  | compilerFailed (output : String)
  /-- The dump does not have the shape of one. -/
  | malformedDump
  /-- Another provider's reason. -/
  | unavailable (reason : String)
  deriving Repr, DecidableEq

/-- A provider failure in words. -/
def ProviderFailure.message : ProviderFailure → String
  | .cannotRun compiler reason => "failed to run `" ++ compiler ++ "`: " ++ reason.message
  | .dumpNotText defect => "AST dump is not valid UTF-8: " ++ defect.message
  | .noDump => "compiler produced no AST dump"
  | .compilerFailed output => output
  | .malformedDump => "malformed AST dump"
  | .unavailable reason => reason

/-- What a provider answers for a file: a unit or a failure, and the warnings it met. -/
structure ProviderAnswer where
  warnings : List Diagnostic
  result : Except ProviderFailure ParsedUnit

/-- A provider of parsed units. -/
abbrev Provider := Path → ProviderAnswer

end CppSurface
