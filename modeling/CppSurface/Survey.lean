import CppSurface.Survey.FilePass
import CppSurface.Survey.Options

/-!
# Surveys

A survey parses the entry file, takes stock of it, and goes on with its includes, breadth first.
Each file is parsed once: whatever was ever queued is remembered, up to `Path.same`.  The first
file that cannot be used ends the survey.

The includes of a real program are finite, but nothing in a provider says so.  `run` therefore
takes a bound on the number of files, and it has no result when the bound is too small.
-/

namespace CppSurface

/-! ## 1. Failures -/

/-- What ends a survey. -/
inductive SurveyFailure where
  /-- The compiler reported errors for a file. -/
  | parse (file : Path) (diagnostics : List Diagnostic)
  /-- There is no unit for a file. -/
  | provider (file : Path) (reason : ProviderFailure)
  deriving Repr, DecidableEq

/-- A failure in words. -/
def SurveyFailure.message : SurveyFailure → String
  | .parse file diagnostics =>
    "failed to parse " ++ file.text ++ ":\n" ++
      String.intercalate "\n" (diagnostics.map Diagnostic.text)
  | .provider file reason => "AST provider failed for " ++ file.text ++ ": " ++ reason.message

/-! ## 2. The state of a survey -/

/-- Everything that stays fixed during a survey. -/
structure Survey where
  options : SurveyOptions
  provider : Provider
  policy : Policy
  files : FileTree
  entry : EntryPoint

/-- A survey under way. -/
structure SurveyState where
  /-- The files still to be parsed. -/
  queue : List Path
  /-- Every file that was ever queued. -/
  known : List Path
  /-- The files that were parsed, in order. -/
  parsed : List Path
  extraction : Extraction
  reports : List Report
  notices : List Notice
  deriving Repr, DecidableEq

namespace SurveyState

/-- The state in which only the entry is queued. -/
def start (entry : Path) : SurveyState := ⟨[entry], [entry], [], .empty, [], []⟩

/-- Queue a file, unless it was queued before. -/
def enqueue (s : SurveyState) (p : Path) : SurveyState :=
  if s.known.any p.same then s
  else { s with queue := s.queue ++ [p], known := s.known ++ [p] }

end SurveyState

namespace Survey

/-! ## 3. One file -/

/-- The files to go on with after one with these includes. -/
def successors (v : Survey) (includes : List Path) : List Path :=
  if v.options.traverseIncludes then
    (includes.map v.files.canonical).filter v.options.admits
  else []

/-- **Parse one file and take stock of it.** -/
def process (v : Survey) (file : Path) (s : SurveyState) :
    Except SurveyFailure Unit × SurveyState :=
  let answer := v.provider file
  let s := { s with
    parsed := s.parsed ++ [file]
    notices := s.notices ++ answer.warnings.map .compilerWarning }
  match answer.result with
  | .error reason => (.error (.provider file reason), s)
  | .ok unit =>
    if unit.hasErrors then (.error (.parse file unit.diagnostics), s)
    else
      let pass := FilePass.of v.policy v.options.maxAliasPasses v.entry file unit
      let s := (v.successors pass.includes).foldl SurveyState.enqueue s
      (.ok (), { s with
        extraction := s.extraction.absorb v.entry file unit pass
        reports := s.reports ++ pass.reports
        notices := s.notices ++ pass.notices })

/-! ## 4. The whole survey -/

/-- Go on with the queue until it is empty or a file fails, over at most `bound` files. -/
def run (v : Survey) : (bound : Nat) → SurveyState → Option (Except SurveyFailure Unit × SurveyState)
  | bound, s =>
    match s.queue with
    | [] => some (.ok (), s)
    | file :: rest =>
      match bound with
      | 0 => none
      | bound + 1 =>
        match v.process file { s with queue := rest } with
        | (.ok (), s') => v.run bound s'
        | (.error e, s') => some (.error e, s')

/-- What a survey comes to. -/
structure Outcome where
  result : Except SurveyFailure Extraction
  parsed : List Path
  reports : List Report
  notices : List Notice

/-- **The outcome of a survey** of at most `bound` files. -/
def outcome (v : Survey) (bound : Nat) : Option Outcome :=
  (v.run bound (.start v.entry.path)).map fun (r, s) =>
    ⟨r.map fun _ => s.extraction, s.parsed, s.reports, s.notices⟩

end Survey

end CppSurface
