import CppSurface.Compiler
import CppSurface.Invocation
import CppSurface.Schema
import CppSurface.Source
import CppSurface.Survey

/-!
# The program

One run of the program, as a function of its arguments and its surroundings: which settings apply,
what the survey comes to, and what is printed and logged about it.  A run has no result only when
the survey goes beyond the given bound on the number of files.
-/

namespace CppSurface

/-! ## 1. Surroundings and conclusion -/

/-- Everything that a run depends on besides its arguments. -/
structure Surroundings where
  files : FileTree
  programs : Programs
  /-- The directories that the environment names for headers. -/
  includeEnv : Option String
  /-- The file that inline source text is written to. -/
  scratch : Path

/-- A message of the log. -/
structure LogRecord where
  level : LogLevel
  text : String
  deriving Repr, DecidableEq

namespace LogRecord

/-- The level of a message as it is printed. -/
def levelName : LogLevel → String
  | .error => "ERROR"
  | .warn => "WARN"
  | .info => "INFO"
  | .debug => "DEBUG"
  | .trace => "TRACE"

/-- A message as it is printed. -/
def line (r : LogRecord) : String := levelName r.level ++ " " ++ r.text

/-- Whether a message is printed at a level. -/
def isShownAt (level : LogLevel) (r : LogRecord) : Bool := r.level.rank ≤ level.rank

end LogRecord

/-- What a run leaves behind. -/
structure Conclusion where
  exitCode : Nat
  stdout : String
  /-- The messages on the error stream. -/
  stderr : List String
  /-- The argument lists with which the compiler was started. -/
  started : List (List String)
  /-- The log file that was opened, and its messages. -/
  logged : Option (Path × List String)
  deriving Repr, DecidableEq

/-- A conclusion without a survey and without a log. -/
def Conclusion.early (exitCode : Nat) (stdout : String) (stderr : List String) : Conclusion :=
  ⟨exitCode, stdout, stderr, [], none⟩

namespace Program

/-! ## 2. Answers that need no survey -/

/-- How the program is called. -/
def usage : String :=
  "Usage: cpp-to-json [OPTIONS] <INPUT>\n\n" ++
  "  <INPUT>             file to analyze, or inline source text\n" ++
  "      --config <FILE>     configuration file\n" ++
  "      --no-includes       only analyze the entry file\n" ++
  "      --include <REGEX>   follow only includes that match from the start\n" ++
  "      --exclude <REGEX>   never follow includes that match from the start\n" ++
  "  -I <DIR>                extra include directory\n" ++
  "      --std <STD>         language standard\n" ++
  "      --clang <PROGRAM>   compiler that prints the dump\n" ++
  "      --accept <TOKEN>    type token to accept\n" ++
  "      --ignore <TOKEN>    type token to ignore\n" ++
  "      --accept-all        accept every type token\n" ++
  "      --pretty            indent the result\n" ++
  "  -v, --verbose           log more\n" ++
  "      --log-file <FILE>   log to a file too\n" ++
  "  -h, --help              print this text\n" ++
  "  -V, --version           print the version\n"

/-! ## 3. Settings and log file -/

/-- The settings of a request: from the file it names, or from the nearest one. -/
def settings (files : FileTree) (r : Request) (source : Source) :
    Except Settings.Failure Settings :=
  let found := match r.config with
    | some path => Settings.load files path
    | none => Settings.discover files (source.settingsStart files)
  found.map fun s => s.override r.overrides

/-- The file that is opened for a log path: a path that ends in no name gets one. -/
def logTarget (p : Path) : Path :=
  (p.parent?.getD ⟨"."⟩).join (p.fileName?.getD "cpp-to-json.log")

/-- Whether a log file can be opened.  Directories that are missing are made. -/
def canOpenLog (files : FileTree) (p : Path) : Bool :=
  match files.resolve (logTarget p) with
  | .ok location => !files.isDirectoryAt location
  | .error .missing => true
  | .error _ => false

/-! ## 4. The survey and its log -/

/-- The text of a result. -/
def document (r : Request) (x : Extraction) : String :=
  (if r.pretty then Schema.pretty x else Schema.compact x) ++ "\n"

/-- What is printed about a survey: the exit code, the result, and the messages. -/
def announce (r : Request) (o : Survey.Outcome) : Nat × String × List LogRecord :=
  let notices := o.notices.map fun n => LogRecord.mk .warn n.text
  match o.result with
  | .ok x => (0, document r x, notices ++ o.reports.map fun report => ⟨.warn, report.text⟩)
  | .error e => (1, "", notices ++ [⟨.error, e.message⟩])

/-- Conclude a run whose log is open. -/
def conclude (r : Request) (level : LogLevel) (exitCode : Nat) (stdout : String)
    (records : List LogRecord) (started : List (List String)) : Conclusion :=
  let shown := (records.filter (·.isShownAt level)).map LogRecord.line
  ⟨exitCode, stdout, shown, started, r.logFile.map fun p => (logTarget p, shown)⟩

/-- Run a request under settings, over at most `bound` files. -/
def runUnder (w : Surroundings) (bound : Nat) (r : Request) (source : Source) (s : Settings) :
    Option Conclusion :=
  match s.traversal.options? with
  | none => some (conclude r s.level 1 "" [⟨.error, "invalid include filter pattern"⟩] [])
  | some options =>
    let files := source.filesWith w.files w.scratch
    let survey : Survey :=
      { options
        provider := Compiler.provider w.programs s.compiler w.includeEnv files
        policy := r.policy
        files
        entry := source.entryPoint files w.scratch }
    (survey.outcome bound).map fun o =>
      let (exitCode, stdout, records) := announce r o
      conclude r s.level exitCode stdout records
        (Compiler.startedWith w.programs s.compiler w.includeEnv o.parsed)

/-! ## 5. The run -/

/-- Run a request.  Unusable settings are told without a log; a log file that cannot be opened
aborts the run. -/
def runRequest (w : Surroundings) (bound : Nat) (r : Request) : Option Conclusion :=
  let source := Source.detect w.files r.input
  match settings w.files r source with
  | .error e => some (Conclusion.early 1 "" ["error: " ++ e.message])
  | .ok s =>
    if r.logFile.all (canOpenLog w.files) then runUnder w bound r source s
    else some (Conclusion.early 101 "" [])

/-- **One run of the program**, over at most `bound` files. -/
def run (w : Surroundings) (bound : Nat) (arguments : List String) : Option Conclusion :=
  match Invocation.ofArguments arguments with
  | .usageError => some (Conclusion.early 2 "" [usage])
  | .help => some (Conclusion.early 0 usage [])
  | .version => some (Conclusion.early 0 "cpp-to-json 0.1.0\n" [])
  | .request r => runRequest w bound r

end Program

end CppSurface
