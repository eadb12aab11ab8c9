import CppSurface.Program

/-!
# The command line

The outer layer: it takes a picture of the files that a run can ask for, calls `Program.run`, and
prints what comes of it.

The compiler is not started from here.  Its dump and its messages for `FILE` are read from
`FILE.ast.json` and `FILE.ast.log`, where a build step left them.  Which files are needed shows
only while the program runs, so it is run again for each file that turns up, until all that it
asked for has been read.
-/

namespace CppSurface.Main

/-- The end of the name of a recorded dump. -/
def dumpSuffix : String := ".ast.json"

/-- The end of the name of the recorded messages. -/
def messagesSuffix : String := ".ast.log"

/-- What is known so far: a picture of the files, and the compiler's runs by file. -/
structure Recordings where
  files : FileTree
  runs : List (String × CompilerRun)

/-- The location that an absolute path spells. -/
def locationOf (p : Path) : List (List Char) :=
  p.segments.filter fun s => decide (s ≠ [] ∧ s ≠ ['.'])

/-- The names under which a configuration file may stand for a path: in it, and in each directory
above it. -/
def settingsCandidates : (fuel : Nat) → Path → List Path
  | 0, _ => []
  | fuel + 1, p =>
    p.join Settings.fileName ::
      match p.parent? with
      | some above => settingsCandidates fuel above
      | none => []

/-- The files that a compiler's run names. -/
def pathsIn (file : String) (run : CompilerRun) : List Path :=
  let traced := (IncludeTrace.read ⟨[], []⟩ ⟨file⟩ (Text.Utf8.decodeLossy run.stderr)).map
    Inclusion.included
  let declared := match Dump.read (Text.Utf8.decodeLossy run.stdout) with
    | some root => (Dump.toTree id root).decls.toList.filterMap Decl.file
    | none => []
  traced ++ declared.eraseDups

/-- The answer of a compiler that has no recording. -/
def missingRun (file : String) : CompilerRun where
  stdout := []
  stderr := ("clang++: error: no such file or directory: '" ++ file ++ "'\n").toUTF8.toList
  succeeded := false

/-- Add what stands at a path to a picture of the files. -/
def addPath (files : FileTree) (p : Path) : IO FileTree := do
  try
    let real : Path := ⟨(← IO.FS.realPath p.text).toString⟩
    let spelled := Path.join files.currentPath p.text
    let files ←
      try
        let content ← IO.FS.readBinFile real.text
        pure (files.put (locationOf real) (.file content.toList))
      catch _ => pure (files.ensureDirectories (locationOf real))
    if locationOf spelled = locationOf real ∨ spelled.segments.contains ['.', '.'] then
      return files
    else return files.put (locationOf spelled) (.link real)
  catch _ => return files

/-- Read what was recorded for a file. -/
def readRun (file : String) : IO CompilerRun := do
  try
    let dump ← IO.FS.readBinFile (file ++ dumpSuffix)
    let messages ← try IO.FS.readBinFile (file ++ messagesSuffix) catch _ => pure .empty
    return ⟨dump.toList, messages.toList, true⟩
  catch _ => return missingRun file

/-- The surroundings of a run with these recordings. -/
def Recordings.surroundings (r : Recordings) (includeEnv : Option String) : Surroundings where
  files := r.files
  programs := fun _ arguments =>
    let file := arguments.getLast?.getD ""
    some ((r.runs.lookup file).getD (missingRun file))
  includeEnv := includeEnv
  scratch := ⟨"/tmp/cpp-to-json.cpp"⟩

/-- Run the program until every file that it asks for has been read. -/
def settle (arguments : List String) (includeEnv : Option String) :
    (fuel : Nat) → Recordings → IO (Option Conclusion)
  | 0, _ => return none
  | fuel + 1, r => do
    let conclusion? :=
      Program.run (r.surroundings includeEnv) (r.runs.length + 2) arguments
    let asked := (conclusion?.map Conclusion.started).getD []
    let unread := (asked.filterMap List.getLast?).find? fun file => (r.runs.lookup file).isNone
    match unread with
    | none => return conclusion?
    | some file =>
      let run ← readRun file
      let files ← (pathsIn file run).foldlM addPath r.files
      settle arguments includeEnv fuel ⟨files, (file, run) :: r.runs⟩

/-- Write a log file. -/
def writeLog (target : Path) (records : List String) : IO Unit := do
  match target.parent? with
  | some dir => if dir.text ≠ "" then IO.FS.createDirAll dir.text
  | none => pure ()
  let file ← IO.FS.Handle.mk target.text .append
  records.forM file.putStrLn

end CppSurface.Main

open CppSurface CppSurface.Main in
/-- The program: its exit code is that of the run. -/
def main (arguments : List String) : IO UInt32 := do
  let here : CppSurface.Path := ⟨(← IO.currentDir).toString⟩
  let includeEnv ← IO.getEnv "INCLUDE"
  let empty : FileTree := ⟨[], locationOf here⟩
  let starts := here :: arguments.map CppSurface.Path.mk
  let candidates := starts.flatMap fun p => p :: settingsCandidates p.text.length p
  let files ← candidates.foldlM addPath (empty.ensureDirectories (locationOf here))
  match ← settle arguments includeEnv 10000 ⟨files, []⟩ with
  | none => return 1
  | some conclusion =>
    IO.print conclusion.stdout
    conclusion.stderr.forM IO.eprintln
    match conclusion.logged with
    | some (target, records) => writeLog target records
    | none => pure ()
    return UInt32.ofNat conclusion.exitCode
