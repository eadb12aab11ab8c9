import CppSurface.Text.Trim
import CppSurface.Text.Runs

/-!
# Diagnostics

The messages of the compiler, as it prints them and as they are read back.  A printed diagnostic is
`FILE:LINE:COLUMN: SEVERITY: MESSAGE`, or `SEVERITY: MESSAGE` when it has no place; a message of
the compiler driver has the name of the program in front.

A line is read by trying, in this order: the shortest file name after which a place, a severity
and a message follow; a program name; and neither.
-/

namespace CppSurface

open CppSurface.Text

/-- How grave a diagnostic is. -/
inductive Severity where
  | fatal
  | error
  | warning
  | note
  deriving Repr, DecidableEq

namespace Severity

/-- The words for a severity. -/
def spelling : Severity → String
  | fatal => "fatal error"
  | error => "error"
  | warning => "warning"
  | note => "note"

/-- The severity that words spell.  Whatever is not known is a note. -/
def ofSpelling (s : String) : Severity :=
  if s = "fatal error" then .fatal
  else if s = "error" then .error
  else if s = "warning" then .warning
  else .note

@[simp] theorem ofSpelling_spelling (s : Severity) : ofSpelling s.spelling = s := by
  cases s <;> decide

/-- The severities in the order in which a line is tried for them. -/
def candidates : List Severity := [.fatal, .error, .warning, .note]

end Severity

/-- A message of the compiler. -/
structure Diagnostic where
  file : Option String
  line : UInt32
  column : UInt32
  severity : Severity
  message : String
  deriving Repr, DecidableEq

namespace Diagnostic

/-- Whether the unit cannot be used. -/
def isError (d : Diagnostic) : Bool := d.severity == .fatal || d.severity == .error

/-! ## 1. Printing -/

/-- **The text of a diagnostic.** -/
def text (d : Diagnostic) : String :=
  match d.file with
  | some file =>
    file ++ ":" ++ toString d.line.toNat ++ ":" ++ toString d.column.toNat ++ ": " ++
      d.severity.spelling ++ ": " ++ d.message
  | none => d.severity.spelling ++ ": " ++ d.message

/-! ## 2. Reading -/

/-- The number that digits spell; `0` when they are not all ASCII or do not fit 32 bits. -/
def number (digits : List Char) : UInt32 :=
  if digits.all isAsciiDigit then
    let n := digits.foldl (fun n c => n * 10 + (c.toNat - 48)) 0
    if n < UInt32.size then UInt32.ofNat n else 0
  else 0

/-- Read digits and a colon. -/
def readNumber? (cs : List Char) : Option (UInt32 × List Char) :=
  match cs.takeWhile isDecimal, cs.dropWhile isDecimal with
  | d :: digits, ':' :: rest => some (number (d :: digits), rest)
  | _, _ => none

/-- Read `:LINE:COLUMN:`. -/
def readPlace? : List Char → Option (UInt32 × UInt32 × List Char)
  | ':' :: cs =>
    match readNumber? cs with
    | some (line, rest) =>
      match readNumber? rest with
      | some (column, rest') => some (line, column, rest')
      | none => none
    | none => none
  | _ => none

/-- Read a severity, its colon and the white space after it; what is left is the message. -/
def readSeverity? (cs : List Char) : Option (Severity × List Char) :=
  Severity.candidates.findSome? fun s =>
    let word := s.spelling.toList ++ [':']
    if word.isPrefixOf cs then some (s, trimStart (cs.drop word.length)) else none

/-- Read white space, a severity and a message. -/
def readMessage? (cs : List Char) : Option (Severity × List Char) := readSeverity? (trimStart cs)

/-- Read a diagnostic with a place.  The file's name is the shortest one that lets the rest be
read. -/
def readLocated? : (fileReversed : List Char) → List Char → Option Diagnostic
  | _, [] => none
  | file, c :: cs =>
    let here := (readPlace? (c :: cs)).bind fun (line, column, rest) =>
      (readMessage? rest).map fun (severity, message) =>
        (⟨some (String.ofList file.reverse), line, column, severity, String.ofList message⟩ :
          Diagnostic)
    match here with
    | some d => some d
    | none => readLocated? (c :: file) cs

/-- A diagnostic without a place. -/
def unlocated (severity : Severity) (message : List Char) : Diagnostic :=
  ⟨none, 0, 0, severity, String.ofList message⟩

/-- A character of a program's name. -/
def isProgramChar (c : Char) : Bool := !isBlank c && c != ':'

/-- Read a program's name, its colon and a message. -/
def readProgram? (cs : List Char) : Option Diagnostic :=
  match cs.takeWhile isProgramChar, cs.dropWhile isProgramChar with
  | _ :: _, ':' :: rest => (readMessage? rest).map fun (s, m) => unlocated s m
  | _, _ => none

/-- **Read one line.** -/
def ofLine? (cs : List Char) : Option Diagnostic :=
  (readLocated? [] cs).or
    ((readProgram? cs).or ((readMessage? cs).map fun (s, m) => unlocated s m))

/-- **The diagnostics in what the compiler printed**, in order. -/
def ofOutput (cs : List Char) : List Diagnostic := (lines cs).filterMap ofLine?

end Diagnostic

end CppSurface
