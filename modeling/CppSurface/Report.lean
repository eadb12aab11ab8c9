import CppSurface.Path

/-!
# Reports

A function or type that is left out of the result is reported, with the file and the line where it
stands.  Source text that was given inline has no file.
-/

namespace CppSurface

/-- Something that was left out. -/
structure Report where
  name : String
  file : Option Path
  line : Option UInt32
  deriving Repr, DecidableEq

namespace Report

/-- The line that is shown for a report. -/
def text (r : Report) : String :=
  let file := match r.file with
    | some p => p.text
    | none => "<input>"
  match r.line with
  | some line => "unsupported: " ++ r.name ++ " (" ++ file ++ ":" ++ toString line.toNat ++ ")"
  | none => "unsupported: " ++ r.name ++ " (" ++ file ++ ")"

end Report

end CppSurface
