import CppSurface.Path
import CppSurface.Pattern

/-!
# Which includes are followed

A survey may follow the includes of a file or not.  An include is followed when no exclusion
matches at the start of its canonical path, when some inclusion does (if there are any), and when
it is no header of the system, should those be skipped.
-/

namespace CppSurface

open CppSurface.Text

namespace Path

/-- The directories of systems and toolchains. -/
def systemMarks : List String :=
  ["/Toolchains/", "/SDKs/", "/usr/include/", "/usr/local/include/", "/usr/lib/gcc/",
   "/lib/clang/"]

/-- **Whether a path looks like that of a system header.**  The empty path counts as one. -/
def isSystemHeader (p : Path) : Bool :=
  systemMarks.any (fun mark => occursIn mark.toList p.text.toList) || p.text.isEmpty

end Path

/-- The choices of a survey. -/
structure SurveyOptions where
  traverseIncludes : Bool
  includePatterns : List Pattern
  excludePatterns : List Pattern
  skipSystemHeaders : Bool
  maxAliasPasses : Nat
  deriving Repr, DecidableEq

namespace SurveyOptions

/-- Whether an include with this canonical path is followed. -/
def admits (o : SurveyOptions) (p : Path) : Bool :=
  !o.excludePatterns.any (fun pattern => pattern.matchesStart p.text) &&
    (o.includePatterns.isEmpty || o.includePatterns.any fun pattern => pattern.matchesStart p.text) &&
    !(o.skipSystemHeaders && p.isSystemHeader)

end SurveyOptions

end CppSurface
