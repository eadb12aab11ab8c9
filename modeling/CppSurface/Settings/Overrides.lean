import CppSurface.Settings

/-!
# Overrides

What a caller may lay over the settings after they were read: lists grow at their end, single
values are replaced, following includes can only be switched off, and the log level can only be
raised.  The settings are brought into normal form afterwards, whether or not they were in normal
form before.
-/

namespace CppSurface

/-- Changes to the settings. -/
structure Overrides where
  includePaths : List String := []
  extraFlags : List String := []
  includePatterns : List String := []
  excludePatterns : List String := []
  std : Option String := none
  clang : Option String := none
  maxAliasPasses : Option Nat := none
  /-- Whether includes are not to be followed. -/
  noIncludes : Bool := false
  /-- Whether at least the debug level is wanted. -/
  verbose : Bool := false
  deriving Repr, DecidableEq

namespace Overrides

/-- The compiler's settings under the overrides. -/
def onCompiler (o : Overrides) (c : CompilerSettings) : CompilerSettings :=
  { c with
    clang := o.clang.getD c.clang
    std := o.std.getD c.std
    includePaths := c.includePaths ++ o.includePaths
    extraFlags := c.extraFlags ++ o.extraFlags }

/-- The traversal's settings under the overrides. -/
def onTraversal (o : Overrides) (t : TraversalSettings) : TraversalSettings :=
  { t with
    traverseIncludes := t.traverseIncludes && !o.noIncludes
    includePatterns := t.includePatterns ++ o.includePatterns
    excludePatterns := t.excludePatterns ++ o.excludePatterns
    maxAliasPasses := o.maxAliasPasses.getD t.maxAliasPasses }

/-- The log level under the overrides. -/
def onLevel (o : Overrides) (level : LogLevel) : LogLevel :=
  if o.verbose then level.max .debug else level

/-- The settings under the overrides, as they come. -/
def onSettings (o : Overrides) (s : Settings) : Settings :=
  ⟨o.onCompiler s.compiler, o.onTraversal s.traversal, o.onLevel s.level⟩

end Overrides

/-- **The settings under overrides**, in normal form. -/
def Settings.override (s : Settings) (o : Overrides) : Settings := (o.onSettings s).normalize

end CppSurface
