import CppSurface.Pattern.Reader

/-!
# Patterns

A pattern is kept with the text it was written as.
-/

namespace CppSurface

/-- A pattern and its text. -/
structure Pattern where
  text : String
  expr : Pattern.Expr
  deriving Repr, DecidableEq

namespace Pattern

/-- The pattern that a text denotes, if it is one. -/
def ofText? (text : String) : Option Pattern :=
  (Reader.read text.toList).map fun e => ⟨text, e⟩

/-- Read patterns up to the first text that is none. -/
def ofTexts? : List String → Option (List Pattern)
  | [] => some []
  | text :: rest =>
    match ofText? text, ofTexts? rest with
    | some p, some ps => some (p :: ps)
    | _, _ => none

/-- **Whether a match begins at the start of a text.** -/
def matchesStart (p : Pattern) (text : String) : Bool := p.expr.matchesStart text

end Pattern

end CppSurface
