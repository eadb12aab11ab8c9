import CppSurface.Record

/-!
# Policies

A policy says which words may stand in a published type.  It may first ask whether a word names a
value type that holds up, and its next question may depend on the answer.  So a policy assigns to
each word an *inquiry*: a finite tree of questions with an answer at each leaf.
-/

namespace CppSurface

/-! ## 1. Inquiries -/

/-- Questions about words, each followed by what its answer calls for, and a final answer. -/
inductive Inquiry where
  | answer (verdict : Bool)
  | ask (token : String) (next : Bool → Inquiry)

/-- A policy: the inquiry that each word gives rise to. -/
abbrev Policy := String → Inquiry

namespace Inquiry

/-- The answer of an inquiry when each question is answered by `known`. -/
def outcome (known : String → Bool) : Inquiry → Bool
  | answer verdict => verdict
  | ask token next => (next (known token)).outcome known

/-- The words that an inquiry asks about when each question is answered by `known`. -/
def questions (known : String → Bool) : Inquiry → List String
  | answer _ => []
  | ask token next => token :: (next (known token)).questions known

end Inquiry

namespace Policy

/-! ## 2. Simple policies -/

/-- Accepts every word. -/
def acceptAll : Policy := fun _ => .answer true

/-- Accepts no word. -/
def rejectAll : Policy := fun _ => .answer false

/-- Accepts the names of value types. -/
def structsOnly : Policy := fun token => .ask token .answer

end Policy

/-! ## 3. Allow lists -/

/-- Words that may stand in a type, and words that say nothing about it. -/
structure AllowList where
  accepted : List String
  ignored : List String
  deriving Repr, DecidableEq

namespace AllowList

/-- The list without words. -/
def empty : AllowList := ⟨[], []⟩

/-- The arithmetic types, and the standard containers that are passed by value. -/
def standardAccepted : List String :=
  ["double", "int32_t", "int64_t", "uint32_t", "uint64_t", "int", "bool", "float", "char",
   "vector", "map", "pair", "tuple", "string", "void"]

/-- The words that qualify a type and name none. -/
def standardIgnored : List String := ["const", "signed", "unsigned", "std"]

/-- The standard list. -/
def standard : AllowList := ⟨standardAccepted, standardIgnored⟩

/-- Accept one more word. -/
def accept (a : AllowList) (token : String) : AllowList :=
  { a with accepted := a.accepted ++ [token] }

/-- Ignore one more word. -/
def ignore (a : AllowList) (token : String) : AllowList :=
  { a with ignored := a.ignored ++ [token] }

/-- Whether a word is on either list. -/
def lists (a : AllowList) (token : String) : Bool :=
  a.accepted.contains token || a.ignored.contains token

/-- **The policy of an allow list**: a listed word passes, any other must name a value type. -/
def policy (a : AllowList) : Policy := fun token =>
  if a.lists token then .answer true else .ask token .answer

end AllowList

end CppSurface
