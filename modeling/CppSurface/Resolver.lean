import CppSurface.Policy
import CppSurface.TypeText

/-!
# Resolution of value types

A value type can be published only if each of its member types can.  A type text passes when the
policy accepts each of its words, or when the whole text names a value type that holds up; and the
policy may itself ask whether a word names such a type.  Value types may refer to each other in
circles, so a type whose check is under way counts as one that holds.  When a check fails, all
acceptances made since it began are taken back, because they may have leaned on it.

Every check is a `Step`: it reads and changes a `Session` and answers yes or no.  The recursion
goes through the policy and back.  Its depth is bounded by the number of types, since a type whose
check is under way is not checked again; `validate` takes that depth as an argument, and a step
that would exceed it has no answer.  `Resolver.depth` is deep enough for every check.
-/

namespace CppSurface

/-! ## 1. What has been accepted -/

/-- The types accepted so far and those whose check is under way.  `order` lists acceptances as
they were made and is what is read out in the end; `accepted` is the set of them, in which a type
is looked up. -/
structure Visited where
  order : List TypeKey
  accepted : List TypeKey
  inProgress : List TypeKey
  deriving Repr, DecidableEq

namespace Visited

/-- Nothing accepted, nothing under way. -/
def empty : Visited := ⟨[], [], []⟩

/-- Whether a type is accepted, or under way and so taken to hold. -/
def contains (v : Visited) (k : TypeKey) : Bool := k.within v.accepted || k.within v.inProgress

/-- Begin the check of a type. -/
def enter (v : Visited) (k : TypeKey) : Visited := { v with inProgress := k :: v.inProgress }

/-- End the check of a type. -/
def leave (v : Visited) (k : TypeKey) : Visited :=
  { v with inProgress := v.inProgress.filter fun l => !k.same l }

/-- Accept a type, if it is not accepted already. -/
def accept (v : Visited) (k : TypeKey) : Visited :=
  if k.within v.accepted then v
  else { v with order := v.order ++ [k], accepted := v.accepted ++ [k] }

/-- Take back every acceptance after the first `n`: each leaves the order, and its type the set. -/
def rollback (v : Visited) (n : Nat) : Visited :=
  { v with
    order := v.order.take n
    accepted := v.accepted.filter fun k => !k.within (v.order.drop n) }

end Visited

/-- A run of checks: what has been accepted, and the words the policy was asked about, the last
one first. -/
structure Session where
  visited : Visited
  asked : List String
  deriving Repr, DecidableEq

/-- The session before the first check. -/
def Session.start : Session := ⟨.empty, []⟩

/-- The words asked about after an earlier moment of the session, in order. -/
def Session.askedSince (later earlier : Session) : List String :=
  (later.asked.take (later.asked.length - earlier.asked.length)).reverse

/-! ## 2. Steps -/

/-- A check: an answer and the session after it, or nothing when it nests too deep. -/
abbrev Step := Session → Option (Bool × Session)

namespace Step

/-- Answer without a check. -/
def pure (b : Bool) : Step := fun s => some (b, s)

/-- Both checks hold; the second is made only if the first holds. -/
def and (p q : Step) : Step := fun s =>
  match p s with
  | some (true, s') => q s'
  | other => other

/-- One of two checks holds; the second is made only if the first fails. -/
def or (p q : Step) : Step := fun s =>
  match p s with
  | some (false, s') => q s'
  | other => other

/-- Every element passes its check; none is made after the first failure. -/
def all {α : Type} (check : α → Step) : List α → Step
  | [] => pure true
  | a :: as => (check a).and (all check as)

/-- Note that the policy is asked about a word. -/
def note (token : String) (p : Step) : Step := fun s => p { s with asked := token :: s.asked }

/-- Carry out an inquiry, with a check for each of its questions. -/
def inquire (verify : String → Step) : Inquiry → Step
  | .answer verdict => pure verdict
  | .ask token next => fun s =>
    match verify token s with
    | some (b, s') => inquire verify (next b) s'
    | none => none

end Step

/-! ## 3. The resolver -/

/-- The value types of a unit and the policy they are checked under. -/
structure Resolver where
  types : List ValueType
  policy : Policy

namespace Resolver

/-- The first value type of a name. -/
def find? (r : Resolver) (name : String) : Option ValueType :=
  r.types.find? fun t => t.name == name

/-- The first value type of a key. -/
def get? (r : Resolver) (k : TypeKey) : Option ValueType :=
  r.types.find? fun t => t.key.same k

/-- Every word of a type text passes the policy, whose questions `verify` answers. -/
def textWith (r : Resolver) (verify : String → Step) (text : String) : Step :=
  Step.all (fun token => Step.note token (Step.inquire verify (r.policy token)))
    (TypeText.tokens text)

/-- The value type that a text names holds up. -/
def namedWith (r : Resolver) (check : ValueType → Step) (text : String) : Step :=
  match r.find? text with
  | some t => check t
  | none => Step.pure false

/-- A member type of `owner` passes: by its words, or as the name of a value type.  A type may
hold itself. -/
def memberWith (r : Resolver) (check : ValueType → Step) (owner : ValueType) (text : String) :
    Step :=
  (r.textWith (r.namedWith check) text).or
    (match r.find? text with
      | some t => if t.key.same owner.key then Step.pure true else check t
      | none => Step.pure false)

/-- Conclude the check of a type: accept it, or take back what was accepted since it began. -/
def conclude (k : TypeKey) (checkpoint : Nat) (holds : Bool) (s : Session) : Session :=
  let v := s.visited.leave k
  { s with visited := if holds then v.accept k else v.rollback checkpoint }

/-- **The check of a value type**, with at most `depth` checks nested in one another. -/
def validate (r : Resolver) : (depth : Nat) → ValueType → Step
  | 0, _ => fun _ => none
  | depth + 1, t => fun s =>
    if s.visited.contains t.key then some (true, s)
    else
      match Step.all (r.memberWith (r.validate depth) t) t.memberTypes
          { s with visited := s.visited.enter t.key } with
      | some (holds, s') => some (holds, conclude t.key s.visited.order.length holds s')
      | none => none

/-- A depth that no check exceeds: every value type once, the one that is asked about, and the
one that is found to be under way. -/
def depth (r : Resolver) : Nat := r.types.length + 2

/-! ## 4. The questions -/

/-- Carry out a step.  A step that has no answer would be one that nests deeper than `depth`. -/
def run (p : Step) (s : Session) : Bool × Session := (p s).getD (false, s)

/-- **Whether a value type holds up.** -/
def checkValueType (r : Resolver) (t : ValueType) (s : Session) : Bool × Session :=
  run (r.validate r.depth t) s

/-- **Whether a word names a value type that holds up.** -/
def checkName (r : Resolver) (name : String) (s : Session) : Bool × Session :=
  run (r.namedWith (r.validate r.depth) name) s

/-- **Whether every word of a text passes the policy.** -/
def checkText (r : Resolver) (text : String) (s : Session) : Bool × Session :=
  run (r.textWith (r.namedWith (r.validate r.depth)) text) s

/-- A type text of a function passes: by its words, or as the name of a value type. -/
def signatureType (r : Resolver) (text : String) : Step :=
  (r.textWith (r.namedWith (r.validate r.depth)) text).or
    (r.namedWith (r.validate r.depth) text)

/-- **Whether a function can be published**: its parameter types pass, and then its return type. -/
def checkFunction (r : Resolver) (f : Signature) (s : Session) : Bool × Session :=
  run (Step.all r.signatureType (f.parameters.simpleTypes ++ [f.simpleReturnType])) s

/-- The accepted value types, in the order of acceptance. -/
def required (r : Resolver) (s : Session) : List ValueType :=
  s.visited.order.filterMap r.get?

end Resolver

end CppSurface
