/-!
# Sets of code points

A set of code points is a list of closed ranges.  The operations bring it into normal form, in
which the ranges ascend and neither touch nor overlap; complements are taken within the code
points from `0` to U+10FFFF.
-/

namespace CppSurface.Pattern

/-- A set of code points, as closed ranges. -/
abbrev CodeSet := List (Nat × Nat)

namespace CodeSet

/-- The greatest code point. -/
def last : Nat := 0x10FFFF

/-- Whether a code point belongs to the set. -/
def has (s : CodeSet) (n : Nat) : Bool := s.any fun r => decide (r.1 ≤ n) && decide (n ≤ r.2)

/-- Join ascending ranges that touch or overlap, given the range that is open. -/
def mergeFrom : (lo hi : Nat) → CodeSet → CodeSet
  | lo, hi, [] => [(lo, hi)]
  | lo, hi, (lo', hi') :: rest =>
    if lo' ≤ hi + 1 then mergeFrom lo (max hi hi') rest else (lo, hi) :: mergeFrom lo' hi' rest

/-- The same set in normal form. -/
def normal (s : CodeSet) : CodeSet :=
  match s.mergeSort fun a b => decide (a.1 ≤ b.1) with
  | [] => []
  | (lo, hi) :: rest => mergeFrom lo hi rest

/-- The set of one code point. -/
def single (n : Nat) : CodeSet := [(n, n)]

/-- All code points. -/
def full : CodeSet := [(0, last)]

/-- The gaps of ascending ranges from `start` on. -/
def gapsFrom : (start : Nat) → CodeSet → CodeSet
  | start, [] => if start ≤ last then [(start, last)] else []
  | start, (lo, hi) :: rest =>
    if start < lo then (start, lo - 1) :: gapsFrom (hi + 1) rest else gapsFrom (hi + 1) rest

/-- The complement. -/
def compl (s : CodeSet) : CodeSet := gapsFrom 0 s.normal

/-- The union. -/
def union (s t : CodeSet) : CodeSet := normal (s ++ t)

/-- The intersection. -/
def inter (s t : CodeSet) : CodeSet := compl (union (compl s) (compl t))

/-- The difference. -/
def diff (s t : CodeSet) : CodeSet := inter s (compl t)

/-- The symmetric difference. -/
def symmDiff (s t : CodeSet) : CodeSet := diff (union s t) (inter s t)

/-- The complement, if it is asked for. -/
def complIf (negated : Bool) (s : CodeSet) : CodeSet := if negated then s.compl else s

/-- Whether the set lies below a bound. -/
def below (s : CodeSet) (bound : Nat) : Bool := s.all fun r => decide (r.2 < bound)

/-! ## Reading tables -/

/-- The value of a hexadecimal digit. -/
def hexValue? (c : Char) : Option Nat :=
  if '0' ≤ c ∧ c ≤ '9' then some (c.toNat - 48)
  else if 'a' ≤ c ∧ c ≤ 'f' then some (c.toNat - 87)
  else if 'A' ≤ c ∧ c ≤ 'F' then some (c.toNat - 55)
  else none

/-- The number that hexadecimal digits spell; other characters are passed over. -/
def hexNumber (cs : List Char) : Nat :=
  cs.foldl (fun n c => match hexValue? c with | some d => n * 16 + d | none => n) 0

/-- Cut a text at its separators. -/
def fields (isSeparator : Char → Bool) (s : String) : List (List Char) :=
  s.toList.foldr (fun c parts =>
    if isSeparator c then [] :: parts
    else match parts with
      | [] => [[c]]
      | part :: rest => (c :: part) :: rest) [[]]

/-- The range that a table entry spells: `lo-hi` or a single code point. -/
def entry (cs : List Char) : Nat × Nat :=
  let lo := hexNumber (cs.takeWhile (· ≠ '-'))
  let rest := cs.dropWhile (· ≠ '-')
  (lo, if rest.isEmpty then lo else hexNumber rest)

/-- The set that a table of ranges spells.  Blanks and line ends divide the ranges. -/
def ofTable (s : String) : CodeSet :=
  ((fields (fun c => c == ' ' || c == '\n') s).filter (fun cs => !cs.isEmpty)).map entry

end CodeSet

end CppSurface.Pattern
