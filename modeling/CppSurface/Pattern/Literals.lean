import CppSurface.Pattern.Expr

/-!
# The size of an alternation of literals

A pattern that takes more than `weightLimit` in compiled form is refused.  `Expr.weight` adds up
what the parts of an expression take.  Alternatives that are literals, all of them, are compiled
together: to a tree in which the literals share the bytes they begin with.  They are compiled
twice, for reading forwards and for reading backwards, and neither tree may be too large.

The tree is not built.  `branches` tells which of the literals are still together after one more
byte, and `treesRoom` goes down level by level and adds up the nodes it meets.
-/

namespace CppSurface.Pattern.Literals

/-! ## 1. Literals as bytes -/

/-- The bytes of a literal. -/
def bytes (literal : String) : List UInt8 := literal.toList.flatMap String.utf8EncodeChar

/-- Put what follows a byte with the others that follow the same byte. -/
def join (b : UInt8) (rest : List UInt8) :
    List (UInt8 × List (List UInt8)) → List (UInt8 × List (List UInt8))
  | [] => [(b, [rest])]
  | (c, group) :: more =>
    if c = b then (c, rest :: group) :: more else (c, group) :: join b rest more

/-- What follows the first byte of the literals, for each such byte. -/
def branches : List (List UInt8) → List (UInt8 × List (List UInt8))
  | [] => []
  | [] :: literals => branches literals
  | (b :: rest) :: literals => join b rest (branches literals)

/-! ## 2. The tree -/

/-- The room of a state of a compiled pattern. -/
def stateRoom : Nat := 32

/-- The room that one of several ranges of bytes takes in a state. -/
def rangeRoom : Nat := 8

/-- The room that a state to try next takes. -/
def targetRoom : Nat := 4

/-- The room of one node of the tree: a state for the next byte, and a state that tries it.  The
latter may also find that a literal ends here.  Where all of them end there is no node. -/
def nodeRoom (literals : List (List UInt8)) : Nat :=
  let ways := (branches literals).length
  let ends := if literals.contains [] then 1 else 0
  if ways = 0 then 0
  else 2 * stateRoom + (if ways = 1 then 0 else ways * rangeRoom) + (1 + ends) * targetRoom

/-- The room of several trees, added to `room`.  `depth` bounds the length of the literals. -/
def treesRoom : (depth room : Nat) → List (List (List UInt8)) → Nat
  | 0, room, _ => room
  | depth + 1, room, trees =>
    treesRoom depth (trees.foldl (fun room literals => room + nodeRoom literals) room)
      (trees.flatMap fun literals => (branches literals).map Prod.snd)

/-! ## 3. The alternation -/

/-- The room of one literal by itself: a state for each byte. -/
def chainRoom (literal : List UInt8) : Nat := stateRoom * max literal.length 1

/-- The room of an alternation of literals.  An empty one among several keeps them from sharing
anything. -/
def choiceRoom : List (List UInt8) → Nat
  | [literal] => chainRoom literal
  | literals =>
    if literals.contains [] then
      literals.foldl (fun room literal => room + targetRoom + chainRoom literal) (2 * stateRoom)
    else treesRoom ((literals.map List.length).foldl max 0) stateRoom [literals]

/-- What stands around the alternation: the search for a place, the two word boundaries, and the
end of the match. -/
def frameRoom : Nat := 6 * stateRoom + rangeRoom + 2 * targetRoom

/-- The two states that note where a match begins and ends.  Only the pattern that is read forwards
has them. -/
def noteRoom : Nat := 2 * stateRoom

/-- **Whether the pattern of literals between word boundaries is small enough**, in both
directions. -/
def fits (literals : List String) : Bool :=
  let spelled := literals.map bytes
  decide (frameRoom + noteRoom + choiceRoom spelled ≤ weightLimit) &&
    decide (frameRoom + choiceRoom (spelled.map List.reverse) ≤ weightLimit)

/-- A single literal fits if it has no more than 327671 bytes. -/
theorem fits_singleton (literal : String) :
    fits [literal] = decide ((bytes literal).length ≤ 327671) := by
  have hroom : ∀ cs : List UInt8, choiceRoom [cs] = 32 * max cs.length 1 := fun _ => rfl
  have hfits : fits [literal] = (decide (272 + 32 * max (bytes literal).length 1 ≤ 10485760) &&
      decide (208 + 32 * max (bytes literal).reverse.length 1 ≤ 10485760)) := rfl
  rw [hfits, List.length_reverse, ← Bool.decide_and]
  exact decide_eq_decide.mpr (by omega)

end CppSurface.Pattern.Literals
