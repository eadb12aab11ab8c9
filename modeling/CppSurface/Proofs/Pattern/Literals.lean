import CppSurface.Pattern.Literals
import Mathlib.Algebra.BigOperators.Group.List.Basic
import Mathlib.Algebra.Ring.Nat

/-!
# Short literals fit

The room of an alternation depends on what its literals share, in both directions, and is awkward
to say.  A bound is not: no byte of a literal costs more than 80 bytes of room.  At one node of the
tree each literal that goes on leaves a byte behind, and there are no more branches than literals
that go on; so the room of the node is paid for with the bytes left behind
(`nodeRoom_add_total_le`).  What is paid on one level is not there on the next, and this carries the
bound down all levels (`treesRoom_le`).
-/

namespace CppSurface.Pattern.Literals

variable {literals : List (List UInt8)}

/-- The number of bytes of several literals. -/
def total (literals : List (List UInt8)) : Nat := (literals.map List.length).sum

/-- The number of bytes in several groups of literals. -/
def totalOf (groups : List (UInt8 × List (List UInt8))) : Nat :=
  ((groups.map Prod.snd).map total).sum

/-! ## 1. One node -/

theorem totalOf_join (b : UInt8) (rest : List UInt8) (groups : List (UInt8 × List (List UInt8))) :
    totalOf (join b rest groups) = rest.length + totalOf groups := by
  induction groups with
  | nil => simp [join, totalOf, total]
  | cons group more ih =>
    obtain ⟨c, group⟩ := group
    rw [join]
    split
    · simp [totalOf, total, Nat.add_assoc]
    · simp only [totalOf, List.map_cons, List.sum_cons] at ih ⊢
      omega

theorem length_join_le (b : UInt8) (rest : List UInt8) (groups : List (UInt8 × List (List UInt8))) :
    (join b rest groups).length ≤ groups.length + 1 := by
  induction groups with
  | nil => exact Nat.le_refl _
  | cons group more ih =>
    obtain ⟨c, group⟩ := group
    rw [join]
    split
    · exact Nat.le_succ _
    · simpa using ih

/-- **Every literal that goes on leaves a byte behind**, and there are as many of them as branches
at least. -/
theorem totalOf_branches_add_le (literals : List (List UInt8)) :
    totalOf (branches literals) + (branches literals).length ≤ total literals := by
  induction literals with
  | nil => exact Nat.le_refl _
  | cons literal literals ih =>
    cases literal with
    | nil => simpa [branches, total] using ih
    | cons b rest =>
      have hlength := length_join_le b rest (branches literals)
      have htotal : total ((b :: rest) :: literals) = rest.length + 1 + total literals := by
        simp [total]
      rw [branches, totalOf_join, htotal]
      omega

theorem nodeRoom_le (literals : List (List UInt8)) :
    nodeRoom literals ≤ 80 * (branches literals).length := by
  simp only [nodeRoom, stateRoom, rangeRoom, targetRoom]
  split
  · exact Nat.zero_le _
  · split <;> split <;> omega

/-- **The room of a node is paid for with the bytes left behind.** -/
theorem nodeRoom_add_total_le (literals : List (List UInt8)) :
    nodeRoom literals + 80 * totalOf (branches literals) ≤ 80 * total literals := by
  have hroom := nodeRoom_le literals
  have htotal := totalOf_branches_add_le literals
  omega

/-! ## 2. The tree -/

/-- One level of trees pays for its nodes. -/
theorem levelRoom_le (room : Nat) (trees : List (List (List UInt8))) :
    trees.foldl (fun room literals => room + nodeRoom literals) room +
        80 * ((trees.flatMap fun literals => (branches literals).map Prod.snd).map total).sum ≤
      room + 80 * (trees.map total).sum := by
  induction trees generalizing room with
  | nil => exact Nat.le_refl _
  | cons literals trees ih =>
    have hnode := nodeRoom_add_total_le literals
    have hrest := ih (room + nodeRoom literals)
    rw [totalOf] at hnode
    simp only [List.foldl_cons, List.map_cons, List.sum_cons, List.flatMap_cons, List.map_append,
      List.sum_append]
    omega

/-- **The room of trees is at most 80 bytes for each byte of their literals.** -/
theorem treesRoom_le (depth room : Nat) (trees : List (List (List UInt8))) :
    treesRoom depth room trees ≤ room + 80 * (trees.map total).sum := by
  induction depth generalizing room trees with
  | zero => exact Nat.le_add_right _ _
  | succ depth ih => exact (ih _ _).trans (levelRoom_le room trees)

/-! ## 3. The alternation -/

/-- Literals that are not empty take no more than 80 bytes for each of their bytes. -/
theorem choiceRoom_le (h : [] ∉ literals) : choiceRoom literals ≤ 32 + 80 * total literals := by
  unfold choiceRoom
  split
  · rename_i literal
    have hne : literal.length ≠ 0 := by
      rintro hlength
      rw [List.length_eq_zero_iff] at hlength
      simp [hlength] at h
    simp only [chainRoom, stateRoom, total, List.map_cons, List.map_nil, List.sum_singleton]
    omega
  · rw [if_neg (by simpa using h)]
    have htrees := treesRoom_le ((literals.map List.length).foldl max 0) stateRoom [literals]
    simpa [stateRoom] using htrees

theorem length_bytes (literal : String) : (bytes literal).length = literal.utf8ByteSize := by
  have hbytes : literal.toByteArray = (bytes literal).toByteArray := by
    conv_lhs => rw [← String.ofList_toList (s := literal), String.toByteArray_ofList]
    rfl
  rw [← String.size_toByteArray, hbytes, List.size_toByteArray]

theorem bytes_eq_nil {literal : String} : bytes literal = [] ↔ literal = "" := by
  rw [← List.length_eq_zero_iff, length_bytes, String.utf8ByteSize_eq_zero_iff]

/-- **Literals of 131000 bytes in all are small enough**, whatever they share. -/
theorem fits_of_sum_le {names : List String} (hne : "" ∉ names)
    (h : (names.map String.utf8ByteSize).sum ≤ 131000) : fits names = true := by
  have hbytes : [] ∉ names.map bytes := by simpa [bytes_eq_nil] using hne
  have hreverse : [] ∉ (names.map bytes).map List.reverse := by simpa using hbytes
  have hforwards : total (names.map bytes) = (names.map String.utf8ByteSize).sum := by
    simp [total, Function.comp_def, length_bytes]
  have hbackwards : total ((names.map bytes).map List.reverse) = total (names.map bytes) := by
    simp [total, Function.comp_def]
  have hroom := choiceRoom_le hbytes
  have hroom' := choiceRoom_le hreverse
  rw [fits, Bool.and_eq_true, decide_eq_true_eq, decide_eq_true_eq]
  simp only [frameRoom, noteRoom, stateRoom, rangeRoom, targetRoom, weightLimit]
  omega

end CppSurface.Pattern.Literals
