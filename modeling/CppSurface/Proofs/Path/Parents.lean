import CppSurface.Path
import CppSurface.Proofs.Text.Lines
import Mathlib.Data.List.DropRight

/-!
# The components of parents and of inner paths

`parent?` and `join` work on the spelling of a path.  What they do is said here in terms of its
components: the parent has all but the last of them (`parent?_eq_some`), only the root and the empty
path have none (`parent?_eq_none`), and a path inside a directory has the components of the
directory and one more (`segments_join`).  Neither changes whether the path is absolute.

Segments that name no component stand in the way.  The root and a leading `.` are components for
which no segment stands, and the other components are those that the segments name
(`components_eq`).
-/

namespace CppSurface

open CppSurface.Text

namespace Path

variable {p q dir : Path} {segment name : List Char} {segments parts body kept : List (List Char)}
  {sep : Char} {cs ds : List Char}

/-! ## 1. Segments -/

theorem splitAt_append_sep (cs ds : List Char) :
    splitAt sep (cs ++ sep :: ds) = splitAt sep cs ++ splitAt sep ds := by
  induction cs with
  | nil => simp [splitAt]
  | cons c cs ih =>
    rw [List.cons_append, splitAt, splitAt]
    by_cases hc : c = sep
    · rw [if_pos hc, if_pos hc, ih, List.cons_append]
    · rw [if_neg hc, if_neg hc, ih]
      cases hparts : splitAt sep cs with
      | nil => exact absurd hparts (splitAt_ne_nil sep cs)
      | cons part rest => rfl

theorem notMem_of_mem_splitAt : ∀ part ∈ splitAt sep cs, sep ∉ part := by
  induction cs with
  | nil => simp [splitAt]
  | cons c cs ih =>
    rw [splitAt]
    by_cases hc : c = sep
    · rw [if_pos hc]
      exact List.forall_mem_cons.mpr ⟨List.not_mem_nil, ih⟩
    · rw [if_neg hc]
      cases hparts : splitAt sep cs with
      | nil => exact absurd hparts (splitAt_ne_nil sep cs)
      | cons part rest =>
        rw [hparts] at ih
        obtain ⟨hpart, hrest⟩ := List.forall_mem_cons.mp ih
        exact List.forall_mem_cons.mpr ⟨by simp [Ne.symm hc, hpart], hrest⟩

/-- Parts that hold no separator are got back from the text that joins them. -/
theorem splitAt_joinWith (hne : parts ≠ []) (h : ∀ part ∈ parts, sep ∉ part) :
    splitAt sep (joinWith [sep] parts) = parts := by
  induction parts with
  | nil => exact absurd rfl hne
  | cons part rest ih =>
    obtain ⟨hpart, hrest⟩ := List.forall_mem_cons.mp h
    cases rest with
    | nil => exact splitAt_of_notMem hpart
    | cons next more =>
      rw [joinWith, List.append_assoc, List.singleton_append, splitAt_append_cons hpart,
        ih (by simp) hrest]
      simp

theorem segments_ofSegments (hne : segments ≠ []) (h : ∀ s ∈ segments, '/' ∉ s) :
    (ofSegments segments).segments = segments := by
  rw [Path.segments, ofSegments, String.toList_ofList, splitAt_joinWith hne h]

theorem slash_notMem (p : Path) : ∀ s ∈ p.segments, '/' ∉ s := notMem_of_mem_splitAt

theorem segments_eq_iff : p.segments = [[]] ↔ p.text = "" := by
  constructor
  · intro h
    have hjoin := joinWith_splitAt '/' p.text.toList
    rw [← Path.segments, h] at hjoin
    exact String.toList_eq_nil_iff.mp hjoin.symm
  · intro h
    rw [Path.segments, h]
    rfl

/-- A path is absolute if its first segment is empty, and not the only one. -/
theorem isAbsolute_iff : p.isAbsolute = true ↔ ∃ body, body ≠ [] ∧ p.segments = [] :: body := by
  rw [isAbsolute, Path.segments]
  cases p.text.toList with
  | nil => simp [splitAt]
  | cons c cs =>
    by_cases hc : c = '/'
    · simp [splitAt, hc]
    · cases hparts : splitAt '/' cs <;> simp [splitAt, hc, hparts, consPart]

/-! ## 2. Components -/

/-- The components of a path for which no segment stands. -/
def lead : List (List Char) → List Component
  | [[]] => []
  | [] :: _ => [.root]
  | ['.'] :: _ => [.here]
  | _ => []

/-- **The components of a path** are those that its segments name, after the root or a leading
`.`. -/
theorem components_eq (p : Path) :
    p.components = lead p.segments ++ p.segments.filterMap component? := by
  rw [components]
  generalize p.segments = segments
  unfold componentsOfSegments lead
  split
  all_goals simp_all [component?]

theorem component?_eq_none_iff : component? segment = none ↔ segment = [] ∨ segment = ['.'] := by
  unfold component?
  split
  · rename_i hidle
    exact iff_of_true rfl hidle
  · rename_i hidle
    refine iff_of_false ?_ hidle
    split <;> simp

theorem of_segments_root (hbody : body ≠ []) (h : p.segments = [] :: body) :
    p.isAbsolute = true ∧ p.components = .root :: body.filterMap component? := by
  refine ⟨isAbsolute_iff.mpr ⟨body, hbody, h⟩, ?_⟩
  cases body with
  | nil => exact absurd rfl hbody
  | cons s rest => simp [components_eq, h, lead, component?]

theorem of_segments_here (h : p.segments = ['.'] :: body) :
    p.isAbsolute = false ∧ p.components = .here :: body.filterMap component? := by
  refine ⟨Bool.eq_false_iff.mpr fun habsolute => ?_, ?_⟩
  · obtain ⟨body', -, h'⟩ := isAbsolute_iff.mp habsolute
    exact absurd (h.symm.trans h') (by simp)
  · simp [components_eq, h, lead, component?]

theorem of_segments_named {c : Component} (h : p.segments = segment :: body)
    (hc : component? segment = some c) :
    p.isAbsolute = false ∧ p.components = p.segments.filterMap component? := by
  obtain ⟨hempty, hdot⟩ : segment ≠ [] ∧ segment ≠ ['.'] :=
    not_or.mp (mt component?_eq_none_iff.mpr (by simp [hc]))
  refine ⟨Bool.eq_false_iff.mpr fun habsolute => ?_, ?_⟩
  · obtain ⟨body', -, h'⟩ := isAbsolute_iff.mp habsolute
    exact hempty (List.head_eq_of_cons_eq (h.symm.trans h'))
  · rw [components_eq, h, lead] <;> simp [hempty, hdot]

theorem eq_name_of_component? {c : Component} (h : component? segment = some c) (hup : c ≠ .up) :
    c = .name segment := by
  unfold component? at h
  split at h
  · exact absurd h (by simp)
  · split at h
    · exact absurd (Option.some.inj h).symm hup
    · exact (Option.some.inj h).symm

/-- Segments that do not lead up spell names. -/
theorem exists_names (h : .up ∉ segments.filterMap component?) :
    ∃ names : List (List Char), segments.filterMap component? = names.map .name := by
  refine ⟨segments.filter fun s => (component? s).isSome, ?_⟩
  induction segments with
  | nil => rfl
  | cons s rest ih =>
    cases hs : component? s with
    | none =>
      rw [List.filterMap_cons_none hs] at h ⊢
      rw [ih h, List.filter_cons_of_neg (by simp [hs])]
    | some c =>
      rw [List.filterMap_cons_some hs] at h ⊢
      obtain ⟨hc, hrest⟩ := not_or.mp (mt List.mem_cons.mpr h)
      rw [ih hrest, List.filter_cons_of_pos (by simp [hs]), List.map_cons,
        eq_name_of_component? hs (Ne.symm hc)]

/-! ## 3. Parents -/

theorem dropIdle_eq (segments : List (List Char)) :
    dropIdle segments = segments.rdropWhile fun s => (component? s).isNone := rfl

theorem prefix_dropIdle (segments : List (List Char)) : dropIdle segments <+: segments :=
  List.rdropWhile_prefix _ segments

theorem filterMap_dropIdle (segments : List (List Char)) :
    (dropIdle segments).filterMap component? = segments.filterMap component? := by
  induction segments using List.reverseRecOn with
  | nil => rfl
  | append_singleton segments s ih =>
    rw [dropIdle_eq, List.rdropWhile_concat, ← dropIdle_eq]
    cases hs : component? s <;> simp [hs, ih]

/-- **The last segment that is kept names a component.** -/
theorem exists_concat_of_dropIdle (h : dropIdle segments ≠ []) :
    ∃ init s c, dropIdle segments = init ++ [s] ∧ component? s = some c := by
  obtain ⟨init, s, hs⟩ := (List.eq_nil_or_concat' (dropIdle segments)).resolve_left h
  have hlast := List.rdropWhile_last_not (fun s => (component? s).isNone) segments h
  obtain ⟨c, hc⟩ := Option.ne_none_iff_exists'.mp
    (show component? s ≠ none by simpa [← dropIdle_eq, hs] using hlast)
  exact ⟨init, s, c, hs, hc⟩

/-- Without its last component a path has the components that the rest of its segments names. -/
theorem filterMap_dropLast_dropIdle (h : dropIdle segments ≠ []) :
    ∃ c, segments.filterMap component? =
      (dropIdle (dropIdle segments).dropLast).filterMap component? ++ [c] := by
  obtain ⟨init, s, c, hkept, hc⟩ := exists_concat_of_dropIdle h
  refine ⟨c, ?_⟩
  rw [filterMap_dropIdle, ← filterMap_dropIdle segments, hkept, List.dropLast_concat,
    List.filterMap_append, List.filterMap_cons_some hc, List.filterMap_nil]

theorem prefix_kept (segments : List (List Char)) :
    dropIdle (dropIdle segments).dropLast <+: segments :=
  ((prefix_dropIdle _).trans (List.dropLast_prefix _)).trans (prefix_dropIdle _)

/-- A beginning of a path's segments is spelled by them, if it is not empty. -/
theorem segments_of_begins (h : segments <+: p.segments) (hne : segments ≠ []) :
    (ofSegments segments).segments = segments :=
  segments_ofSegments hne fun s hs => slash_notMem p s (h.subset hs)

theorem ofSegments_root (h : p.segments = [] :: body) (hkept : kept <+: body) (hne : kept ≠ []) :
    (ofSegments ([] :: kept)).isAbsolute = true ∧
      (ofSegments ([] :: kept)).components = .root :: kept.filterMap component? :=
  of_segments_root hne
    (segments_of_begins (h ▸ List.cons_prefix_cons.mpr ⟨rfl, hkept⟩) (List.cons_ne_nil _ _))

theorem ofSegments_here (h : p.segments = ['.'] :: body) (hkept : kept <+: body) :
    (ofSegments (['.'] :: kept)).isAbsolute = false ∧
      (ofSegments (['.'] :: kept)).components = .here :: kept.filterMap component? :=
  of_segments_here
    (segments_of_begins (h ▸ List.cons_prefix_cons.mpr ⟨rfl, hkept⟩) (List.cons_ne_nil _ _))

/-- What is kept of a path that begins with a component begins with it too, or is nothing. -/
theorem ofSegments_named {c : Component} (h : p.segments = segment :: body)
    (hc : component? segment = some c) (hkept : kept <+: p.segments) :
    (ofSegments kept).isAbsolute = false ∧
      (ofSegments kept).components = kept.filterMap component? := by
  cases kept with
  | nil => exact ⟨by decide, by decide⟩
  | cons s rest =>
    have hsegments : (ofSegments (s :: rest)).segments = s :: rest :=
      segments_of_begins hkept (List.cons_ne_nil _ _)
    obtain rfl : s = segment := (List.cons_prefix_cons.mp (h ▸ hkept)).1
    simpa [hsegments] using of_segments_named hsegments hc

/-- **The parent of a path** has all of its components but the last. -/
theorem parent?_eq_some (h : p.parent? = some q) :
    q.isAbsolute = p.isAbsolute ∧ ∃ c, p.components = q.components ++ [c] := by
  unfold parent? at h
  split at h
  · exact absurd h (by simp)
  · exact absurd h (by simp)
  · rename_i body hbody hsegments
    obtain ⟨habsolute, hcomponents⟩ := of_segments_root hbody hsegments
    split at h
    · exact absurd h (by simp)
    · rename_i hsteps
      obtain ⟨c, hc⟩ := filterMap_dropLast_dropIdle hsteps
      rw [habsolute, hcomponents, hc]
      split at h
      · rename_i hkept
        obtain rfl := Option.some.inj h
        exact ⟨by decide, c, by rw [hkept]; rfl⟩
      · rename_i hkept
        obtain rfl := Option.some.inj h
        obtain ⟨habsolute', hcomponents'⟩ := ofSegments_root hsegments (prefix_kept body) hkept
        exact ⟨habsolute', c, by rw [hcomponents', List.cons_append]⟩
  · rename_i body hsegments
    obtain ⟨hrelative, hcomponents⟩ := of_segments_here hsegments
    rw [hrelative, hcomponents]
    split at h
    · rename_i hsteps
      obtain rfl := Option.some.inj h
      exact ⟨by decide, .here, by rw [← filterMap_dropIdle, hsteps]; rfl⟩
    · rename_i hsteps
      obtain ⟨c, hc⟩ := filterMap_dropLast_dropIdle hsteps
      obtain rfl := Option.some.inj h
      obtain ⟨hrelative', hcomponents'⟩ := ofSegments_here hsegments (prefix_kept body)
      exact ⟨hrelative', c, by rw [hcomponents', hc, List.cons_append]⟩
  · rename_i hroot hhere
    obtain rfl := Option.some.inj h
    obtain ⟨segment, body, hsegments⟩ :=
      List.exists_cons_of_ne_nil (splitAt_ne_nil '/' p.text.toList)
    obtain ⟨c, hc⟩ : ∃ c, component? segment = some c := by
      refine Option.ne_none_iff_exists'.mp fun hidle => ?_
      rcases component?_eq_none_iff.mp hidle with rfl | rfl
      · exact hroot body hsegments
      · exact hhere body hsegments
    obtain ⟨hrelative, hcomponents⟩ := of_segments_named hsegments hc
    obtain ⟨hrelative', hcomponents'⟩ := ofSegments_named hsegments hc (prefix_kept p.segments)
    have hsteps : dropIdle p.segments ≠ [] := fun hnone => by
      have hfirst := filterMap_dropIdle p.segments
      rw [hnone, show p.segments = segment :: body from hsegments,
        List.filterMap_cons_some hc] at hfirst
      exact absurd hfirst (by simp)
    obtain ⟨last, hlast⟩ := filterMap_dropLast_dropIdle hsteps
    rw [hrelative, hcomponents, hcomponents']
    exact ⟨hrelative', last, hlast⟩

/-- **Only the root and the empty path have no parent.** -/
theorem parent?_eq_none (h : p.parent? = none) :
    p = ⟨""⟩ ∨ p.isAbsolute = true ∧ p.components = [.root] := by
  unfold parent? at h
  split at h
  · rename_i hsegments
    exact absurd hsegments (splitAt_ne_nil _ _)
  · rename_i hsegments
    exact Or.inl (congrArg Path.mk (segments_eq_iff.mp hsegments))
  · rename_i body hbody hsegments
    split at h
    · rename_i hsteps
      obtain ⟨habsolute, hcomponents⟩ := of_segments_root hbody hsegments
      rw [← filterMap_dropIdle, hsteps] at hcomponents
      exact Or.inr ⟨habsolute, hcomponents⟩
    · split at h <;> exact absurd h (by simp)
  · split at h <;> exact absurd h (by simp)
  · exact absurd h (by simp)

/-! ## 4. Inner paths -/

/-- **A path inside a directory** goes along the segments of the directory, apart from some that
name no component, and then along one more. -/
theorem segments_join (dir : Path) {inner : String} (hinner : '/' ∉ inner.toList) :
    (dir.join inner).isAbsolute = dir.isAbsolute ∧
    ∃ segments, (dir.join inner).segments = segments ++ [inner.toList] ∧
      segments.filterMap component? = dir.segments.filterMap component? := by
  have hsplit : splitAt '/' inner.toList = [inner.toList] := splitAt_of_notMem hinner
  have hhead : inner.toList.head? ≠ some '/' := fun h => hinner (List.mem_of_mem_head? h)
  by_cases hempty : dir.text = ""
  · rw [join, if_pos (Or.inr hempty)]
    refine ⟨?_, [], hsplit, ?_⟩
    · rw [isAbsolute, isAbsolute, hempty, beq_eq_false_iff_ne.mpr hhead]
      rfl
    · rw [segments_eq_iff.mpr hempty]
      rfl
  · have hdir : dir.text.toList ≠ [] := fun h => hempty (String.toList_eq_nil_iff.mp h)
    rw [join, if_neg (not_or.mpr ⟨hhead, hempty⟩)]
    split
    · rename_i hlast
      obtain ⟨init, hinit⟩ : ∃ init, dir.text.toList = init ++ ['/'] :=
        List.getLast?_eq_some_iff.mp hlast
      refine ⟨?_, splitAt '/' init, ?_, ?_⟩
      · rw [isAbsolute, isAbsolute, String.toList_append, List.head?_append_of_ne_nil _ hdir]
      · rw [Path.segments, String.toList_append, hinit, List.append_assoc, List.singleton_append,
          splitAt_append_sep, hsplit]
      · rw [Path.segments, hinit, splitAt_append_sep, List.filterMap_append]
        simp [splitAt, component?]
    · refine ⟨?_, dir.segments, ?_, rfl⟩
      · rw [isAbsolute, isAbsolute, String.toList_append, String.toList_append, List.append_assoc,
          List.head?_append_of_ne_nil _ hdir]
      · rw [Path.segments, String.toList_append, String.toList_append, List.append_assoc]
        change splitAt '/' (dir.text.toList ++ '/' :: inner.toList) = _
        rw [splitAt_append_sep, hsplit, Path.segments]

/-! ## 5. The number of components -/

theorem length_splitAt_le (cs : List Char) : (splitAt sep cs).length ≤ cs.length + 1 := by
  induction cs with
  | nil => exact Nat.le_refl _
  | cons c cs ih =>
    rw [splitAt]
    split
    · exact Nat.succ_le_succ ih
    · cases hparts : splitAt sep cs with
      | nil => exact absurd hparts (splitAt_ne_nil sep cs)
      | cons part rest =>
        rw [hparts] at ih
        exact Nat.le_succ_of_le ih

/-- A path has hardly more components than its text has characters. -/
theorem length_components_le (p : Path) : p.components.length ≤ p.text.length + 1 := by
  have hcomponents : p.components.length ≤ p.segments.length := by
    rw [components]
    generalize p.segments = segments
    unfold componentsOfSegments
    split
    · exact Nat.zero_le _
    · exact Nat.zero_le _
    · exact Nat.succ_le_succ (List.length_filterMap_le _ _)
    · exact Nat.succ_le_succ (List.length_filterMap_le _ _)
    · exact List.length_filterMap_le _ _
  exact hcomponents.trans (length_splitAt_le _)

end Path

end CppSurface
