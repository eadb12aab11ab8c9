import CppSurface.FileTree
import CppSurface.Proofs.Path.Parents

/-!
# Where a path passes

In a file tree without links, a path leads from its origin, the root or the working directory, along
its components: a name goes down into what has this name, and `..` goes back up.  The places that it
passes before its last component are all directories (`resolve_ok`), and where they are, a path that
goes on from the last of them to an entry leads to this entry (`resolve_join`).

A path that only goes down passes the directories above its end and no others, each once, from its
origin on (`passes_names`).
-/

namespace CppSurface

open CppSurface.Path

namespace FileTree

variable {t : FileTree} {p : Path} {here location : List (List Char)}
  {segments names : List (List Char)} {segment : List Char} {cs : List Component}
  {follow : List (List Char) → List (List Char) → Except Failure (List (List Char))}

/-! ## 1. Places on the way -/

/-- One component further. -/
def advance (here : List (List Char)) : Component → List (List Char)
  | .root => []
  | .here => here
  | .up => here.dropLast
  | .name n => here ++ [n]

/-- The place that components lead to. -/
def placeAfter (here : List (List Char)) (cs : List Component) : List (List Char) :=
  cs.foldl advance here

/-- **The places that components pass**, each before one of them, in this order. -/
def passes (here : List (List Char)) : List Component → List (List (List Char))
  | [] => []
  | c :: rest => here :: passes (advance here c) rest

theorem passes_concat (here : List (List Char)) (cs : List Component) (c : Component) :
    passes here (cs ++ [c]) = passes here cs ++ [placeAfter here cs] := by
  induction cs generalizing here with
  | nil => rfl
  | cons c' cs ih =>
    rw [List.cons_append, passes, ih, passes, List.cons_append]
    rfl

/-- The place where a path begins. -/
def origin (t : FileTree) (p : Path) : List (List Char) :=
  if p.isAbsolute then [] else t.workingDirectory

/-- The places that a path passes. -/
def passed (t : FileTree) (p : Path) : List (List (List Char)) := passes (t.origin p) p.components

/-! ## 2. Trees without links -/

/-- **No entry is a link.** -/
def LinkFree (t : FileTree) : Prop := ∀ e ∈ t.entries, ∀ target, e.2 ≠ .link target

/-- Whether a regular file stands at a location. -/
def isFileAt (t : FileTree) (location : List (List Char)) : Bool :=
  match t.entry? location with
  | some (.file _) => true
  | _ => false

theorem isFile_eq_true_iff :
    t.isFile p = true ↔ ∃ location, t.resolve p = .ok location ∧ t.isFileAt location = true := by
  rw [isFile]
  cases t.resolve p with
  | error e => simp
  | ok location => exact ⟨fun h => ⟨location, rfl, h⟩, fun ⟨_, heq, h⟩ => Except.ok.inj heq ▸ h⟩

theorem not_isFileAt_of_isDirectoryAt (h : t.isDirectoryAt here = true) :
    t.isFileAt here = false := by
  rw [isFileAt, beq_iff_eq.mp h]

theorem LinkFree.entry?_ne (hfree : t.LinkFree) (location : List (List Char)) (target : Path) :
    t.entry? location ≠ some (.link target) := by
  unfold entry?
  split
  · simp
  · intro h
    obtain ⟨before, after, hentries, -⟩ := List.lookup_eq_some_iff.mp h
    exact hfree (location, .link target) (by simp [hentries]) target rfl

/-- Whether anything stands at a location. -/
def hasEntry (t : FileTree) (location : List (List Char)) : Bool := ( t.entry? location).isSome

theorem hasEntry_of_isFileAt (h : t.isFileAt location = true) : t.hasEntry location = true := by
  unfold isFileAt at h
  split at h
  · rename_i hentry
    simp [hasEntry, hentry]
  · exact absurd h (by simp)

/-- Whether there is a place for a component: a name needs an entry that has it. -/
def hasPlace (t : FileTree) (here : List (List Char)) : Component → Bool
  | .name n => t.hasEntry (here ++ [n])
  | _ => true

/-- **One step of a walk**, in a tree without links. -/
theorem walkWith_cons (hfree : t.LinkFree) (segment : List Char) (rest : List (List Char)) :
    t.walkWith follow here (segment :: rest) =
      if t.isDirectoryAt here = false then .error .notDirectory
      else
        match component? segment with
        | none => t.walkWith follow here rest
        | some c =>
          if t.hasPlace here c then t.walkWith follow (advance here c) rest
          else .error .missing := by
  rw [walkWith]
  refine if_congr Iff.rfl rfl ?_
  by_cases hidle : segment = [] ∨ segment = ['.']
  · rw [if_pos hidle, component?, if_pos hidle]
  · rw [if_neg hidle, component?, if_neg hidle]
    by_cases hup : segment = ['.', '.']
    · rw [if_pos hup, if_pos hup]
      rfl
    · rw [if_neg hup, if_neg hup]
      simp only [hasPlace, advance]
      split
      · rename_i hentry
        simp [hasEntry, hentry]
      · rename_i target hentry
        exact absurd hentry (hfree.entry?_ne _ target)
      · rename_i e _ hentry
        simp [hasEntry, hentry]

/-- **A walk that arrives** has gone along the components of its segments, and through directories
only. -/
theorem walkWith_ok (hfree : t.LinkFree) (h : t.walkWith follow here segments = .ok location) :
    location = placeAfter here (segments.filterMap component?) ∧
    (segments ≠ [] → t.isDirectoryAt here = true) ∧
    ∀ d ∈ passes here (segments.filterMap component?), t.isDirectoryAt d = true := by
  induction segments generalizing here with
  | nil => exact ⟨(Except.ok.inj h).symm, by simp, by simp [passes]⟩
  | cons segment rest ih =>
    rw [walkWith_cons hfree] at h
    cases hdir : t.isDirectoryAt here with
    | false => simp [hdir] at h
    | true =>
      rw [if_neg (by simp [hdir])] at h
      cases hc : component? segment with
      | none =>
        rw [hc] at h
        rw [List.filterMap_cons_none hc]
        exact ⟨(ih h).1, fun _ => rfl, (ih h).2.2⟩
      | some c =>
        simp only [hc] at h
        split at h
        · rw [List.filterMap_cons_some hc]
          exact ⟨(ih h).1, fun _ => rfl, List.forall_mem_cons.mpr ⟨hdir, (ih h).2.2⟩⟩
        · exact absurd h (by simp)

/-- There is a place for a component that leads to a directory. -/
theorem hasPlace_of_isDirectoryAt {c : Component} (h : t.isDirectoryAt (advance here c) = true) :
    t.hasPlace here c = true := by
  cases c with
  | name n =>
    have hentry : t.entry? (here ++ [n]) = some .directory := beq_iff_eq.mp h
    simp [hasPlace, hasEntry, hentry]
  | _ => rfl

theorem head_mem_passes (here : List (List Char)) (cs : List Component) (c : Component) :
    here ∈ passes here (cs ++ [c]) := by
  cases cs <;> exact List.mem_cons_self

/-- **A walk through directories arrives** at the entry that the last segment names, if there is
one. -/
theorem walkWith_concat (hfree : t.LinkFree) {n : List Char}
    (hname : component? segment = some (.name n))
    (hdirs : ∀ d ∈ passes here (segments.filterMap component? ++ [.name n]),
      t.isDirectoryAt d = true) :
    t.walkWith follow here (segments ++ [segment]) =
      if t.hasEntry (placeAfter here (segments.filterMap component?) ++ [n]) then
        .ok (placeAfter here (segments.filterMap component?) ++ [n])
      else .error .missing := by
  induction segments generalizing here with
  | nil =>
    rw [List.nil_append, walkWith_cons hfree, if_neg (by simp [hdirs here List.mem_cons_self]),
      hname]
    rfl
  | cons s rest ih =>
    have hhere : t.isDirectoryAt here = true := hdirs here (head_mem_passes _ _ _)
    rw [List.cons_append, walkWith_cons hfree, if_neg (by simp [hhere])]
    cases hs : component? s with
    | none =>
      rw [List.filterMap_cons_none hs] at hdirs ⊢
      exact ih hdirs
    | some c =>
      rw [List.filterMap_cons_some hs, List.cons_append, passes] at hdirs
      obtain ⟨-, hrest⟩ := List.forall_mem_cons.mp hdirs
      have hnext : t.isDirectoryAt (advance here c) = true := hrest _ (head_mem_passes _ _ _)
      rw [List.filterMap_cons_some hs]
      simp only [hasPlace_of_isDirectoryAt hnext, if_true]
      exact ih hrest

/-! ## 3. Following a path -/

/-- A path is walked from its origin along its segments. -/
theorem resolve_eq (h : p.text ≠ "") :
    t.resolve p = t.walkWith (t.walk 39) (t.origin p) p.segments := by
  rw [resolve, if_neg h]
  rfl

/-- The root and a leading `.` do not lead away from the origin. -/
theorem advance_lead {c : Component} (h : c ∈ lead p.segments) :
    advance (t.origin p) c = t.origin p := by
  unfold lead at h
  split at h
  · exact absurd h List.not_mem_nil
  · rename_i body hbody hsegments
    obtain rfl := List.mem_singleton.mp h
    rw [origin, if_pos (isAbsolute_iff.mpr ⟨body, hbody, hsegments⟩), advance]
  · obtain rfl := List.mem_singleton.mp h
    rfl
  · exact absurd h List.not_mem_nil

theorem lead_length_le (segments : List (List Char)) : (lead segments).length ≤ 1 := by
  unfold lead
  split <;> simp

/-- A path passes what the components of its segments pass, and perhaps its origin before. -/
theorem passed_eq (t : FileTree) (p : Path) :
    (t.passed p = passes (t.origin p) (p.segments.filterMap component?) ∨
      t.passed p = t.origin p :: passes (t.origin p) (p.segments.filterMap component?)) ∧
    placeAfter (t.origin p) p.components =
      placeAfter (t.origin p) (p.segments.filterMap component?) := by
  rw [passed, components_eq]
  have hlength := lead_length_le p.segments
  have hadvance : ∀ c ∈ lead p.segments, advance (t.origin p) c = t.origin p :=
    fun _ => advance_lead
  match hlead : lead p.segments with
  | [] => exact ⟨Or.inl rfl, rfl⟩
  | [c] =>
    have hc : advance (t.origin p) c = t.origin p := hadvance c (by simp [hlead])
    rw [List.singleton_append, passes, placeAfter, List.foldl_cons, hc]
    exact ⟨Or.inr rfl, rfl⟩
  | _ :: _ :: _ => simp [hlead] at hlength

/-- **A path that leads somewhere** leads to where its components do, and passes directories
only. -/
theorem resolve_ok (hfree : t.LinkFree) (h : t.resolve p = .ok location) :
    location = placeAfter (t.origin p) p.components ∧
    ∀ d ∈ t.passed p, t.isDirectoryAt d = true := by
  have htext : p.text ≠ "" := fun hempty => by simp [resolve, hempty] at h
  rw [resolve_eq htext] at h
  obtain ⟨hlocation, horigin, hpasses⟩ := walkWith_ok hfree h
  obtain ⟨hpassed | hpassed, hplace⟩ := passed_eq t p
  · exact ⟨hlocation.trans hplace.symm, hpassed ▸ hpasses⟩
  · rw [hpassed]
    exact ⟨hlocation.trans hplace.symm,
      List.forall_mem_cons.mpr ⟨horigin (Text.splitAt_ne_nil _ _), hpasses⟩⟩

/-- **A path to an entry inside a directory** leads there, if there is such an entry. -/
theorem resolve_join (hfree : t.LinkFree) {dir : Path} {inner : String}
    (hslash : '/' ∉ inner.toList) (hname : component? inner.toList = some (.name inner.toList))
    (hdirs : ∀ d ∈ passes (t.origin dir) (dir.components ++ [.name inner.toList]),
      t.isDirectoryAt d = true) :
    t.resolve (dir.join inner) =
      if t.hasEntry (placeAfter (t.origin dir) dir.components ++ [inner.toList]) then
        .ok (placeAfter (t.origin dir) dir.components ++ [inner.toList])
      else .error .missing := by
  obtain ⟨habsolute, segments, hsegments, hsame⟩ := segments_join dir hslash
  have htext : (dir.join inner).text ≠ "" := fun hempty => by
    rw [← segments_eq_iff, hsegments] at hempty
    have hlast : inner.toList = [] := by simpa using congrArg List.getLast? hempty
    rw [hlast] at hname
    exact absurd hname (by simp [component?])
  have horigin : t.origin (dir.join inner) = t.origin dir := by rw [origin, habsolute, origin]
  obtain ⟨hpassed, hplace⟩ := passed_eq t dir
  rw [resolve_eq htext, horigin, hsegments, hplace, ← hsame]
  refine walkWith_concat hfree hname fun d hd => hdirs d ?_
  rw [passes_concat, hsame] at hd
  rw [passes_concat, hplace, ← passed]
  rcases hpassed with hpassed | hpassed
  · rwa [hpassed]
  · rw [hpassed]
    exact List.mem_cons_of_mem _ hd

theorem isFile_join (hfree : t.LinkFree) {dir : Path} {inner : String}
    (hslash : '/' ∉ inner.toList) (hname : component? inner.toList = some (.name inner.toList))
    (hdirs : ∀ d ∈ passes (t.origin dir) (dir.components ++ [.name inner.toList]),
      t.isDirectoryAt d = true) :
    t.isFile (dir.join inner) =
      t.isFileAt (placeAfter (t.origin dir) dir.components ++ [inner.toList]) := by
  rw [Bool.eq_iff_iff, isFile_eq_true_iff, resolve_join hfree hslash hname hdirs]
  constructor
  · rintro ⟨location, hlocation, hregular⟩
    split at hlocation
    · exact Except.ok.inj hlocation ▸ hregular
    · exact absurd hlocation (by simp)
  · intro hregular
    exact ⟨_, if_pos (hasEntry_of_isFileAt hregular), hregular⟩

/-! ## 4. Only downwards -/

/-- **The places above a location**, the nearest one first. -/
def above (location : List (List Char)) : List (List (List Char)) :=
  (List.range location.length).reverse.map location.take

theorem above_concat (location : List (List Char)) (n : List Char) :
    above (location ++ [n]) = location :: above location := by
  rw [above, List.length_append, List.length_singleton, List.range_succ, List.reverse_concat,
    List.map_cons, List.take_left]
  refine congrArg (location :: ·) (List.map_congr_left fun k hk => ?_)
  exact List.take_append_of_le_length (Nat.le_of_lt (by simpa using hk))

/-- Going down leads to what the names say. -/
theorem placeAfter_names (here : List (List Char)) (names : List (List Char)) :
    placeAfter here (names.map .name) = here ++ names := by
  induction names generalizing here with
  | nil => exact (List.append_nil here).symm
  | cons n names ih =>
    rw [List.map_cons, placeAfter, List.foldl_cons, ← placeAfter, ih, advance, List.append_assoc,
      List.singleton_append]

/-- **Going down passes the places above the end**, as far up as it began. -/
theorem passes_names (here : List (List Char)) (names : List (List Char)) :
    (passes here (names.map .name)).reverse =
      (above (here ++ names)).filter here.isPrefixOf := by
  induction names using List.reverseRecOn with
  | nil =>
    refine (List.filter_eq_nil_iff.mpr fun d hd => ?_).symm
    rw [List.append_nil] at hd
    obtain ⟨k, hk, rfl⟩ := List.mem_map.mp hd
    rw [List.isPrefixOf_iff_prefix]
    intro hprefix
    have hlength := hprefix.length_le
    simp at hk hlength
    omega
  | append_singleton names n ih =>
    rw [List.map_append, List.map_singleton, passes_concat, List.reverse_concat, ih,
      placeAfter_names, ← List.append_assoc, above_concat, List.filter_cons_of_pos (by simp)]

end FileTree

end CppSurface
