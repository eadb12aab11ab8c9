import CppSurface.Proofs.FileTree.Passing
import CppSurface.Settings

/-!
# Which configuration is found

The search for a configuration goes from one parent to the next, and a parent is the spelling of a
path without its last component.  Whether these are the directories above the file depends on the
spelling.

In a tree without links, a path to a file passes directories on its way, and the search asks just
these, in the opposite order (`findUpwards_eq`): it goes back the way the path came.  The way begins
at the root or at the working directory, so for a relative path nothing above the working directory
is asked.  And it may go down into a directory and up again, so places are asked that are not above
the file, and they may be asked before those that are.

`search_retraces` states this, and for a path that only goes down, when the nearest configuration is
found.  `detour_misled` is a path to the same file as another one, from which another configuration
is found.
-/

namespace CppSurface

open FileTree CppSurface.Path

namespace Settings

variable {files : FileTree} {start dir : Path} {location : List (List Char)} {c : Component}
  {fuel : Nat} {answer answer' : Option (List (List Char))}

/-! ## 1. What is asked -/

/-- Whether a directory holds a configuration file. -/
def holdsConfiguration (files : FileTree) (d : List (List Char)) : Bool :=
  files.isFileAt (d ++ [fileName.toList])

/-- **The search from a path ends** at the configuration file of a directory, or at none. -/
def Finds (files : FileTree) (start : Path) (answer : Option (List (List Char))) : Prop :=
  (find? files start).map files.resolve = answer.map fun d => .ok (d ++ [fileName.toList])

theorem Finds.unique (h : Finds files start answer) (h' : Finds files start answer') :
    answer = answer' := by
  refine Option.map_injective (fun d d' hd => ?_) (h.symm.trans h')
  exact List.append_cancel_right (Except.ok.inj hd)

/-- What the search asks in one directory. -/
theorem isFile_candidate (hfree : files.LinkFree)
    (hdirs : ∀ d ∈ passes (files.origin dir) (dir.components ++ [c]),
      files.isDirectoryAt d = true) :
    files.isFile (dir.join fileName) =
      holdsConfiguration files (placeAfter (files.origin dir) dir.components) := by
  rw [passes_concat] at hdirs
  exact isFile_join hfree (by decide) (by decide) (by rwa [passes_concat])

/-- The file that is found in a directory. -/
theorem resolve_candidate (hfree : files.LinkFree)
    (hdirs : ∀ d ∈ passes (files.origin dir) (dir.components ++ [c]),
      files.isDirectoryAt d = true)
    (hholds : holdsConfiguration files (placeAfter (files.origin dir) dir.components) = true) :
    files.resolve (dir.join fileName) =
      .ok (placeAfter (files.origin dir) dir.components ++ [fileName.toList]) := by
  rw [passes_concat] at hdirs
  rw [resolve_join hfree (by decide) (by decide) (by rwa [passes_concat])]
  exact if_pos (hasEntry_of_isFileAt hholds)

/-- **The search goes back along the spelling.**  It asks the places that the components of a
directory pass, beginning with the directory, the last one first. -/
theorem findUpwards_eq (hfree : files.LinkFree) (hfuel : dir.components.length < fuel)
    (hdirs : ∀ d ∈ passes (files.origin dir) (dir.components ++ [c]),
      files.isDirectoryAt d = true) :
    (findUpwards files fuel dir).map files.resolve =
      ((passes (files.origin dir) (dir.components ++ [c])).reverse.find?
        (holdsConfiguration files)).map fun d => .ok (d ++ [fileName.toList]) := by
  induction fuel generalizing dir c with
  | zero => exact absurd hfuel (Nat.not_lt_zero _)
  | succ fuel ih =>
    rw [findUpwards, isFile_candidate hfree hdirs, passes_concat, List.reverse_concat]
    cases hholds : holdsConfiguration files (placeAfter (files.origin dir) dir.components) with
    | true =>
      rw [List.find?_cons_of_pos hholds]
      simp [resolve_candidate hfree hdirs hholds]
    | false =>
      rw [List.find?_cons_of_neg (by simp [hholds])]
      cases hparent : dir.parent? with
      | none =>
        rcases parent?_eq_none hparent with rfl | ⟨habsolute, hcomponents⟩
        · rfl
        · have horigin : files.origin dir = [] := by rw [origin, if_pos habsolute]
          rw [hcomponents, horigin] at hholds ⊢
          simpa [passes, placeAfter, advance] using hholds
      | some above =>
        obtain ⟨habsolute, c', hcomponents⟩ := parent?_eq_some hparent
        have horigin : files.origin above = files.origin dir := by rw [origin, habsolute, origin]
        rw [hcomponents, ← horigin] at hdirs ⊢
        rw [hcomponents, List.length_append, List.length_singleton] at hfuel
        refine ih (Nat.lt_of_succ_lt_succ hfuel) fun d hd => hdirs d ?_
        rw [passes_concat]
        exact List.mem_append_left _ hd

/-- The search from a file begins with the parent of its path. -/
theorem exists_parent (hfree : files.LinkFree) (hfile : files.isFile start = true) :
    ∃ dir c, start.parent? = some dir ∧ files.origin dir = files.origin start ∧
      start.components = dir.components ++ [c] := by
  obtain ⟨location, hresolve, hregular⟩ := isFile_eq_true_iff.mp hfile
  cases hparent : start.parent? with
  | some dir =>
    obtain ⟨habsolute, c, hcomponents⟩ := parent?_eq_some hparent
    exact ⟨dir, c, rfl, by rw [origin, habsolute, origin], hcomponents⟩
  | none =>
    rcases parent?_eq_none hparent with rfl | ⟨habsolute, hcomponents⟩
    · exact absurd hresolve (by simp [resolve])
    · have hroot : location = [] := by
        rw [(resolve_ok hfree hresolve).1, hcomponents]
        rfl
      rw [hroot] at hregular
      exact absurd hregular (by simp [isFileAt, entry?])

/-- **From a file the search goes back along its path**, and ends where a place that was passed
holds a configuration. -/
theorem finds_passed (hfree : files.LinkFree) (hfile : files.isFile start = true) :
    Finds files start ((files.passed start).reverse.find? (holdsConfiguration files)) := by
  obtain ⟨location, hresolve, -⟩ := isFile_eq_true_iff.mp hfile
  obtain ⟨dir, c, hparent, horigin, hcomponents⟩ := exists_parent hfree hfile
  have hpassed : files.passed start = passes (files.origin dir) (dir.components ++ [c]) := by
    rw [passed, hcomponents, horigin]
  have hfuel : dir.components.length < dir.text.length + 2 :=
    Nat.lt_succ_of_le (length_components_le dir)
  rw [Finds, find?, if_pos hfile, hparent, Option.bind_some, hpassed]
  exact findUpwards_eq hfree hfuel (hpassed ▸ (resolve_ok hfree hresolve).2)

/-! ## 2. Paths that only go down -/

/-- What has been asked need not be asked again. -/
theorem find?_concat_of_mem {α : Type} {l : List α} {x : α} (h : x ∈ l) (P : α → Bool) :
    (l ++ [x]).find? P = l.find? P := by
  rw [List.find?_append]
  cases hfind : l.find? P with
  | some y => rfl
  | none =>
    have hx : P x = false := by simpa using List.find?_eq_none.mp hfind x h
    simp [hx]

/-- Leaving out some of what is asked makes no difference just if the answer is not left out. -/
theorem find?_filter_eq_iff {α : Type} {l : List α} {P Q : α → Bool} :
    (l.filter Q).find? P = l.find? P ↔ ∀ x ∈ l.find? P, Q x = true := by
  constructor
  · intro h x hx
    exact (List.mem_filter.mp (List.mem_of_find?_eq_some (h.trans hx))).2
  · intro h
    cases hfind : l.find? P with
    | none =>
      rw [List.find?_eq_none] at hfind ⊢
      exact fun x hx => hfind x (List.mem_of_mem_filter hx)
    | some x =>
      obtain ⟨hx, before, after, rfl, hbefore⟩ := List.find?_eq_some_iff_append.mp hfind
      rw [List.filter_append, List.filter_cons_of_pos (h x hfind)]
      exact List.find?_eq_some_iff_append.mpr ⟨hx, before.filter Q, after.filter Q, rfl,
        fun y hy => hbefore y (List.mem_of_mem_filter hy)⟩

/-- **A path to a file that only goes down** passes the directories above the file, as far up as
its origin. -/
theorem find?_passed (hfree : files.LinkFree) (hfile : files.isFile start = true)
    (hresolve : files.resolve start = .ok location) (hdown : .up ∉ start.components)
    (P : List (List Char) → Bool) :
    (files.passed start).reverse.find? P =
      ((above location).filter (files.origin start).isPrefixOf).find? P := by
  obtain ⟨hlocation, hdirs⟩ := resolve_ok hfree hresolve
  obtain ⟨hpassed, hplace⟩ := passed_eq files start
  rw [components_eq, List.mem_append, not_or] at hdown
  obtain ⟨names, hnames⟩ := exists_names hdown.2
  rw [hplace, hnames, placeAfter_names] at hlocation
  rw [hnames] at hpassed
  rw [hlocation, ← passes_names]
  rcases hpassed with hpassed | hpassed
  · rw [hpassed]
  · rw [hpassed, List.reverse_cons]
    refine find?_concat_of_mem (List.mem_reverse.mpr ?_) P
    cases names with
    | cons n names => exact List.mem_cons_self
    | nil =>
      -- The path would end where it began, in a directory.
      have horigin : files.isDirectoryAt location = true := by
        rw [hlocation, List.append_nil]
        exact hdirs _ (by rw [hpassed]; exact List.mem_cons_self)
      obtain ⟨location', hresolve', hregular⟩ := isFile_eq_true_iff.mp hfile
      obtain rfl := Except.ok.inj (hresolve.symm.trans hresolve')
      exact absurd (hregular.symm.trans (not_isFileAt_of_isDirectoryAt horigin)) (by simp)

/-- **The search retraces the spelling.**  From a path to a file it asks the places that the path
has passed, the last one first.  If the path only goes down, these are the directories above the
file that are not above the origin of the path.  Then the search ends at the nearest configuration
above the file just if that is not above the origin: always for an absolute path, and for a relative
one unless the nearest configuration is above the working directory. -/
theorem search_retraces (hfree : files.LinkFree) (hfile : files.isFile start = true) :
    Finds files start ((files.passed start).reverse.find? (holdsConfiguration files)) ∧
    ∃ location, files.resolve start = .ok location ∧
      (.up ∉ start.components →
        Finds files start (((above location).filter (files.origin start).isPrefixOf).find?
          (holdsConfiguration files)) ∧
        (Finds files start ((above location).find? (holdsConfiguration files)) ↔
          ∀ d ∈ (above location).find? (holdsConfiguration files), files.origin start <+: d)) := by
  have hfinds := finds_passed hfree hfile
  obtain ⟨location, hresolve, -⟩ := isFile_eq_true_iff.mp hfile
  refine ⟨hfinds, location, hresolve, fun hdown => ?_⟩
  have hbelow : Finds files start (((above location).filter
      (files.origin start).isPrefixOf).find? (holdsConfiguration files)) := by
    rwa [find?_passed hfree hfile hresolve hdown] at hfinds
  refine ⟨hbelow, ?_⟩
  have hsame : Finds files start ((above location).find? (holdsConfiguration files)) ↔
      ((above location).filter (files.origin start).isPrefixOf).find? (holdsConfiguration files) =
        (above location).find? (holdsConfiguration files) :=
    ⟨fun h => hbelow.unique h, fun h => h ▸ hbelow⟩
  simpa only [List.isPrefixOf_iff_prefix] using hsame.trans find?_filter_eq_iff

/-! ## 3. A path with a detour -/

/-- A working directory with a source file, and in a directory beside this file a configuration. -/
def detourTree : FileTree where
  entries := [(["home".toList], .directory), (["home".toList, "main.cpp".toList], .file []),
    (["home".toList, "sub".toList], .directory),
    (["home".toList, "sub".toList, "cpp-to-json.toml".toList], .file [])]
  workingDirectory := ["home".toList]

theorem detourTree_linkFree : detourTree.LinkFree := by
  simp [LinkFree, detourTree]

/-- **The theorem at two paths to the file**: the one that goes down asks the working directory, and
the one with the detour asks it twice, and the directory beside the file in between. -/
theorem detour_retraced :
    detourTree.LinkFree ∧ detourTree.isFile ⟨"main.cpp"⟩ = true ∧
    detourTree.isFile ⟨"sub/../main.cpp"⟩ = true ∧ Finds detourTree ⟨"main.cpp"⟩ none ∧
    Finds detourTree ⟨"sub/../main.cpp"⟩ (some ["home".toList, "sub".toList]) := by
  have hplain : detourTree.isFile ⟨"main.cpp"⟩ = true := by decide +kernel
  have hdetour : detourTree.isFile ⟨"sub/../main.cpp"⟩ = true := by decide +kernel
  refine ⟨detourTree_linkFree, hplain, hdetour, ?_,
    (search_retraces detourTree_linkFree hdetour).1⟩
  obtain ⟨location, hresolve, hdown⟩ := (search_retraces detourTree_linkFree hplain).2
  obtain rfl : location = ["home".toList, "main.cpp".toList] :=
    Except.ok.inj (hresolve.symm.trans (by decide +kernel))
  exact (hdown (by decide +kernel)).1

/-- **A detour misleads the search.**  No directory above the file holds a configuration, and from
the plain path none is found.  From the path with the detour one is found all the same. -/
theorem detour_misled :
    detourTree.LinkFree ∧
    detourTree.resolve ⟨"main.cpp"⟩ = .ok ["home".toList, "main.cpp".toList] ∧
    detourTree.resolve ⟨"sub/../main.cpp"⟩ = .ok ["home".toList, "main.cpp".toList] ∧
    detourTree.isFile ⟨"sub/../main.cpp"⟩ = true ∧
    (above ["home".toList, "main.cpp".toList]).find? (holdsConfiguration detourTree) = none ∧
    find? detourTree ⟨"main.cpp"⟩ = none ∧
    find? detourTree ⟨"sub/../main.cpp"⟩ = some ⟨"sub/cpp-to-json.toml"⟩ :=
  ⟨detourTree_linkFree, by decide +kernel, by decide +kernel, by decide +kernel, by decide +kernel,
    by decide +kernel, by decide +kernel⟩

-- Nothing above the working directory is asked, unless the path is absolute.
example :
    let files : FileTree := ⟨[(["cpp-to-json.toml".toList], .file []), (["sub".toList], .directory),
      (["sub".toList, "main.cpp".toList], .file [])], ["sub".toList]⟩
    find? files ⟨"main.cpp"⟩ = none ∧
      find? files ⟨"/sub/main.cpp"⟩ = some ⟨"/cpp-to-json.toml"⟩ := by
  decide +kernel

end Settings

end CppSurface
