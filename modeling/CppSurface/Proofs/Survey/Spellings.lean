import CppSurface.Compiler
import CppSurface.Proofs.Path.Parents
import CppSurface.Proofs.Survey.BreadthFirst

/-!
# Spellings of a file

A survey tells files apart by their components, but hands a path to its provider as it was first
spelled.  The compiler's provider does not answer alike for all spellings, even when the compiler
prints the same: the trace is read with the file as it was asked for, and that is the includer of
every header that the file includes itself.

It goes by paths all the same, in the sense that a search needs (`Survey.RespectsSame`).  The edges
of a trace depend on the spelling only in their includers (`edges_alike`), and these are looked up
by components.  Beyond that the spelling decides whether the compiler can be started at all: an
argument must not hold the character that ends texts.  No spelling of a path adds one, because what
spellings differ in is slashes and dots (`mem_text_iff`).
-/

namespace CppSurface

open CppSurface.Text

/-! ## 1. Characters of a path -/

/-- What stands in a text that is no separator stands in one of its parts. -/
theorem mem_splitAt_iff {sep c : Char} (hc : c ≠ sep) {cs : List Char} :
    (∃ part ∈ splitAt sep cs, c ∈ part) ↔ c ∈ cs := by
  have hjoin : ∀ parts : List (List Char),
      c ∈ joinWith [sep] parts ↔ ∃ part ∈ parts, c ∈ part := by
    intro parts
    induction parts with
    | nil => simp [joinWith]
    | cons part rest ih =>
      cases rest with
      | nil => simp [joinWith]
      | cons next more => simp [joinWith, ih, hc]
  rw [← hjoin, joinWith_splitAt]

namespace Path

variable {p q : Path} {c : Char}

/-- **A character that is no slash and no dot stands in a path just when it stands in one of its
names.** -/
theorem mem_text_iff (hslash : c ≠ '/') (hdot : c ≠ '.') :
    c ∈ p.text.toList ↔ ∃ name, .name name ∈ p.components ∧ c ∈ name := by
  have hlead : ∀ name, Component.name name ∉ lead p.segments := by
    intro name
    unfold lead
    split <;> simp
  have hname : ∀ name, Component.name name ∈ p.components ↔
      ∃ s ∈ p.segments, component? s = some (.name name) := by
    intro name
    rw [components_eq, List.mem_append, List.mem_filterMap]
    exact or_iff_right (hlead name)
  rw [← mem_splitAt_iff hslash]
  constructor
  · rintro ⟨s, hs, hc⟩
    have hs' : component? s = some (.name s) := by
      unfold component?
      rw [if_neg, if_neg]
      · rintro rfl
        simp [hdot] at hc
      · rintro (rfl | rfl) <;> simp [hdot] at hc
    exact ⟨s, (hname s).mpr ⟨s, hs, hs'⟩, hc⟩
  · rintro ⟨name, hmem, hc⟩
    obtain ⟨s, hs, hs'⟩ := (hname name).mp hmem
    obtain rfl : name = s := Component.name.inj (eq_name_of_component? hs' (by simp))
    exact ⟨name, hs, hc⟩

end Path

/-! ## 2. Traces and units -/

namespace IncludeTrace

/-- Edges that differ at most in how their includers are spelled. -/
def Alike (i j : Inclusion) : Prop := i.includer.same j.includer = true ∧ i.included = j.included

/-- **The edges of a trace depend on how the open files are spelled only in their includers.**  The
induction is on the trace; a header is open in the same spelling in both. -/
theorem edges_alike (canonical : Path → Path) (trace : List (Nat × Path)) {stack stack' : List Path}
    (h : List.Forall₂ (fun p q => p.same q = true) stack stack') :
    List.Forall₂ Alike (edges canonical stack trace) (edges canonical stack' trace) := by
  induction trace generalizing stack stack' with
  | nil => exact .nil
  | cons header rest ih =>
    obtain ⟨depth, path⟩ := header
    have hdrop := List.forall₂_drop (stack.length - depth) h
    rw [edges, edges, ← h.length_eq]
    generalize stack.drop (stack.length - depth) = opened,
      stack'.drop (stack.length - depth) = opened' at hdrop
    cases hdrop with
    | nil => exact ih h
    | @cons includer includer' below below' hsame hbelow =>
      by_cases hdepth : depth ≤ stack.length
      · simp only [if_pos hdepth]
        exact .cons ⟨hsame, rfl⟩ (ih (.cons (Path.same_self _) (.cons hsame hbelow)))
      · simp only [if_neg hdepth]
        exact ih h

end IncludeTrace

/-- Units that differ at most in how the includers of their inclusions are spelled. -/
structure ParsedUnit.Alike (u u' : ParsedUnit) : Prop where
  includes : List.Forall₂ IncludeTrace.Alike u.includes u'.includes
  diagnostics : u.diagnostics = u'.diagnostics

/-- **The direct includes of a file are looked up by components.** -/
theorem ParsedUnit.Alike.directIncludes_eq {u u' : ParsedUnit} {p q : Path} (h : u.Alike u')
    (hpq : p.same q = true) : u.directIncludes p = u'.directIncludes q := by
  have hincluded : (u.includes.filter fun i => i.includer.same p).map Inclusion.included =
      (u'.includes.filter fun i => i.includer.same q).map Inclusion.included := by
    have hincludes := h.includes
    generalize u.includes = is, u'.includes = js at hincludes
    induction hincludes with
    | nil => rfl
    | @cons i j _ _ hij _ ih =>
      have hsame : i.includer.same p = j.includer.same q := by
        rw [Path.same_congr hpq, Bool.eq_iff_iff]
        exact ⟨Path.same_trans (Path.same_symm hij.1), Path.same_trans hij.1⟩
      rw [List.filter_cons, List.filter_cons, hsame]
      split
      · rw [List.map_cons, List.map_cons, ih, hij.2]
      · exact ih
  rw [ParsedUnit.directIncludes, ParsedUnit.directIncludes, hincluded]

/-- Answers for two spellings that are the same failure, or units that are alike. -/
inductive ResultsAlike : (_ _ : Except ProviderFailure ParsedUnit) → Prop
  | failure (e : ProviderFailure) : ResultsAlike (.error e) (.error e)
  | unit {u u' : ParsedUnit} : u.Alike u' → ResultsAlike (.ok u) (.ok u')

/-- **A survey goes by paths if its provider answers alike for all spellings of a path.** -/
theorem Survey.respectsSame_of_alike {v : Survey} (h : ∀ p q : Path, p.same q = true →
    ResultsAlike (v.provider p).result (v.provider q).result) : v.RespectsSame where
  next p q hpq := by
    have halike := h p q hpq
    unfold next
    generalize (v.provider p).result = x, (v.provider q).result = y at halike ⊢
    cases halike with
    | failure => rfl
    | unit halike => exact congrArg v.successors (halike.directIncludes_eq hpq)
  failure p q hpq := by
    have halike := h p q hpq
    unfold failure?
    generalize (v.provider p).result = x, (v.provider q).result = y at halike ⊢
    cases halike with
    | failure => simp
    | @unit u u' halike =>
      have herrors : u.hasErrors = u'.hasErrors := by
        rw [ParsedUnit.hasErrors, halike.diagnostics, ParsedUnit.hasErrors]
      simp only [herrors]
      split <;> simp

/-! ## 3. The compiler -/

namespace Compiler

variable {programs : Programs} {settings : CompilerSettings} {includeEnv : Option String}
  {files : FileTree} {p q : Path}

/-- Two spellings of a path hold the character that ends texts, or neither does. -/
theorem holdsNul_congr (h : p.same q = true) : holdsNul p.text = holdsNul q.text := by
  rw [holdsNul, holdsNul, Bool.eq_iff_iff, List.contains_iff_mem, List.contains_iff_mem,
    Path.mem_text_iff (by decide) (by decide), Path.mem_text_iff (by decide) (by decide),
    Path.same_iff.mp h]

/-- A compiler that prints the same for two spellings is started for both or for neither. -/
theorem start_congr (h : p.same q = true)
    (hprints : programs settings.clang (arguments settings includeEnv p) =
      programs settings.clang (arguments settings includeEnv q)) :
    start programs settings.clang (arguments settings includeEnv p) =
      start programs settings.clang (arguments settings includeEnv q) := by
  have hnul : (arguments settings includeEnv p).any holdsNul =
      (arguments settings includeEnv q).any holdsNul := by
    simp only [arguments, List.any_append, List.any_cons, holdsNul_congr h]
  rw [start, start, hnul, hprints]

/-- What is read off one run for two spellings is alike. -/
theorem unitOf_alike (files : FileTree) (dump stderr : List Char) (succeeded : Bool)
    (h : p.same q = true) :
    ResultsAlike (unitOf files p dump stderr succeeded) (unitOf files q dump stderr succeeded) := by
  have hincludes : List.Forall₂ IncludeTrace.Alike (IncludeTrace.read files p stderr)
      (IncludeTrace.read files q stderr) :=
    IncludeTrace.edges_alike files.canonical _ (.cons h .nil)
  simp only [unitOf]
  by_cases hdump : beginsDump dump = true
  · rw [if_pos hdump, if_pos hdump]
    cases Dump.read dump with
    | some root => exact .unit ⟨hincludes, rfl⟩
    | none => exact .failure _
  · rw [if_neg hdump, if_neg hdump]
    by_cases herrors : (Diagnostic.ofOutput stderr).any Diagnostic.isError = true
    · rw [if_pos herrors, if_pos herrors]
      exact .unit ⟨hincludes, rfl⟩
    · rw [if_neg herrors, if_neg herrors]
      cases succeeded <;> exact .failure _

/-- **So is what the provider answers for them**, if the compiler prints the same. -/
theorem provider_alike (files : FileTree) (h : p.same q = true)
    (hprints : programs settings.clang (arguments settings includeEnv p) =
      programs settings.clang (arguments settings includeEnv q)) :
    ResultsAlike (provider programs settings includeEnv files p).result
      (provider programs settings includeEnv files q).result := by
  simp only [provider, start_congr h hprints]
  cases start programs settings.clang (arguments settings includeEnv q) with
  | error reason => exact .failure _
  | ok run =>
    dsimp only
    cases Utf8.decode run.stdout with
    | error defect => exact .failure _
    | ok dump => exact unitOf_alike files dump _ run.succeeded h

end Compiler

/-- **A survey with the compiler's provider goes by paths**, if the compiler prints the same for
every spelling of a path. -/
theorem Survey.respectsSame_compiler {v : Survey} {programs : Programs}
    {settings : CompilerSettings} {includeEnv : Option String} {files : FileTree}
    (hprovider : v.provider = Compiler.provider programs settings includeEnv files)
    (hprints : ∀ p q : Path, p.same q = true →
      programs settings.clang (Compiler.arguments settings includeEnv p) =
        programs settings.clang (Compiler.arguments settings includeEnv q)) :
    v.RespectsSame := by
  refine Survey.respectsSame_of_alike fun p q h => ?_
  rw [hprovider]
  exact Compiler.provider_alike files h (hprints p q h)

/-! ## 4. Non-vacuity

A compiler that enters the same header and finds the same error in every file.  The units for `/a`
and `//a` differ, in the includer of the header. -/

/-- The survey of `/a` with this compiler. -/
def headerSurvey : Survey where
  options := ⟨true, [], [], false, 1⟩
  provider := Compiler.provider
    (fun _ _ => some ⟨[], (". /h\nmain:1:1: error: unclosed\n".toList.flatMap String.utf8EncodeChar),
      false⟩) {} none ⟨[], []⟩
  policy := .acceptAll
  files := ⟨[], []⟩
  entry := ⟨⟨"/a"⟩, false⟩

/-- **Spellings get different units, and lead to the same files.** -/
theorem headerSurvey_respectsSame :
    (headerSurvey.provider ⟨"/a"⟩).result.toOption.map ParsedUnit.includes ≠
        (headerSurvey.provider ⟨"//a"⟩).result.toOption.map ParsedUnit.includes ∧
      headerSurvey.next ⟨"/a"⟩ = [⟨"/h"⟩] ∧ headerSurvey.RespectsSame :=
  ⟨by decide +kernel, by decide +kernel,
    Survey.respectsSame_compiler rfl fun _ _ _ => rfl⟩

end CppSurface
