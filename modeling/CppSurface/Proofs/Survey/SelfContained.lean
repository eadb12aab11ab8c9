import CppSurface.Proofs.Survey.Attribution
import CppSurface.Proofs.Survey.Passes
import CppSurface.Proofs.Survey.Runs

/-!
# The outcome of a survey is self-contained

Whoever generates code from an extraction must find every type that it mentions.  The value types
of one extraction come from the passes over many files, each with aliases of its own; a type may be
attributed to a file that is never parsed, and the copy that a file's own pass has of it replaces
an earlier one.

Still no mention is left dangling, and the reason is local.  A pass publishes every type that its
functions and its types mention (`FilePass.covers_function`, `FilePass.covers_valueType`), so all
that is needed is that attribution never loses a *name*: the copy that replaces another has the
same key (`Extraction.Lists.absorb`).  What an earlier pass brought in therefore stays covered,
whatever comes after it, and what a pass brings in is covered once the whole pass is absorbed.
-/

namespace CppSurface

variable {a : AllowList} {x : Extraction}

/-! ## 1. Self-contained extractions -/

/-- **Every type text of an extraction is made of listed words and of names that it lists itself**:
those of the parameters and of the return type of each function, and those of the fields and of the
constructor parameters of each value type. -/
def Extraction.SelfContained (a : AllowList) (x : Extraction) : Prop :=
  x.Holds
    (fun f => ∀ text ∈ f.signature.parameters.simpleTypes ++ [f.signature.simpleReturnType],
      a.Covers x.Lists text)
    (fun t => ∀ text, t.BuiltFrom text → a.Covers x.Lists text)

/-- Nothing is missing where nothing is mentioned. -/
theorem Extraction.SelfContained.empty : Extraction.empty.SelfContained a :=
  Extraction.Holds.empty

/-- **Absorbing the pass over a file keeps an extraction self-contained.** -/
theorem Extraction.SelfContained.absorb {maxAliasPasses : Nat} {entry : EntryPoint} {file : Path}
    {unit : ParsedUnit} (hd : DistinctKeys (FilePass.types maxAliasPasses file unit))
    (h : x.SelfContained a) :
    (x.absorb entry file unit
      (FilePass.of a.policy maxAliasPasses entry file unit)).SelfContained a := by
  have hnew : ∀ name, (FilePass.of a.policy maxAliasPasses entry file unit).Publishes name →
      (x.absorb entry file unit
        (FilePass.of a.policy maxAliasPasses entry file unit)).Lists name := by
    rintro name ⟨t, ht, rfl⟩
    exact .absorbed ht
  refine Extraction.Holds.absorb ?_ ?_ ?_
  · intro f hf text htext
    exact (FilePass.covers_function hd hf text htext).mono hnew
  · intro t ht text htext
    have hmember : text ∈ t.memberTypes := ValueType.mem_memberTypes.mpr htext
    exact (FilePass.covers_valueType hd ht text hmember).mono hnew
  -- What was there before leans on names that are still listed.
  · refine Extraction.Holds.mono ?_ ?_ h
    · exact fun f hf text htext => (hf text htext).mono fun _ hname => hname.absorb
    · exact fun t ht text htext => (ht text htext).mono fun _ hname => hname.absorb

/-! ## 2. Surveys -/

/-- **A survey that succeeds leaves no type name dangling.**  Whatever the entry, the options, the
provider and the allow list are, as long as no unit defines one key twice: each type text of the
outcome, be it of a parameter, a return type, a field or a constructor parameter, consists of listed
words and names of value types of the outcome, or is itself such a name. -/
theorem Survey.outcome_selfContained (v : Survey) (hpolicy : v.policy = a.policy)
    (hd : ∀ file unit, (v.provider file).result = .ok unit →
      DistinctKeys (FilePass.types v.options.maxAliasPasses file unit))
    {bound : Nat} {o : Outcome} (ho : v.outcome bound = some o) (hx : o.result = .ok x) :
    x.SelfContained a := by
  obtain ⟨s, hs, rfl, -, -⟩ := outcome_invariant (I := fun s => s.extraction.SelfContained a)
    (fun file rest unit s _ hres _ hs => by
      rw [advance_extraction, pass, hpolicy]
      exact hs.absorb (hd file unit hres))
    .empty ho hx
  exact hs

/-! ## 3. Non-vacuity

A survey that parses one file, in which a function returns a type of another file.  The type comes
to be listed under a file that is never parsed. -/

/-- A function, and the type it returns, which holds more of its kind. -/
def boxUnit : ParsedUnit where
  tree := (((DeclTree.empty
    |>.push 0 { kind := .structType, name := "Box", file := some ⟨"/box.hpp"⟩ })
    |>.push 1 { kind := .field, name := "inner", typeText := some "std::vector<Box>"
                access := some .isPublic })
    |>.push 1 { kind := .constructor, name := "Box", access := some .isPublic
                special := some .move })
    |>.push 0 { kind := .function, name := "open", file := some ⟨"/main.hpp"⟩
                typeText := some "const Box &" }
  includes := [⟨⟨"/main.hpp"⟩, ⟨"/box.hpp"⟩⟩]
  diagnostics := []

/-- A survey of one file, whose includes are not followed. -/
def boxSurvey : Survey where
  options := ⟨false, [], [], false, 1⟩
  provider := fun file =>
    if file = ⟨"/main.hpp"⟩ then ⟨[], .ok boxUnit⟩ else ⟨[], .error (.unavailable "no unit")⟩
  policy := AllowList.standard.policy
  files := ⟨[], []⟩
  entry := ⟨⟨"/main.hpp"⟩, false⟩

/-- **The function and its type are listed, and nothing dangles.** -/
theorem boxSurvey_selfContained :
    ∃ o x, boxSurvey.outcome 1 = some o ∧ o.result = .ok x ∧
      x.entries.map (fun e => (e.functions.map (·.signature.name), e.valueTypes.map (·.name))) =
        [(["open"], []), ([], ["Box"])] ∧
      x.SelfContained .standard := by
  obtain ⟨o, x, ho, hx, hnames⟩ : ∃ o x, boxSurvey.outcome 1 = some o ∧ o.result = .ok x ∧
      x.entries.map (fun e => (e.functions.map (·.signature.name), e.valueTypes.map (·.name))) =
        [(["open"], []), ([], ["Box"])] :=
    ⟨_, _, rfl, rfl, by decide +kernel⟩
  refine ⟨o, x, ho, hx, hnames, Survey.outcome_selfContained boxSurvey rfl ?_ ho hx⟩
  intro file unit hres
  by_cases hfile : file = ⟨"/main.hpp"⟩
  · subst hfile
    obtain rfl : boxUnit = unit := Except.ok.inj hres
    decide +kernel
  · simp [boxSurvey, hfile] at hres

end CppSurface
