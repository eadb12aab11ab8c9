import CppSurface.Survey

/-!
# Runs of a survey

What one file does to a survey, and from it what a whole run keeps.  A file that can be used takes
the survey to one state only (`advance`): the file is parsed, the files it leads to are queued, and
its pass is absorbed.  A file that cannot be used ends the survey (`failure?`).  Facts about every
survey that succeeds are facts about `advance`, by `run_invariant`, and so are facts about every
state on the way (`Stage`).
-/

namespace CppSurface

/-! ## 1. Queueing -/

namespace SurveyState

/-- Queueing a file changes only the queue and the known files. -/
theorem enqueue_frame (s : SurveyState) (p : Path) :
    (s.enqueue p).parsed = s.parsed ∧ (s.enqueue p).extraction = s.extraction ∧
      (s.enqueue p).reports = s.reports ∧ (s.enqueue p).notices = s.notices := by
  unfold enqueue
  split <;> exact ⟨rfl, rfl, rfl, rfl⟩

theorem foldl_enqueue_frame (ps : List Path) (s : SurveyState) :
    (ps.foldl enqueue s).parsed = s.parsed ∧ (ps.foldl enqueue s).extraction = s.extraction ∧
      (ps.foldl enqueue s).reports = s.reports ∧ (ps.foldl enqueue s).notices = s.notices := by
  induction ps generalizing s with
  | nil => exact ⟨rfl, rfl, rfl, rfl⟩
  | cons p ps ih =>
    obtain ⟨h1, h2, h3, h4⟩ := ih (s.enqueue p)
    obtain ⟨k1, k2, k3, k4⟩ := s.enqueue_frame p
    exact ⟨h1.trans k1, h2.trans k2, h3.trans k3, h4.trans k4⟩

/-- Queueing files adds the new ones to the known files, and to the queue in the same order. -/
theorem foldl_enqueue_known (ps : List Path) {s : SurveyState}
    (h : s.known = s.parsed ++ s.queue) :
    (ps.foldl enqueue s).known = ps.foldl ParsedUnit.addNew s.known ∧
      (ps.foldl enqueue s).known = s.parsed ++ (ps.foldl enqueue s).queue := by
  induction ps generalizing s with
  | nil => exact ⟨rfl, h⟩
  | cons p ps ih =>
    have hknown : (s.enqueue p).known = ParsedUnit.addNew s.known p := by
      unfold enqueue ParsedUnit.addNew
      split <;> rfl
    have hsplit : (s.enqueue p).known = s.parsed ++ (s.enqueue p).queue := by
      unfold enqueue
      split
      · exact h
      · rw [← List.append_assoc, ← h]
    have hparsed := (s.enqueue_frame p).1
    rw [List.foldl_cons, List.foldl_cons, ← hknown, ← hparsed]
    exact ih (by rw [hparsed]; exact hsplit)

end SurveyState

/-! ## 2. One file -/

namespace Survey

variable {v : Survey} {file : Path} {unit : ParsedUnit} {s s' : SurveyState} {rest : List Path}

/-- **The files that a file leads to**: its own includes, in canonical spelling, as far as they are
followed.  A file without a unit leads nowhere. -/
def next (v : Survey) (file : Path) : List Path :=
  match (v.provider file).result with
  | .ok unit => v.successors (unit.directIncludes file)
  | .error _ => []

/-- Why a file ends a survey, if it does. -/
def failure? (v : Survey) (file : Path) : Option SurveyFailure :=
  match (v.provider file).result with
  | .error reason => some (.provider file reason)
  | .ok unit => if unit.hasErrors then some (.parse file unit.diagnostics) else none

/-- The pass over a file, in the course of a survey. -/
def pass (v : Survey) (file : Path) (unit : ParsedUnit) : FilePass :=
  FilePass.of v.policy v.options.maxAliasPasses v.entry file unit

/-- The survey when a file was handed to the provider. -/
def attempt (v : Survey) (file : Path) (s : SurveyState) : SurveyState :=
  { s with
    parsed := s.parsed ++ [file]
    notices := s.notices ++ (v.provider file).warnings.map .compilerWarning }

/-- The survey after a file that can be used. -/
def advance (v : Survey) (file : Path) (unit : ParsedUnit) (s : SurveyState) : SurveyState :=
  let s := (v.successors (unit.directIncludes file)).foldl SurveyState.enqueue (v.attempt file s)
  { s with
    extraction := s.extraction.absorb v.entry file unit (v.pass file unit)
    reports := s.reports ++ (v.pass file unit).reports
    notices := s.notices ++ (v.pass file unit).notices }

@[simp] theorem advance_parsed : (v.advance file unit s).parsed = s.parsed ++ [file] :=
  (SurveyState.foldl_enqueue_frame _ _).1

@[simp] theorem advance_extraction :
    (v.advance file unit s).extraction =
      s.extraction.absorb v.entry file unit (v.pass file unit) := by
  unfold advance
  simp only [(SurveyState.foldl_enqueue_frame _ _).2.1, attempt]

@[simp] theorem advance_reports :
    (v.advance file unit s).reports = s.reports ++ (v.pass file unit).reports := by
  unfold advance
  simp only [(SurveyState.foldl_enqueue_frame _ _).2.2.1, attempt]

/-- The known files after a file: those it leads to are added, and stand in the queue. -/
theorem advance_known (v : Survey) (unit : ParsedUnit) (h : s.known = s.parsed ++ file :: s.queue) :
    (v.advance file unit s).known =
        (v.successors (unit.directIncludes file)).foldl ParsedUnit.addNew s.known ∧
      (v.advance file unit s).known =
        s.parsed ++ [file] ++ (v.advance file unit s).queue :=
  SurveyState.foldl_enqueue_known _ (h.trans (List.append_assoc _ [file] _).symm)

/-- A file does not fail if it has a unit without errors. -/
theorem failure?_eq_none_iff :
    v.failure? file = none ↔
      ∃ unit, (v.provider file).result = .ok unit ∧ unit.hasErrors = false := by
  unfold failure?
  cases (v.provider file).result with
  | error reason => simp
  | ok unit => by_cases he : unit.hasErrors = true <;> simp [he]

/-- **What a file that can be used does.** -/
theorem process_of_ok (hres : (v.provider file).result = .ok unit)
    (he : unit.hasErrors = false) (s : SurveyState) :
    v.process file s = (.ok (), v.advance file unit s) := by
  unfold process
  simp only [hres, he, Bool.false_eq_true, if_false]
  rfl

/-- **What a file that cannot be used does**: nothing, but its failure is the outcome. -/
theorem process_of_failure {e : SurveyFailure} (hfail : v.failure? file = some e)
    (s : SurveyState) : v.process file s = (.error e, v.attempt file s) := by
  unfold failure? at hfail
  unfold process
  cases hres : (v.provider file).result with
  | error reason =>
    simp only [hres, Option.some.injEq] at hfail ⊢
    exact hfail ▸ rfl
  | ok unit =>
    simp only [hres] at hfail ⊢
    by_cases he : unit.hasErrors = true
    · simp only [he, if_true, Option.some.injEq] at hfail ⊢
      exact hfail ▸ rfl
    · simp [he] at hfail

/-- A file that was processed can be used. -/
theorem process_eq_ok (h : v.process file s = (.ok (), s')) :
    ∃ unit, (v.provider file).result = .ok unit ∧ unit.hasErrors = false ∧
      s' = v.advance file unit s := by
  cases hfail : v.failure? file with
  | some e =>
    rw [process_of_failure hfail] at h
    exact absurd h (by simp)
  | none =>
    obtain ⟨unit, hres, he⟩ := failure?_eq_none_iff.mp hfail
    rw [process_of_ok hres he] at h
    exact ⟨unit, hres, he, (Prod.mk.inj h).2.symm⟩

/-! ## 3. Whole runs -/

theorem run_nil (bound : Nat) (hq : s.queue = []) : v.run bound s = some (.ok (), s) := by
  unfold run
  simp only [hq]

theorem run_stops {bound : Nat} (hq : s.queue = []) (h : v.run bound s = some (.ok (), s')) :
    s' = s := by
  rw [run_nil bound hq] at h
  exact (Prod.mk.inj (Option.some.inj h)).2.symm

/-- A run goes on after a file that can be used. -/
theorem run_cons_of_ok (bound : Nat) (hq : s.queue = file :: rest)
    (hres : (v.provider file).result = .ok unit) (he : unit.hasErrors = false) :
    v.run (bound + 1) s = v.run bound (v.advance file unit { s with queue := rest }) := by
  rw [run]
  simp only [hq, process_of_ok hres he]

/-- A run ends at a file that cannot be used. -/
theorem run_cons_of_failure (bound : Nat) {e : SurveyFailure} (hq : s.queue = file :: rest)
    (hfail : v.failure? file = some e) :
    v.run (bound + 1) s = some (.error e, v.attempt file { s with queue := rest }) := by
  rw [run]
  simp only [hq, process_of_failure hfail]

/-- **What every usable file keeps, a survey that succeeds keeps.** -/
theorem run_invariant {I : SurveyState → Prop} {bound : Nat}
    (hstep : ∀ file rest unit s, s.queue = file :: rest → (v.provider file).result = .ok unit →
      unit.hasErrors = false → I s → I (v.advance file unit { s with queue := rest }))
    (h : v.run bound s = some (.ok (), s')) (hs : I s) : I s' ∧ s'.queue = [] := by
  induction bound generalizing s with
  | zero =>
    cases hq : s.queue with
    | nil =>
      obtain rfl := run_stops hq h
      exact ⟨hs, hq⟩
    | cons file rest =>
      rw [run] at h
      simp [hq] at h
  | succ bound ih =>
    cases hq : s.queue with
    | nil =>
      obtain rfl := run_stops hq h
      exact ⟨hs, hq⟩
    | cons file rest =>
      cases hfail : v.failure? file with
      | none =>
        obtain ⟨unit, hres, he⟩ := failure?_eq_none_iff.mp hfail
        rw [run_cons_of_ok bound hq hres he] at h
        exact ih h (hstep file rest unit s hq hres he hs)
      | some e =>
        rw [run_cons_of_failure bound hq hfail] at h
        exact absurd h (by simp)

/-! ## 4. Stages -/

/-- **The states that a survey goes through**: the start, and the state after each file that was
processed.  A survey that fails later has gone through the stages before. -/
inductive Stage (v : Survey) : SurveyState → Prop
  | start : Stage v (.start v.entry.path)
  | step {file : Path} {rest : List Path} {s s' : SurveyState} : Stage v s →
      s.queue = file :: rest → v.process file { s with queue := rest } = (.ok (), s') → Stage v s'

/-- **What holds at the start and is kept by every usable file holds at every stage.** -/
theorem Stage.invariant {I : SurveyState → Prop}
    (hstep : ∀ file rest unit s, s.queue = file :: rest → (v.provider file).result = .ok unit →
      unit.hasErrors = false → I s → I (v.advance file unit { s with queue := rest }))
    (hstart : I (.start v.entry.path)) (hs : v.Stage s) : I s := by
  induction hs with
  | start => exact hstart
  | step _ hq hprocess ih =>
    obtain ⟨unit, hres, he, rfl⟩ := process_eq_ok hprocess
    exact hstep _ _ unit _ hq hres he ih

/-- **The outcome of a survey that succeeds is that of a stage.** -/
theorem outcome_stage {bound : Nat} {o : Outcome} {x : Extraction}
    (ho : v.outcome bound = some o) (hx : o.result = .ok x) :
    ∃ s, v.Stage s ∧ s.queue = [] ∧ s.extraction = x ∧ s.parsed = o.parsed ∧
      s.reports = o.reports := by
  unfold outcome at ho
  obtain ⟨⟨res, s⟩, hrun, rfl⟩ := Option.map_eq_some_iff.mp ho
  cases res with
  | error e => exact absurd hx (by simp [Except.map])
  | ok u =>
    obtain ⟨hstage, hqueue⟩ := run_invariant (I := v.Stage)
      (fun file rest unit s hq hres he hs => hs.step hq (process_of_ok hres he _)) hrun .start
    exact ⟨s, hstage, hqueue, Except.ok.inj hx, rfl, rfl⟩

/-- **What holds at the start and is kept by every usable file holds of the outcome.** -/
theorem outcome_invariant {I : SurveyState → Prop} {bound : Nat} {o : Outcome} {x : Extraction}
    (hstep : ∀ file rest unit s, s.queue = file :: rest → (v.provider file).result = .ok unit →
      unit.hasErrors = false → I s → I (v.advance file unit { s with queue := rest }))
    (hstart : I (.start v.entry.path)) (ho : v.outcome bound = some o) (hx : o.result = .ok x) :
    ∃ s, I s ∧ s.extraction = x ∧ s.parsed = o.parsed ∧ s.reports = o.reports := by
  obtain ⟨s, hstage, -, hfields⟩ := outcome_stage ho hx
  exact ⟨s, hstage.invariant hstep hstart, hfields⟩

end Survey

end CppSurface
