import BuildGate.Proofs.ScanOutput

/-!
# The status of a failure

The exit status of a failure is that of the tool it leads to, if it leads to one, and 1 otherwise: of
failures that are combined the first one decides. A system hands on a status from 0 to 255, so a step
that only fails with such a status can be told from a success also behind the system. The stages of the
pipeline are such steps, if the runner only reports what a system can hand on.

**Results.**
* `Failure.exitCode_eq_or`, `Failure.exits_of_leadsTo`: the status of a failure, from what it leads to.
* `Step.Exits.bind`, `Step.Exits.attempt_bind`: steps one after the other.
* `Pipeline.checkStyle_exits`, `Pipeline.test_exits`, `Pipeline.coverage_exits`: the stages.
* `Pipeline.checkStyle_forwards`: a check that lints in vain fails with the status of the linter.
-/
namespace BuildGate

namespace Failure

/-- `LeadsTo f code` says that the tool to which `f` leads ended with `code`: of `combined` failures
the first one decides. -/
inductive LeadsTo : Failure → Option Int → Prop
  | tool (tool : String) (code : Option Int) : LeadsTo (toolFailed tool code) code
  | first {f : Failure} {code : Option Int} (rest : List Failure) :
      LeadsTo f code → LeadsTo (combined (f :: rest)) code

theorem LeadsTo.exitCode {f : Failure} {code : Int} (h : f.LeadsTo (some code)) (hne : code ≠ 0) :
    f.exitCode = code := by
  generalize hc : some code = c at h
  induction h with
  | tool tool c =>
    rw [← hc, Failure.exitCode, if_neg hne]
  | first rest h ih =>
    rw [Failure.exitCode, firstExitCode]
    exact ih hc

/-- A failure has the status 1, or that of the tool it leads to. -/
theorem exitCode_eq_or : (f : Failure) →
    f.exitCode = 1 ∨ ∃ code, code ≠ 0 ∧ f.LeadsTo (some code) ∧ f.exitCode = code
  | toolFailed tool (some code) => by
    by_cases h : code = 0
    · left
      rw [exitCode, if_pos h]
    · exact .inr ⟨code, h, .tool tool _, by rw [exitCode, if_neg h]⟩
  | combined [] => .inl rfl
  | combined (f :: rest) => by
    rw [exitCode, firstExitCode]
    rcases exitCode_eq_or f with h | ⟨code, hne, hf, h⟩
    · exact .inl h
    · exact .inr ⟨code, hne, .first rest hf, h⟩
  | toolFailed _ none | read _ _ | pattern _ _ | io _ _ | unsafeClean _ _ | invalidModule _
  | invalidRule _ _ | styleViolations _ | toolSpawn _ _ => .inl rfl

/-- The status of `f` is one that a system hands on and none of success. -/
def Exits (f : Failure) : Prop := 1 ≤ f.exitCode ∧ f.exitCode ≤ 255

theorem exits_of_leadsTo {f : Failure} (h : ∀ code, f.LeadsTo (some code) → 0 ≤ code ∧ code ≤ 255) :
    f.Exits := by
  rcases exitCode_eq_or f with hf | ⟨code, hne, hleads, hf⟩
  · rw [Exits, hf]
    decide
  · have := h code hleads
    rw [Exits, hf]
    omega

theorem exits_of_one {f : Failure} (h : f.exitCode = 1) : f.Exits := by
  rw [Exits, h]
  decide

/-- Of several failures the first one decides. -/
theorem exitCode_combine (f : Failure) (rest : List Failure) :
    (combine (f :: rest)).map exitCode = some f.exitCode := by
  cases rest <;> rfl

end Failure

/-- A runner that reports what a system can hand on: where `laid` holds of the answers, each code
that it gives or fails with lies from 0 to 255. `laid` holds where there are no answers, and the
runner keeps it. -/
structure Runner.InRange (run : Runner) (laid : List Answer → Prop) : Prop where
  none : laid []
  keeps : ∀ call w, laid w.answers → laid (run call w).2.answers
  code : ∀ call w code, laid w.answers → (run call w).1 = .ok (some code) → 0 ≤ code ∧ code ≤ 255
  failure : ∀ call w e code, laid w.answers → (run call w).1 = .error e → e.LeadsTo (some code) →
    0 ≤ code ∧ code ≤ 255

/-! ## Steps -/

namespace Step

variable {laid : List Answer → Prop} {α β : Type} {x : Step α} {f : α → Step β}

/-- The step keeps the condition `laid` on the answers, and fails with a status that a system hands
on. -/
structure Exits (laid : List Answer → Prop) (step : Step α) : Prop where
  keeps : ∀ w, laid w.answers → laid (step w).2.answers
  failure : ∀ w e, laid w.answers → (step w).1 = .error e → e.Exits

theorem exits_ofExcept {r : Except Failure α} (h : ∀ e, r = .error e → e.Exits) :
    (ofExcept r).Exits laid :=
  ⟨fun _ hw => hw, fun _ e _ he => h e he⟩

theorem exits_pure (a : α) : (pure a : Step α).Exits laid :=
  exits_ofExcept fun _ h => by cases h

theorem exits_throw {e : Failure} (h : e.Exits) : (throw e : Step α).Exits laid :=
  exits_ofExcept fun _ he => by cases he; exact h

/-- Where the run of a step is known and calls no tool. -/
theorem exits_of_runs (h : ∀ w, ∃ r fs, x.Runs w r fs [] ∧ ∀ e, r = .error e → e.Exits) :
    x.Exits laid := by
  refine ⟨fun w hw => ?_, fun w e _ he => ?_⟩
  · obtain ⟨r, fs, hruns, -⟩ := h w
    rw [hruns.leaves.answers]
    exact hw
  · obtain ⟨r, fs, hruns, herr⟩ := h w
    exact herr e (hruns.result.symm.trans he)

theorem exits_tree : tree.Exits laid := ⟨fun _ hw => hw, fun _ _ _ he => by cases he⟩

theorem exits_emit (e : Event) : (emit e).Exits laid := ⟨fun _ hw => hw, fun _ _ _ he => by cases he⟩

theorem exits_log (level : LogLevel) (source : LogSource) (message : String)
    (fields : List LogField) : (log level source message fields).Exits laid :=
  ⟨fun _ hw => hw, fun _ _ _ he => by cases he⟩

/-- What comes next may make use of how the value came about. -/
theorem Exits.bind_of (h : x.Exits laid)
    (h' : ∀ w a, laid w.answers → (x w).1 = .ok a → (f a).Exits laid) : (x >>= f).Exits laid := by
  refine ⟨fun w hw => ?_, fun w e hw he => ?_⟩
  · rw [bind_run]
    cases hx : (x w).1 with
    | ok a => exact (h' w a hw hx).keeps _ (h.keeps w hw)
    | error e => exact h.keeps w hw
  · rw [bind_run] at he
    cases hx : (x w).1 with
    | ok a =>
      rw [hx] at he
      exact (h' w a hw hx).failure _ e (h.keeps w hw) he
    | error e' =>
      rw [hx] at he
      cases he
      exact h.failure w e hw hx

theorem Exits.bind (h : x.Exits laid) (h' : ∀ a, (f a).Exits laid) : (x >>= f).Exits laid :=
  h.bind_of fun _ a _ _ => h' a

/-- What is logged first makes no difference. -/
theorem Exits.after_log (h : x.Exits laid) (level : LogLevel) (source : LogSource) (message : String)
    (fields : List LogField) : (do log level source message fields; x : Step α).Exits laid :=
  (exits_log level source message fields).bind fun _ => h

theorem Exits.inSpan (h : x.Exits laid) (s : LogSpan) : (Step.inSpan s x).Exits laid :=
  ⟨fun w hw => h.keeps { w with spans := w.spans ++ [s] } hw,
    fun w e hw he => h.failure { w with spans := w.spans ++ [s] } e hw he⟩

theorem Exits.attempt (h : x.Exits laid) : (Step.attempt x).Exits laid :=
  ⟨h.keeps, fun _ _ _ he => by cases he⟩

/-- How a step ends may decide how a later one does. -/
theorem Exits.attempt_bind {f : Except Failure α → Step β} (h : x.Exits laid)
    (h' : ∀ r, (∀ e, r = .error e → e.Exits) → (f r).Exits laid) :
    (Step.attempt x >>= f).Exits laid := by
  refine h.attempt.bind_of fun w r hw hr => h' r ?_
  rintro e rfl
  exact h.failure w e hw (Except.ok.inj hr)

theorem exits_forM {l : List α} {f : α → Step Unit} (h : ∀ a, (f a).Exits laid) :
    (l.forM f).Exits laid := by
  induction l with
  | nil => exact exits_pure ()
  | cons a l ih => exact (h a).bind fun _ => ih

end Step

open Step (exits_ofExcept exits_pure exits_throw exits_tree exits_emit exits_log)
open Failure (exits_of_one exits_of_leadsTo)

variable {laid : List Answer → Prop}

namespace Runner.InRange

variable {run : Runner} (h : run.InRange laid)
include h

theorem exits (call : Invocation) : (run call).Exits laid :=
  ⟨h.keeps call, fun w e hw he => exits_of_leadsTo fun code hleads => h.failure call w e code hw he hleads⟩

/-- A call that is checked fails with the code of the tool, or as the runner does. -/
theorem runChecked (call : Invocation) : (runChecked run call).Exits laid := by
  refine Step.Exits.after_log ?_ _ _ _ _
  refine (h.exits call).bind_of fun w code hw hcode => ?_
  split
  · exact exits_pure ()
  · refine Step.Exits.after_log (exits_throw (exits_of_leadsTo ?_)) _ _ _ _
    rintro c ⟨⟩
    exact h.code call w c hw hcode

end Runner.InRange

/-! ## Stages -/

namespace Pipeline

variable (p : Pipeline)

theorem expand_exits (patterns : List String) : (p.expand patterns).Exits laid := by
  refine Step.exits_of_runs fun w => ⟨_, _, p.expand_runs patterns w, fun e he => ?_⟩
  obtain ⟨entry, reason, rfl⟩ := FileSet.pattern_of_filesOf he
  exact exits_of_one rfl

theorem registry_exits (rules : List RuleSource) : (registry rules).Exits laid := by
  refine Step.exits_of_runs fun w => ⟨_, _, registry_runs rules w, fun e he => ?_⟩
  obtain ⟨pattern, reason, rfl⟩ := invalidRule_of_withCustom he
  exact exits_of_one rfl

theorem styleScan_exits (files : List String) : (p.styleScan files).Exits laid := by
  refine Step.exits_of_runs fun w => ?_
  obtain ⟨r, fs, h⟩ := p.exists_scanEnd w.tree files
  refine ⟨r, fs, h.runs rfl, ?_⟩
  rintro e rfl
  exact exits_of_one h.exitCode

theorem testPatterns_exits {selection : TestSelection} {e : Failure}
    (h : p.testPatterns selection = .error e) : e.Exits := by
  cases selection with
  | all => cases h
  | module name =>
    simp only [testPatterns] at h
    split at h
    · cases h
    · cases h
      exact exits_of_one rfl

theorem testCall_exits (selection : TestSelection) : (p.testCall selection).Exits laid := by
  refine (exits_ofExcept fun e he => p.testPatterns_exits he).bind fun patterns => ?_
  refine (p.expand_exits patterns).bind fun files => ?_
  cases files.isEmpty with
  | true => exact (exits_pure _).after_log _ _ _ _
  | false => exact exits_pure _

theorem clean_exits : p.clean.Exits laid := by
  have hio : ∀ {α : Type} (path : String) (r : Except IoFault α),
      (Step.ofExcept (r.mapError (Failure.io path))).Exits laid := by
    refine fun path r => exits_ofExcept fun e he => ?_
    cases r with
    | ok a => cases he
    | error cause =>
      cases he
      exact exits_of_one rfl
  refine exits_tree.bind fun t => ?_
  split
  · refine (hio _ _).bind fun root => (hio _ _).bind fun target => ?_
    split
    · exact (exits_throw (exits_of_one rfl)).after_log _ _ _ _
    · refine Step.Exits.after_log ((hio _ _).bind fun t' => ?_) _ _ _ _
      exact ⟨fun _ hw => hw, fun _ _ _ he => by cases he⟩
  · exact exits_pure ()

section
variable {p} (h : p.run.InRange laid)
include h

theorem lint_exits : p.lint.Exits laid := by
  refine Step.Exits.inSpan ((p.expand_exits _).bind fun files => ?_) _
  split
  · exact exits_log _ _ _ _
  · exact h.runChecked _

theorem checkStyle_exits : p.checkStyle.Exits laid := by
  refine (lint_exits h).attempt_bind fun linted hlinted => ?_
  refine (p.styleScan_exits []).attempt_bind fun scanned hscanned => ?_
  refine exits_ofExcept fun e he => ?_
  cases linted with
  | ok u => exact hscanned e he
  | error l =>
    have hl := hlinted l rfl
    cases scanned with
    | ok summary =>
      cases he
      exact hl
    | error s =>
      cases he
      exact hl

theorem test_exits (selection : TestSelection) : (p.test selection).Exits laid :=
  ((p.testCall_exits selection).bind fun call => h.runChecked call).inSpan _

theorem defaultRun_exits : p.defaultRun.Exits laid :=
  (checkStyle_exits h).bind fun _ => test_exits h .all

theorem coverage_exits (report : Option String) : (p.coverage report).Exits laid :=
  (p.clean_exits.bind fun _ => (p.testCall_exits .all).bind fun _ => h.runChecked _).inSpan _

theorem upload_exits : p.upload.Exits laid := (h.runChecked _).inSpan _

theorem open_exits (file : String) (viewer : Option String) : (p.open file viewer).Exits laid := by
  refine Step.Exits.inSpan ?_ _
  cases viewer with
  | none => exact exits_log _ _ _ _
  | some program =>
    refine (h.runChecked _).attempt.bind fun r => ?_
    cases r with
    | ok u => exact exits_pure u
    | error e => exact exits_log _ _ _ _

end

/-- A check that lints in vain fails with the status of the linter, whatever comes of the scan. -/
theorem checkStyle_forwards {w : World} {l : Failure} (h : (p.lint w).1 = .error l) :
    ∃ e, (p.checkStyle w).1 = .error e ∧ e.exitCode = l.exitCode := by
  have hrun : (p.checkStyle w).1 = bothOf (p.lint w).1 (p.styleScan [] (p.lint w).2).1 := rfl
  rw [hrun, h]
  cases (p.styleScan [] (p.lint w).2).1 with
  | ok summary => exact ⟨l, rfl, rfl⟩
  | error s => exact ⟨_, rfl, rfl⟩

end Pipeline

end BuildGate
