import BuildGate.Proofs.FileLists
import BuildGate.Proofs.ModuleTests

/-!
# Runs of stages that call tools

A run of a stage is told by how it ends, what it reports and which tools it calls. Where the answers
are laid down each call takes the next one, so two runs on the same tree that begin with the same
answer end in the same way, report the same and call the same tools. No stage but cleaning touches the
tree.

**Results.**
* `Step.Runs.bind_ok`, `Step.Runs.bind_error`: runs one after the other.
* `runChecked_runs`: a call ends as its answer says.
* `Pipeline.lint_runs`, `Pipeline.testCall_selection_runs`, `Pipeline.test_selection_runs`: the stages.
* `Step.Adds`, `Pipeline.test_adds`: what is left in the trace stands behind what was there.
-/
namespace BuildGate

open World (Reports)

/-! ## How a run ends and what it leaves -/

namespace World

/-- `w'` is `w` with entries of the log, the findings `fs` and the calls `cs` in its trace, each of
which has taken an answer. -/
structure Leaves (w : World) (fs : List Finding) (cs : List Invocation) (w' : World) : Prop where
  tree : w'.tree = w.tree
  answers : w'.answers = w.answers.drop cs.length
  spans : w'.spans = w.spans
  reported : w'.reported = w.reported ++ fs
  calls : w'.calls = w.calls ++ cs

variable {w w₁ w₂ : World} {fs gs : List Finding} {cs ds : List Invocation}

theorem Reports.leaves (h : Reports w fs w₁) : Leaves w fs [] w₁ where
  tree := h.tree
  answers := h.answers
  spans := h.spans
  reported := h.reported
  calls := by rw [h.calls, List.append_nil]

theorem Leaves.trans (h : Leaves w fs cs w₁) (h' : Leaves w₁ gs ds w₂) :
    Leaves w (fs ++ gs) (cs ++ ds) w₂ where
  tree := h'.tree.trans h.tree
  answers := by rw [h'.answers, h.answers, List.drop_drop, List.length_append]
  spans := h'.spans.trans h.spans
  reported := by rw [h'.reported, h.reported, List.append_assoc]
  calls := by rw [h'.calls, h.calls, List.append_assoc]

end World

open World (Leaves)

namespace Step

/-- How `step` ends from `w`, and what it leaves. -/
structure Runs {α : Type} (step : Step α) (w : World) (r : Except Failure α) (fs : List Finding)
    (cs : List Invocation) : Prop where
  result : (step w).1 = r
  leaves : Leaves w fs cs (step w).2

variable {α β : Type} {x : Step α} {f : α → Step β} {w : World} {fs gs : List Finding}
  {cs ds : List Invocation}

theorem runs_of_reports {r : Except Failure α} (h : ∃ w', x w = (r, w') ∧ Reports w fs w') :
    x.Runs w r fs [] := by
  obtain ⟨w', hx, hw⟩ := h
  exact ⟨by rw [hx], by rw [hx]; exact hw.leaves⟩

theorem runs_ofExcept (r : Except Failure α) (w : World) : (ofExcept r).Runs w r [] [] :=
  runs_of_reports ⟨w, rfl, Reports.refl w⟩

theorem runs_tree (w : World) : tree.Runs w (.ok w.tree) [] [] :=
  runs_of_reports ⟨w, rfl, Reports.refl w⟩

theorem runs_log (level : LogLevel) (source : LogSource) (message : String)
    (fields : List LogField) (w : World) :
    (log level source message fields).Runs w (.ok ()) [] [] :=
  runs_of_reports (log_run level source message fields w)

namespace Runs

theorem bind_ok {a : α} {r : Except Failure β} (h : x.Runs w (.ok a) fs cs)
    (h' : (f a).Runs (x w).2 r gs ds) : (x >>= f).Runs w r (fs ++ gs) (cs ++ ds) := by
  have hrun : (x >>= f) w = f a (x w).2 := Step.bind_ok (Prod.ext h.result rfl) f
  exact ⟨by rw [hrun, h'.result], by rw [hrun]; exact h.leaves.trans h'.leaves⟩

/-- What comes first leaves nothing. -/
theorem bind_first {a : α} {r : Except Failure β} (h : x.Runs w (.ok a) [] [])
    (h' : (f a).Runs (x w).2 r gs ds) : (x >>= f).Runs w r gs ds :=
  h.bind_ok h'

/-- What comes last leaves nothing. -/
theorem bind_last {a : α} {r : Except Failure β} (h : x.Runs w (.ok a) fs cs)
    (h' : (f a).Runs (x w).2 r [] []) : (x >>= f).Runs w r fs cs := by
  have hboth := h.bind_ok h'
  rwa [List.append_nil, List.append_nil] at hboth

theorem bind_error {e : Failure} (h : x.Runs w (.error e) fs cs) (f : α → Step β) :
    (x >>= f).Runs w (.error e) fs cs := by
  have hrun : (x >>= f) w = (.error e, (x w).2) := Step.bind_error (Prod.ext h.result rfl) f
  exact ⟨by rw [hrun], by rw [hrun]; exact h.leaves⟩

/-- What is logged first changes nothing. -/
theorem after_log {level : LogLevel} {source : LogSource} {message : String}
    {fields : List LogField} {next : Step β} {r : Except Failure β}
    (h : ∀ v, Leaves w [] [] v → next.Runs v r gs ds) :
    (do log level source message fields; next : Step β).Runs w r gs ds :=
  (runs_log level source message fields w).bind_ok (h _ (runs_log _ _ _ _ w).leaves)

theorem attempt {r : Except Failure α} (h : x.Runs w r fs cs) :
    (Step.attempt x).Runs w (.ok r) fs cs :=
  ⟨congrArg Except.ok h.result, h.leaves⟩

theorem inSpan {s : LogSpan} {r : Except Failure α}
    (h : x.Runs { w with spans := w.spans ++ [s] } r fs cs) : (Step.inSpan s x).Runs w r fs cs :=
  ⟨h.result, ⟨h.leaves.tree, h.leaves.answers, rfl, h.leaves.reported, h.leaves.calls⟩⟩

end Runs

/-- The step only adds events of the `kind` to the trace. -/
def Adds {α : Type} (kind : Event → Prop) (step : Step α) : Prop :=
  ∀ w : World, ∃ es, (step w).2.trace = w.trace ++ es ∧ ∀ e ∈ es, kind e

section
variable {kind : Event → Prop}

theorem adds_nothing (h : ∀ w : World, (x w).2.trace = w.trace) : x.Adds kind :=
  fun w => ⟨[], by rw [h, List.append_nil], fun _ he => by cases he⟩

theorem adds_ofExcept (r : Except Failure α) : (ofExcept r).Adds kind := adds_nothing fun _ => rfl

theorem adds_tree : tree.Adds kind := adds_nothing fun _ => rfl

theorem adds_emit {e : Event} (h : kind e) : (emit e).Adds kind :=
  fun _ => ⟨[e], rfl, fun _ he => by rwa [List.mem_singleton.1 he]⟩

theorem adds_log (h : ∀ entry, kind (.logged entry)) (level : LogLevel) (source : LogSource)
    (message : String) (fields : List LogField) : (log level source message fields).Adds kind :=
  fun w => adds_emit (h ⟨level, source, w.spans, message, fields⟩) w

theorem Adds.bind (h : x.Adds kind) (h' : ∀ a, (f a).Adds kind) : (x >>= f).Adds kind := by
  intro w
  obtain ⟨es, hes, hkind⟩ := h w
  rw [bind_run]
  cases (x w).1 with
  | error e => exact ⟨es, hes, hkind⟩
  | ok a =>
    obtain ⟨more, hmore, hkind'⟩ := h' a (x w).2
    refine ⟨es ++ more, ?_, List.forall_mem_append.2 ⟨hkind, hkind'⟩⟩
    rw [hmore, hes, List.append_assoc]

theorem Adds.inSpan {s : LogSpan} (h : x.Adds kind) : (Step.inSpan s x).Adds kind :=
  fun w => h { w with spans := w.spans ++ [s] }

theorem Adds.prefix_run (h : x.Adds kind) (w : World) : w.trace <+: (x w).2.trace := by
  obtain ⟨es, hes, -⟩ := h w
  exact ⟨es, hes.symm⟩

end

end Step

/-! ## One call -/

/-- The answer that the next call gets: a success if none is laid down. -/
def World.nextAnswer (w : World) : Answer := w.answers.headD (.exited (some 0))

/-- How `call` ends when it gets an answer: only the status 0 is a success. -/
def Answer.verdict (call : Invocation) : Answer → Except Failure Unit
  | .exited code => if code = some 0 then .ok () else .error (.toolFailed call.program code)
  | .notStarted cause => .error (.toolSpawn call.program cause)

theorem Answer.verdict_eq_ok_iff {call : Invocation} {a : Answer} :
    a.verdict call = .ok () ↔ a = .exited (some 0) := by
  cases a with
  | exited code =>
    rw [verdict]
    split
    next h => simp [h]
    next h => simp [h]
  | notStarted cause => simp [verdict]

/-- What the script says about a call, and what is left of it. -/
theorem scripted_runs (call : Invocation) (w : World) :
    (Runner.scripted call).Runs w
      (match w.nextAnswer with
        | .exited code => .ok code
        | .notStarted cause => .error (.toolSpawn call.program cause)) [] [call] := by
  have hreported : ∀ answers spans, World.reported ⟨w.tree, answers, spans, w.trace ++ [.called call]⟩ =
      w.reported := fun _ _ => by simp [World.reported, Event.finding?]
  have hcalls : ∀ answers spans, World.calls ⟨w.tree, answers, spans, w.trace ++ [.called call]⟩ =
      w.calls ++ [call] := fun _ _ => by simp [World.calls, Event.call?]
  obtain ⟨tree, answers, spans, trace⟩ := w
  rcases answers with _ | ⟨code | cause, rest⟩
  all_goals
    exact ⟨rfl, rfl, rfl, rfl, by rw [List.append_nil]; exact hreported _ _, hcalls _ _⟩

theorem World.Leaves.nextAnswer {w w' : World} {fs : List Finding} (h : Leaves w fs [] w') :
    w'.nextAnswer = w.nextAnswer := by
  rw [World.nextAnswer, World.nextAnswer, h.answers]
  rfl

/-- A call that is checked ends as its answer says. -/
theorem runChecked_runs (call : Invocation) (w : World) :
    (runChecked Runner.scripted call).Runs w (w.nextAnswer.verdict call) [] [call] := by
  refine Step.Runs.after_log fun v hv => ?_
  have hcall := scripted_runs call v
  rw [hv.nextAnswer] at hcall
  cases hanswer : w.nextAnswer with
  | notStarted cause =>
    rw [hanswer] at hcall
    exact hcall.bind_error _
  | exited code =>
    rw [hanswer] at hcall
    rw [Answer.verdict]
    refine hcall.bind_last ?_
    split
    · exact Step.runs_ofExcept (.ok ()) _
    · exact Step.Runs.after_log fun u _ => Step.runs_ofExcept (.error _) u

theorem scripted_adds {kind : Event → Prop} (hcall : ∀ call, kind (.called call))
    (call : Invocation) : (Runner.scripted call).Adds kind := by
  intro w
  obtain ⟨tree, answers, spans, trace⟩ := w
  have hkind : ∀ e ∈ [Event.called call], kind e := fun e he => by
    rw [List.mem_singleton.1 he]
    exact hcall call
  match answers with
  | [] | .exited _ :: _ | .notStarted _ :: _ => exact ⟨_, rfl, hkind⟩

theorem runChecked_adds {kind : Event → Prop} (hlog : ∀ entry, kind (.logged entry))
    (hcall : ∀ call, kind (.called call)) (call : Invocation) :
    (runChecked Runner.scripted call).Adds kind := by
  refine (Step.adds_log hlog _ _ _ _).bind fun _ => (scripted_adds hcall call).bind fun code => ?_
  split
  · exact Step.adds_ofExcept (.ok ())
  · exact (Step.adds_log hlog _ _ _ _).bind fun _ => Step.adds_ofExcept (.error _)

/-! ## Stages -/

namespace Pipeline

variable (p : Pipeline)

theorem expand_runs (patterns : List String) (w : World) :
    (p.expand patterns).Runs w (FileSet.filesOf w.tree p.root patterns) [] [] := by
  unfold expand FileSet.filesOf
  cases hread : FileSet.read patterns with
  | error e => exact (Step.runs_ofExcept (.error e) w).bind_error _
  | ok set =>
    refine (Step.runs_ofExcept (.ok set) w).bind_first ?_
    refine (Step.runs_tree w).bind_first ?_
    change Step.Runs _ w (set.expand w.tree p.root) [] []
    cases set.expand w.tree p.root with
    | error e => exact (Step.runs_ofExcept (.error e) w).bind_error _
    | ok files =>
      refine (Step.runs_ofExcept (.ok files) w).bind_first ?_
      exact Step.Runs.after_log fun v _ => Step.runs_ofExcept (.ok files) v

theorem expand_adds {kind : Event → Prop} (hlog : ∀ entry, kind (.logged entry))
    (patterns : List String) : (p.expand patterns).Adds kind := by
  refine (Step.adds_ofExcept _).bind fun set => Step.adds_tree.bind fun t => ?_
  refine (Step.adds_ofExcept _).bind fun files => ?_
  exact (Step.adds_log hlog _ _ _ _).bind fun _ => Step.adds_ofExcept (.ok files)

/-- The call of `lint.program` that takes `files`. -/
def lintCall (files : List String) : Invocation :=
  ((p.call p.settings.lint.program).withArgs p.settings.lint.args).withArgs files

/-- The calls that `lint` comes to: one if its patterns lead to files, and else none. -/
def lintCalls (t : FileTree) : List Invocation :=
  match FileSet.filesOf t p.root p.settings.lint.files with
  | .ok files => if files.isEmpty then [] else [p.lintCall files]
  | .error _ => []

/-- How `lint` ends if the linter gives the answer `a`. -/
def lintEnd (t : FileTree) (a : Answer) : Except Failure Unit :=
  match FileSet.filesOf t p.root p.settings.lint.files with
  | .ok files => if files.isEmpty then .ok () else a.verdict (p.lintCall files)
  | .error e => .error e

/-- The calls of a test run: one if `test.files` can be read. -/
def testCalls (t : FileTree) : List Invocation :=
  match FileSet.filesOf t p.root p.settings.test.files with
  | .ok files => [p.runnerCall files]
  | .error _ => []

/-- How a test run ends if the test runner gives the answer `a`. -/
def testEnd (t : FileTree) (a : Answer) : Except Failure Unit :=
  match FileSet.filesOf t p.root p.settings.test.files with
  | .ok files => a.verdict (p.runnerCall files)
  | .error e => .error e

/-- The files that `selection` loads. -/
def selectionFiles (t : FileTree) (selection : TestSelection) : Except Failure (List String) := do
  FileSet.filesOf t p.root (← p.testPatterns selection)

/-- The calls of a run of `selection`: one if it has patterns that can be read. -/
def selectionCalls (t : FileTree) (selection : TestSelection) : List Invocation :=
  match p.selectionFiles t selection with
  | .ok files => [p.runnerCall files]
  | .error _ => []

/-- How a run of `selection` ends if the test runner gives the answer `a`. -/
def selectionEnd (t : FileTree) (selection : TestSelection) (a : Answer) : Except Failure Unit :=
  match p.selectionFiles t selection with
  | .ok files => a.verdict (p.runnerCall files)
  | .error e => .error e

theorem testCall_selection_runs (selection : TestSelection) (w : World) :
    (p.testCall selection).Runs w ((p.selectionFiles w.tree selection).map p.runnerCall) [] [] := by
  unfold testCall selectionFiles
  cases p.testPatterns selection with
  | error e => exact (Step.runs_ofExcept (.error e) w).bind_error _
  | ok patterns =>
    have hexpand := p.expand_runs patterns w
    refine (Step.runs_ofExcept (.ok patterns) w).bind_first ?_
    change Step.Runs _ w ((FileSet.filesOf w.tree p.root patterns).map p.runnerCall) [] []
    cases hfiles : FileSet.filesOf w.tree p.root patterns with
    | error e =>
      rw [hfiles] at hexpand
      exact hexpand.bind_error _
    | ok files =>
      rw [hfiles] at hexpand
      refine hexpand.bind_first ?_
      cases files.isEmpty with
      | true => exact Step.Runs.after_log fun v _ => Step.runs_ofExcept (.ok _) v
      | false => exact Step.runs_ofExcept (.ok _) _

theorem testCall_runs (w : World) :
    (p.testCall .all).Runs w
      ((FileSet.filesOf w.tree p.root p.settings.test.files).map p.runnerCall) [] [] :=
  p.testCall_selection_runs .all w

section
variable (hrun : p.run = Runner.scripted) (w : World)
include hrun

theorem lint_runs :
    p.lint.Runs w (p.lintEnd w.tree w.nextAnswer) [] (p.lintCalls w.tree) := by
  unfold lint inStage lintEnd lintCalls
  refine Step.Runs.inSpan ?_
  generalize hv : { w with spans := _ } = v
  have htree : v.tree = w.tree := by rw [← hv]
  have hanswer : v.nextAnswer = w.nextAnswer := by rw [← hv]; rfl
  have hexpand := p.expand_runs p.settings.lint.files v
  rw [htree] at hexpand
  cases hfiles : FileSet.filesOf w.tree p.root p.settings.lint.files with
  | error e =>
    rw [hfiles] at hexpand
    exact hexpand.bind_error _
  | ok files =>
    rw [hfiles] at hexpand
    cases hnone : files.isEmpty with
    | true =>
      simp only [hnone, if_true]
      refine hexpand.bind_first ?_
      simp only [hnone, if_true]
      exact Step.runs_log _ _ _ _ _
    | false =>
      simp only [hnone, Bool.false_eq_true, if_false]
      refine hexpand.bind_first ?_
      simp only [hnone, Bool.false_eq_true, if_false]
      have hcall := runChecked_runs (p.lintCall files) (p.expand p.settings.lint.files v).2
      rwa [hexpand.leaves.nextAnswer, hanswer, ← hrun] at hcall

theorem test_selection_runs (selection : TestSelection) :
    (p.test selection).Runs w (p.selectionEnd w.tree selection w.nextAnswer) []
      (p.selectionCalls w.tree selection) := by
  unfold test inStage selectionEnd selectionCalls
  refine Step.Runs.inSpan ?_
  generalize hv : { w with spans := _ } = v
  have htree : v.tree = w.tree := by rw [← hv]
  have hanswer : v.nextAnswer = w.nextAnswer := by rw [← hv]; rfl
  have hcall := p.testCall_selection_runs selection v
  rw [htree] at hcall
  cases hfiles : p.selectionFiles w.tree selection with
  | error e =>
    rw [hfiles] at hcall
    exact hcall.bind_error _
  | ok files =>
    rw [hfiles] at hcall
    refine hcall.bind_first ?_
    have hchecked := runChecked_runs (p.runnerCall files) (p.testCall selection v).2
    rwa [hcall.leaves.nextAnswer, hanswer, ← hrun] at hchecked

theorem test_runs :
    (p.test .all).Runs w (p.testEnd w.tree w.nextAnswer) [] (p.testCalls w.tree) :=
  p.test_selection_runs hrun w .all

/-- What a test run leaves in the trace. -/
theorem test_adds {kind : Event → Prop} (hlog : ∀ entry, kind (.logged entry))
    (hcalled : ∀ call, kind (.called call)) : (p.test .all).Adds kind := by
  have hcall : (p.testCall .all).Adds kind := by
    unfold testCall
    refine (Step.adds_ofExcept (.ok p.settings.test.files)).bind fun patterns => ?_
    refine (p.expand_adds hlog patterns).bind fun files => ?_
    cases files.isEmpty with
    | true => exact (Step.adds_log hlog _ _ _ _).bind fun _ => Step.adds_ofExcept (.ok _)
    | false => exact Step.adds_ofExcept (.ok _)
  rw [test, hrun]
  exact (hcall.bind fun call => runChecked_adds hlog hcalled call).inSpan

end

end Pipeline

end BuildGate
