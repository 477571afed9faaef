import BuildGate.Proofs.CoverageRun
import BuildGate.Proofs.ScanOutput

/-!
# What steps go by

A step goes by the files, the answers to come and what was reported before; the log and the calls that
were made have no say in what it does. So from worlds that look the same it ends in the same way, makes
the same calls and writes the same lines. Of a family of steps that differ in one call the same holds
but for this call, if its answers are laid down.

**Results.**
* `Shows.bind_ok`, `Shows.bind_error`: runs one after the other.
* `Determined.bind`: steps that go by nothing else.
* `OneCall.bind_last`, `Determined.oneCall`: what is done behind and before the call.
* `Pipeline.checkStyle_determined`, `Pipeline.clean_determined`: the stages.
-/
namespace BuildGate

namespace World

/-- What a step can go by: the files, the answers to come, and what has been reported. -/
structure Sight where
  tree : FileTree
  answers : List Answer
  reported : List Finding

def sight (w : World) : Sight := ⟨w.tree, w.answers, w.reported⟩

end World

open World (Sight)

namespace Step

variable {α β : Type}

/-- From `w` the step `x` ends in `r`, the sight then is `s`, and the calls `cs` and the lines `ps`
are added. -/
structure Shows (x : Step α) (w : World) (r : Except Failure α) (s : Sight) (cs : List Invocation)
    (ps : List String) : Prop where
  result : (x w).1 = r
  sight : (x w).2.sight = s
  calls : (x w).2.calls = w.calls ++ cs
  printed : (x w).2.printed = w.printed ++ ps

section
variable {x : Step α} {f : α → Step β} {w : World} {s s' : Sight} {cs ds : List Invocation}
  {ps qs : List String}

theorem Runs.shows {r : Except Failure α} {fs : List Finding} (h : x.Runs w r fs cs)
    (hquiet : x.Adds Event.IsQuiet) :
    x.Shows w r ⟨w.tree, w.answers.drop cs.length, w.reported ++ fs⟩ cs [] where
  result := h.result
  sight := by rw [World.sight, h.leaves.tree, h.leaves.answers, h.leaves.reported]
  calls := h.leaves.calls
  printed := by rw [hquiet.printed, List.append_nil]

namespace Shows

theorem bind_ok {a : α} {r : Except Failure β} (h : x.Shows w (.ok a) s cs ps)
    (h' : (f a).Shows (x w).2 r s' ds qs) : (x >>= f).Shows w r s' (cs ++ ds) (ps ++ qs) := by
  have hrun : (x >>= f) w = f a (x w).2 := Step.bind_ok (Prod.ext h.result rfl) f
  refine ⟨by rw [hrun, h'.result], by rw [hrun, h'.sight], ?_, ?_⟩
  · rw [hrun, h'.calls, h.calls, List.append_assoc]
  · rw [hrun, h'.printed, h.printed, List.append_assoc]

theorem bind_error {e : Failure} (h : x.Shows w (.error e) s cs ps) (f : α → Step β) :
    (x >>= f).Shows w (.error e) s cs ps := by
  have hrun : (x >>= f) w = (.error e, (x w).2) := Step.bind_error (Prod.ext h.result rfl) f
  exact ⟨by rw [hrun], by rw [hrun, h.sight], by rw [hrun, h.calls], by rw [hrun, h.printed]⟩

theorem attempt {r : Except Failure α} (h : x.Shows w r s cs ps) :
    (Step.attempt x).Shows w (.ok r) s cs ps :=
  ⟨congrArg Except.ok h.result, h.sight, h.calls, h.printed⟩

theorem inSpan {span : LogSpan} {r : Except Failure α}
    (h : x.Shows { w with spans := w.spans ++ [span] } r s cs ps) :
    (Step.inSpan span x).Shows w r s cs ps :=
  ⟨h.result, h.sight, h.calls, h.printed⟩

end Shows

theorem shows_ofExcept (r : Except Failure α) (w : World) : (ofExcept r).Shows w r w.sight [] [] := by
  have hshows := (runs_ofExcept r w).shows (adds_ofExcept r)
  rwa [List.append_nil] at hshows

theorem shows_log (level : LogLevel) (source : LogSource) (message : String) (fields : List LogField)
    (w : World) : (log level source message fields).Shows w (.ok ()) w.sight [] [] := by
  have hshows := (runs_log level source message fields w).shows (adds_log (fun _ => trivial) _ _ _ _)
  rwa [List.append_nil] at hshows

end

/-! ## Steps that go by nothing else -/

/-- From all worlds with one sight `x` does the same. -/
def Determined (x : Step α) : Prop :=
  ∀ s : Sight, ∃ r s' cs ps, ∀ w : World, w.sight = s → x.Shows w r s' cs ps

section
variable {x : Step α} {f : α → Step β}

theorem determined_ofExcept (r : Except Failure α) : (ofExcept r).Determined :=
  fun s => ⟨r, s, [], [], fun w hw => hw ▸ shows_ofExcept r w⟩

theorem determined_log (level : LogLevel) (source : LogSource) (message : String)
    (fields : List LogField) : (log level source message fields).Determined :=
  fun s => ⟨.ok (), s, [], [], fun w hw => hw ▸ shows_log level source message fields w⟩

theorem determined_tree : tree.Determined := by
  refine fun s => ⟨.ok s.tree, s, [], [], ?_⟩
  rintro w rfl
  exact ⟨rfl, rfl, (List.append_nil _).symm, (List.append_nil _).symm⟩

theorem Determined.bind (h : x.Determined) (h' : ∀ a, (f a).Determined) : (x >>= f).Determined := by
  intro s
  obtain ⟨r, s', cs, ps, hx⟩ := h s
  cases r with
  | error e => exact ⟨.error e, s', cs, ps, fun w hw => (hx w hw).bind_error f⟩
  | ok a =>
    obtain ⟨r, s'', ds, qs, hf⟩ := h' a s'
    exact ⟨r, s'', cs ++ ds, ps ++ qs, fun w hw => (hx w hw).bind_ok (hf _ (hx w hw).sight)⟩

theorem Determined.attempt (h : x.Determined) : (Step.attempt x).Determined := by
  intro s
  obtain ⟨r, s', cs, ps, hx⟩ := h s
  exact ⟨.ok r, s', cs, ps, fun w hw => (hx w hw).attempt⟩

theorem Determined.inSpan {span : LogSpan} (h : x.Determined) : (Step.inSpan span x).Determined := by
  intro s
  obtain ⟨r, s', cs, ps, hx⟩ := h s
  exact ⟨r, s', cs, ps, fun w hw => (hx { w with spans := w.spans ++ [span] } hw).inSpan⟩

/-- How runs end and what they leave may depend on the files and the answers. -/
theorem determined_of_runs (hquiet : x.Adds Event.IsQuiet)
    (h : ∀ s : Sight, ∃ r fs cs, ∀ w : World, w.sight = s → x.Runs w r fs cs) : x.Determined := by
  intro s
  obtain ⟨r, fs, cs, hx⟩ := h s
  refine ⟨r, ⟨s.tree, s.answers.drop cs.length, s.reported ++ fs⟩, cs, [], fun w hw => ?_⟩
  obtain rfl := hw
  exact (hx w rfl).shows hquiet

end

/-! ## Steps that differ in one call -/

/-- Steps, one for each `o` that may be asked, that look the same but for one call: they all end
before it in the same way, or come to `call o files` with the same `files` and do the same before
and behind it. -/
def OneCall {ω : Type} (step : ω → Step Unit) (call : ω → List String → Invocation) : Prop :=
  ∀ s : Sight,
    (∃ e s' cs ps, ∀ o, ∀ w : World, w.sight = s → (step o).Shows w (.error e) s' cs ps) ∨
    ∃ r s' before files after ps, ∀ o, ∀ w : World, w.sight = s →
      (step o).Shows w r s' (before ++ call o files :: after) ps

section
variable {ω : Type} {step : ω → Step Unit} {call : ω → List String → Invocation}

theorem OneCall.inSpan (h : OneCall step call) (span : LogSpan) :
    OneCall (fun o => Step.inSpan span (step o)) call := by
  intro s
  obtain ⟨e, s', cs, ps, hend⟩ | ⟨r, s', before, files, after, ps, hcall⟩ := h s
  · exact .inl ⟨e, s', cs, ps, fun o w hw =>
      (hend o { w with spans := w.spans ++ [span] } hw).inSpan⟩
  · exact .inr ⟨r, s', before, files, after, ps, fun o w hw =>
      (hcall o { w with spans := w.spans ++ [span] } hw).inSpan⟩

/-- What is logged first may depend on what is asked. -/
theorem OneCall.after_log (h : OneCall step call) (level : LogLevel) (source : LogSource)
    (message : String) (fields : ω → List LogField) :
    OneCall (fun o => do log level source message (fields o); step o) call := by
  intro s
  have hlog : ∀ o (w : World), w.sight = s →
      (log level source message (fields o)).Shows w (.ok ()) s [] [] := fun o w hw =>
    hw ▸ shows_log level source message (fields o) w
  obtain ⟨e, s', cs, ps, hend⟩ | ⟨r, s', before, files, after, ps, hcall⟩ := h s
  · exact .inl ⟨e, s', cs, ps, fun o w hw => (hlog o w hw).bind_ok (hend o _ (hlog o w hw).sight)⟩
  · exact .inr ⟨r, s', before, files, after, ps, fun o w hw =>
      (hlog o w hw).bind_ok (hcall o _ (hlog o w hw).sight)⟩

/-- What is done behind the call does not depend on what is asked. -/
theorem OneCall.bind_last (h : OneCall step call) {next : Step Unit} (hnext : next.Determined) :
    OneCall (fun o => do step o; next) call := by
  intro s
  obtain ⟨e, s', cs, ps, hend⟩ | ⟨r, s', before, files, after, ps, hcall⟩ := h s
  · exact .inl ⟨e, s', cs, ps, fun o w hw => (hend o w hw).bind_error _⟩
  · cases r with
    | error e =>
      exact .inr ⟨.error e, s', before, files, after, ps, fun o w hw => (hcall o w hw).bind_error _⟩
    | ok u =>
      obtain ⟨r, s'', ds, qs, hlast⟩ := hnext s'
      refine .inr ⟨r, s'', before, files, after ++ ds, ps ++ qs, fun o w hw => ?_⟩
      have hboth := (hcall o w hw).bind_ok (f := fun _ => next) (hlast _ (hcall o w hw).sight)
      rwa [List.append_assoc] at hboth

/-- What is done before the call does not depend on what is asked either. -/
theorem Determined.oneCall {x : Step α} {f : ω → α → Step Unit} (h : x.Determined)
    (h' : ∀ a, OneCall (fun o => f o a) call) : OneCall (fun o => x >>= f o) call := by
  intro s
  obtain ⟨r, s', cs, ps, hx⟩ := h s
  cases r with
  | error e => exact .inl ⟨e, s', cs, ps, fun o w hw => (hx w hw).bind_error _⟩
  | ok a =>
    obtain ⟨e, s'', ds, qs, hend⟩ | ⟨r, s'', before, files, after, qs, hcall⟩ := h' a s'
    · exact .inl ⟨e, s'', cs ++ ds, ps ++ qs, fun o w hw =>
        (hx w hw).bind_ok (hend o _ (hx w hw).sight)⟩
    · refine .inr ⟨r, s'', cs ++ before, files, after, ps ++ qs, fun o w hw => ?_⟩
      have hboth := (hx w hw).bind_ok (hcall o _ (hx w hw).sight)
      rwa [← List.append_assoc] at hboth

end

end Step

open Step

/-! ## Calls and stages -/

theorem runChecked_shows (call : Invocation) (w : World) :
    (runChecked Runner.scripted call).Shows w (w.nextAnswer.verdict call)
      ⟨w.tree, w.answers.drop 1, w.reported⟩ [call] [] := by
  have hshows := (runChecked_runs call w).shows
    (runChecked_adds (fun _ => trivial) (fun _ => trivial) call)
  rwa [List.append_nil] at hshows

/-- A call whose answer is laid down depends on what is asked only in itself. -/
theorem oneCall_runChecked {ω : Type} {call : ω → List String → Invocation} (program : String)
    (h : ∀ o files, (call o files).program = program) (files : List String) :
    OneCall (fun o => runChecked Runner.scripted (call o files)) call := by
  intro s
  refine .inr ⟨(s.answers.headD (.exited (some 0))).verdict { program },
    ⟨s.tree, s.answers.drop 1, s.reported⟩, [], files, [], [], fun o w hw => ?_⟩
  obtain rfl := hw
  have hshows := runChecked_shows (call o files) w
  have hverdict : ∀ a : Answer, a.verdict (call o files) = a.verdict { program } := fun a => by
    cases a <;> simp only [Answer.verdict, h]
  rwa [hverdict] at hshows

theorem determined_runChecked (call : Invocation) : (runChecked Runner.scripted call).Determined := by
  refine fun s => ⟨(s.answers.headD (.exited (some 0))).verdict call,
    ⟨s.tree, s.answers.drop 1, s.reported⟩, [call], [], fun w hw => ?_⟩
  obtain rfl := hw
  exact runChecked_shows call w

namespace Pipeline

variable (p : Pipeline)

theorem expand_determined (patterns : List String) : (p.expand patterns).Determined :=
  determined_of_runs (p.expand_adds (fun _ => trivial) patterns) fun s =>
    ⟨FileSet.filesOf s.tree p.root patterns, [], [], by rintro w rfl; exact p.expand_runs patterns w⟩

theorem styleScan_determined (files : List String) : (p.styleScan files).Determined := by
  refine determined_of_runs (styleScan_adds (fun _ => trivial) (fun _ => trivial) p files) fun s => ?_
  obtain ⟨r, fs, hend⟩ := p.exists_scanEnd s.tree files
  exact ⟨r, fs, [], by rintro w rfl; exact hend.runs rfl⟩

theorem clean_determined : p.clean.Determined := by
  have hcanonical : ∀ (t : FileTree) (path : String),
      (Step.ofExcept ((t.canonical path).mapError (Failure.io path))).Determined :=
    fun _ _ => determined_ofExcept _
  unfold clean
  refine determined_tree.bind fun t => ?_
  split
  · refine (hcanonical t _).bind fun root => (hcanonical t _).bind fun target => ?_
    have hremove : (do
        Step.log .info .pipeline "removing coverage output" [("dir", target)]
        let t' ← Step.ofExcept ((t.removeDirAll target).mapError (Failure.io target))
        Step.update fun w => { w with tree := t' } : Step Unit).Determined := by
      refine (determined_log _ _ _ _).bind fun _ => (determined_ofExcept _).bind fun t' => ?_
      refine fun s => ⟨.ok (), { s with tree := t' }, [], [], ?_⟩
      rintro w rfl
      exact ⟨rfl, rfl, (List.append_nil _).symm, (List.append_nil _).symm⟩
    split
    · exact (determined_log _ _ _ _).bind fun _ => (determined_ofExcept (.error _)).bind fun _ => hremove
    · exact hremove
  · exact determined_ofExcept (.ok ())

/-- The files of `selection`, as a step. -/
def testFiles (selection : TestSelection) : Step (List String) := do
  let files ← p.expand (← Step.ofExcept (p.testPatterns selection))
  if files.isEmpty then
    Step.log .warn .pipeline "no test files matched" [("selection", selection.display)]
  return files

theorem testFiles_determined (selection : TestSelection) : (p.testFiles selection).Determined := by
  unfold testFiles
  refine (determined_ofExcept _).bind fun patterns => (p.expand_determined _).bind fun files => ?_
  split
  · exact (determined_log _ _ _ _).bind fun _ => determined_ofExcept (.ok files)
  · exact determined_ofExcept (.ok files)

/-- The test runner is called with the files of the selection. -/
theorem testCall_eq (selection : TestSelection) :
    p.testCall selection = p.testFiles selection >>= fun files => pure (p.runnerCall files) := by
  unfold testCall testFiles
  simp only [bind_assoc]
  refine congrArg _ (funext fun patterns => congrArg _ (funext fun files => ?_))
  split
  · simp only [bind_assoc, pure_bind]
    rfl
  · simp only [pure_bind]
    rfl

section
variable {p} (hrun : p.run = Runner.scripted)
include hrun

theorem lint_determined : p.lint.Determined := by
  unfold lint inStage
  refine ((p.expand_determined _).bind fun files => ?_).inSpan
  split
  · exact determined_log _ _ _ _
  · rw [hrun]
    exact determined_runChecked _

theorem checkStyle_determined : p.checkStyle.Determined := by
  unfold checkStyle
  refine (lint_determined hrun).attempt.bind fun linted => ?_
  exact (p.styleScan_determined []).attempt.bind fun scanned => determined_ofExcept _

theorem upload_determined : p.upload.Determined := by
  unfold upload inStage
  rw [hrun]
  exact (determined_runChecked _).inSpan

theorem open_determined (file : String) (viewer : Option String) :
    (p.open file viewer).Determined := by
  unfold «open» inStage
  refine Determined.inSpan ?_
  cases viewer with
  | none => exact determined_log _ _ _ _
  | some program =>
    dsimp only
    rw [hrun]
    refine (determined_runChecked _).attempt.bind fun r => ?_
    cases r with
    | ok u => exact determined_ofExcept (.ok ())
    | error e => exact determined_log _ _ _ _

end

end Pipeline

end BuildGate
