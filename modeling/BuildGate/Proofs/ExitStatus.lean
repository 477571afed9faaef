import BuildGate.Proofs.HostCodes

/-!
# The status of a run

A command is carried out by stages, log entries and lines for the user, so it fails only with a status
that the system hands on, if the runner reports no others. Hence the status of a run tells whether its
command succeeded, also after the system has kept no more than eight bits of it.

**Results.**
* `Gate.Context.carryOut_exits`: every command, from its parts.
* `Gate.exit_status`: what the status of a run tells.
-/
namespace BuildGate.Gate

open Step (exits_pure exits_emit exits_log exits_ofExcept)

variable {laid : List Answer → Prop}

namespace Context

theorem print_exits (lines : List String) : (print lines).Exits laid :=
  Step.exits_forM fun l => exits_emit (.printed l)

variable (c : Context)

theorem confirm_exits (what : String) : (c.confirm what).Exits laid := by
  unfold confirm
  split
  · exact exits_pure ()
  · exact print_exits _

theorem reporting_exits {α : Type} {x : Step α} (h : x.Exits laid) :
    (c.reporting x).Exits laid := by
  refine h.attempt_bind fun r hr => ?_
  cases c.json with
  | true =>
    refine Step.Exits.bind ⟨fun _ hw => hw, fun _ _ _ he => by cases he⟩ fun found => ?_
    exact (print_exits _).bind fun _ => exits_ofExcept hr
  | false => exact exits_ofExcept hr

/-- A command that carries out one step and confirms it. -/
theorem asCommand_exits {α : Type} {x : Step α} (h : x.Exits laid) (s : LogSource) (name : String)
    (span : List LogField) (level : LogLevel) (message : String) (fields : List LogField)
    (what : α → String) :
    (asCommand s name span do
      Step.log level s message fields
      let a ← x
      c.confirm (what a)).Exits laid :=
  ((h.bind fun a => c.confirm_exits (what a)).after_log level s message fields).inSpan _

theorem rules_exits : c.rules.Exits laid :=
  ((Pipeline.registry_exits _).bind fun _ => (print_exits _).after_log _ _ _ _).inSpan _

section
variable {c} (h : c.run.InRange laid)
include h

theorem coverage_exits (asked : Option String) (a : Afterwards) (o : TestOptions) :
    (c.coverage asked a o).Exits laid := by
  unfold coverage asCommand
  refine Step.Exits.inSpan (Step.Exits.after_log ?_ _ _ _ _) _
  refine (Pipeline.coverage_exits h _).bind fun _ => ?_
  cases a with
  | upload => exact (Pipeline.upload_exits h).bind fun _ => c.confirm_exits _
  | «open» => exact Pipeline.open_exits h _ _
  | nothing => exact c.confirm_exits _

/-- Every command fails with a status that a system hands on, if it fails. -/
theorem carryOut_exits (command : Command) : (c.carryOut command).Exits laid := by
  cases command with
  | lint => exact c.asCommand_exits (Pipeline.lint_exits h) ..
  | scan files mode =>
    exact c.asCommand_exits (c.reporting_exits (Pipeline.styleScan_exits _ files)) ..
  | checkStyle => exact c.asCommand_exits (c.reporting_exits (Pipeline.checkStyle_exits h)) ..
  | test o => exact c.asCommand_exits (Pipeline.test_exits h .all) ..
  | testModule name o => exact c.asCommand_exits (Pipeline.test_exits h (.module name)) ..
  | coverage asked a o => exact coverage_exits h asked a o
  | «show» file => exact ((Pipeline.open_exits h file c.viewer).after_log _ _ _ _).inSpan _
  | all o => exact c.asCommand_exits (c.reporting_exits (Pipeline.defaultRun_exits h)) ..
  | rules => exact c.rules_exits
  | info => exact ((print_exits _).after_log _ _ _ _).inSpan _

end

end Context

section
variable {runner : Runner} {s : Start} {c : CommandLine} {t : FileTree} {ready : Ready}

theorem run_of_prepare (h : prepare runner s c = (t, .ok ready)) : ready.context.run = runner := by
  unfold prepare at h
  dsimp only at h
  split at h
  · cases h
  · split at h
    · cases h
    · split at h
      · cases h
      · cases h
        rfl

/-- A run that cannot be set up has no status of success. -/
theorem runCommand_fault {f : SetupFault} (h : prepare runner s c = (t, .error f)) (command : Command) :
    (runCommand runner s c command).status ≠ 0 := by
  have hstatus : f.status ≠ 0 := by
    unfold SetupFault.status
    split <;> decide
  unfold runCommand
  rw [h]
  exact hstatus

/-- The status of a run that is set up is that of its command. -/
theorem runCommand_status (h : prepare runner s c = (t, .ok ready)) (command : Command) :
    (runCommand runner s c command).status =
      statusOf (mainStep c ready.context command { tree := ready.tree }).1 := by
  unfold runCommand
  rw [h]
  rfl

/-- A command that is begun fails with a status that the system hands on. -/
theorem exits_of_mainStep (hrun : runner.InRange laid) (h : prepare runner s c = (t, .ok ready))
    {command : Command} {e : Failure}
    (he : (mainStep c ready.context command { tree := ready.tree }).1 = .error e) : e.Exits := by
  rw [← run_of_prepare h] at hrun
  have hmain : (mainStep c ready.context command).Exits laid :=
    (Context.carryOut_exits hrun command).after_log _ _ _ _
  exact hmain.failure _ e hrun.none he

end

/-- The system hands on the whole status of such a failure. -/
theorem statusOf_error {e : Failure} (h : e.Exits) : statusOf (.error e) = e.exitCode := by
  obtain ⟨hlow, hhigh⟩ := h
  rw [statusOf]
  omega

theorem statusOf_eq_zero {r : Except Failure Unit} (h : ∀ e, r = .error e → e.Exits) :
    statusOf r = 0 ↔ r = .ok () := by
  refine statusOf_eq_zero_iff fun e he => ?_
  obtain ⟨hlow, hhigh⟩ := h e he
  omega

/-- What the status of a run tells. `Failure.exitCode` is never 0: it is the code that the failure
`LeadsTo` if that is another than 0, and else 1; that of a list of failures is that of the first
one, so `checkStyle` forwards the code of the linter even if the scan fails too. `Host.runner` is
`InRange`, and with every runner that is a command has the status 0 exactly if it succeeds; the
`status` of a whole run is 0 exactly if it is set up and its command succeeds, and what the system
keeps of the status of a failure is all of it. -/
theorem exit_status :
    (∀ f : Failure, f.exitCode ≠ 0 ∧
      (∀ code, code ≠ 0 → f.LeadsTo (some code) → f.exitCode = code) ∧
      ((∀ code, f.LeadsTo (some code) → code = 0) → f.exitCode = 1)) ∧
    (∀ f rest, (Failure.combine (f :: rest)).map Failure.exitCode = some f.exitCode) ∧
    (∀ (p : Pipeline) (w : World) (l : Failure), (p.lint w).1 = .error l →
      ∃ e, (p.checkStyle w).1 = .error e ∧ e.exitCode = l.exitCode) ∧
    (∀ env, (Host.runner env).InRange fun _ => True) ∧
    ∀ (runner : Runner) (laid : List Answer → Prop), runner.InRange laid →
      (∀ (context : Context) (command : Command) (w : World), context.run = runner →
        laid w.answers →
        (statusOf (context.carryOut command w).1 = 0 ↔ (context.carryOut command w).1 = .ok ())) ∧
      ∀ (s : Start) (c : CommandLine) (command : Command),
        let status := (runCommand runner s c command).status
        (status = 0 ↔ ∃ t ready, prepare runner s c = (t, .ok ready) ∧
          (mainStep c ready.context command { tree := ready.tree }).1 = .ok ()) ∧
        ∀ t ready e, prepare runner s c = (t, .ok ready) →
          (mainStep c ready.context command { tree := ready.tree }).1 = .error e →
          status = e.exitCode := by
  refine ⟨fun f => ⟨f.exitCode_ne_zero, fun code hne h => h.exitCode hne, fun h => ?_⟩,
    Failure.exitCode_combine, fun p w l h => p.checkStyle_forwards h, Host.runner_inRange,
    fun runner laid hrun => ⟨fun context command w hcontext hw => ?_,
      fun s c command => ⟨?_, fun t ready e h he => ?_⟩⟩⟩
  · rcases f.exitCode_eq_or with hone | ⟨code, hne, hleads, -⟩
    · exact hone
    · exact absurd (h code hleads) hne
  · rw [← hcontext] at hrun
    exact statusOf_eq_zero fun e he => (Context.carryOut_exits hrun command).failure w e hw he
  · have hzero : ∀ {t ready}, prepare runner s c = (t, .ok ready) →
        ((runCommand runner s c command).status = 0 ↔
          (mainStep c ready.context command { tree := ready.tree }).1 = .ok ()) := by
      intro t ready h
      rw [runCommand_status h]
      exact statusOf_eq_zero fun e he => exits_of_mainStep hrun h he
    constructor
    · intro hstatus
      rcases hprepare : prepare runner s c with ⟨t, f | ready⟩
      · exact absurd hstatus (runCommand_fault hprepare command)
      · exact ⟨t, ready, rfl, (hzero hprepare).1 hstatus⟩
    · rintro ⟨t, ready, h, hok⟩
      exact (hzero h).2 hok
  · rw [runCommand_status h, he]
    exact statusOf_error (exits_of_mainStep hrun h he)

/-- A run in an empty file system begins at its root. -/
theorem prepare_root (runner : Runner) :
    ∃ ready, prepare runner {} {} = ({}, .ok ready) ∧ ready.tree = {} ∧
      ready.context = { setup := ⟨{}, {}, "/"⟩, run := runner } := by
  unfold prepare
  dsimp only
  rw [load_empty]
  exact ⟨_, rfl, rfl, rfl⟩

/-- A call that is reported to end with another code than 0 fails with it. -/
theorem runChecked_reported {run : Runner} {call : Invocation} {code : Int}
    (h : run call = pure (some code)) (hne : code ≠ 0) (w : World) :
    (runChecked run call).Runs w (.error (.toolFailed call.program (some code))) [] [] := by
  refine Step.Runs.after_log fun v _ => ?_
  rw [h]
  refine (Step.runs_ofExcept (.ok (some code)) v).bind_first ?_
  rw [if_neg fun hzero => hne (Option.some.inj hzero)]
  exact Step.Runs.after_log fun u _ => Step.runs_ofExcept (.error _) u

theorem test_reported {p : Pipeline} {code : Int} {w : World} {files : List String}
    (h : ∀ call, p.run call = pure (some code)) (hne : code ≠ 0)
    (hfiles : FileSet.filesOf w.tree p.root p.settings.test.files = .ok files) :
    (p.test .all).Runs w (.error (.toolFailed p.settings.test.program (some code))) [] [] := by
  unfold Pipeline.test Pipeline.inStage
  refine Step.Runs.inSpan ?_
  generalize hv : { w with spans := _ } = v
  have htree : v.tree = w.tree := by rw [← hv]
  have hcall := p.testCall_runs v
  rw [htree, hfiles] at hcall
  exact hcall.bind_first (runChecked_reported (h _) hne _)

/-- Tests that are reported to end with another code than 0 fail their command with it. -/
theorem mainStep_reported {c : CommandLine} {context : Context} {o : TestOptions} {code : Int} {w : World}
    (h : ∀ call, context.run call = pure (some code)) (hne : code ≠ 0)
    (hfiles : (FileSet.filesOf w.tree context.root (o.apply context.settings).test.files).isOk = true) :
    ∃ tool, (mainStep c context (.test o) w).1 = .error (.toolFailed tool (some code)) := by
  suffices hruns : (mainStep c context (.test o)).Runs w
      (.error (.toolFailed (o.apply context.settings).test.program (some code))) [] [] from
    ⟨_, hruns.result⟩
  refine Step.Runs.after_log fun v hv => ?_
  unfold Context.carryOut Context.test Context.asCommand
  refine Step.Runs.inSpan (Step.Runs.after_log fun u hu => ?_)
  have htree : u.tree = w.tree := hu.tree.trans hv.tree
  rw [← htree] at hfiles
  cases hexpand : FileSet.filesOf u.tree context.root (o.apply context.settings).test.files with
  | error e =>
    rw [hexpand] at hfiles
    cases hfiles
  | ok files =>
    exact (test_reported h hne hexpand).bind_error _

/-- Tests that end with the code 3 give the run the status 3. -/
theorem exit_status_reported :
    let runner : Runner := fun _ => pure (some 3)
    runner.InRange (fun _ => True) ∧ (runCommand runner {} {} (.test {})).status = 3 := by
  intro runner
  have hrange : runner.InRange fun _ => True := by
    refine ⟨trivial, fun _ _ _ => trivial, fun call w code _ h => ?_, fun call w e code _ h => ?_⟩
    · cases h
      decide
    · cases h
  obtain ⟨ready, hready, htree, hcontext⟩ := prepare_root runner
  obtain ⟨tool, hmain⟩ : ∃ tool, (mainStep {} ready.context (.test {}) { tree := ready.tree }).1 =
      .error (.toolFailed tool (some 3)) := by
    refine mainStep_reported (fun call => by rw [hcontext]) (by decide) ?_
    rw [hcontext, htree]
    decide +kernel
  have hstatus := ((exit_status.2.2.2.2 runner _ hrange).2 {} {} (.test {})).2 _ ready _ hready hmain
  exact ⟨hrange, Int.ofNat.inj hstatus⟩

end BuildGate.Gate
