import BuildGate.Proofs.CustomRules
import BuildGate.Proofs.ExitStatus
import BuildGate.Proofs.GivenOptions
import BuildGate.Proofs.SightedSteps

/-!
# What is asked of the tests

A filter and a time limit for the tests can be asked for behind a verb, and a filter by a variable
too. All they do is to change two arguments of the test runner: the call is the one that the settings
make, with the time limit and the filter that are asked for in place of theirs. The variable has no say
in the settings, and no other stage has a part in what is asked.

**Results.**
* `prepare_without`, `runCommand_without`: a run without the variable.
* `Pipeline.sameStages`: the stages with other options for the tests.
* `oneCall_carryOut`: every command that runs the tests differs in one call.
* `asked_tests`: what options and variable come to.
-/
namespace BuildGate

open CommandLine (Asks Arguments VerbArguments assign grepVariable readArguments)
open Step (OneCall Determined determined_ofExcept)

/-! ## A run without the variable -/

namespace Gate

/-- `s` with the variable `name` taken out of `Start.env`. -/
def Start.without (s : Start) (name : String) : Start := { s with env := s.env.without name }

def Context.without (x : Context) (name : String) : Context :=
  { x with env := x.env.without name }

def Ready.without (r : Ready) (name : String) : Ready :=
  { r with context := r.context.without name }

theorem get?_without {name key : String} (h : key ≠ name) (env : Environment) :
    (env.without name).get? key = env.get? key :=
  Data.Entries.lookup_without h env.vars

theorem nonempty?_without {name key : String} (h : key ≠ name) (env : Environment) :
    (env.without name).nonempty? key = env.nonempty? key := by
  rw [Environment.nonempty?, get?_without h, Environment.nonempty?]

/-- The keys of the variable are not those of a setting. -/
theorem load_withoutGrep (r : Settings.Request) (t : FileTree) (env : Environment) :
    Settings.load r t (env.without grepVariable) = Settings.load r t env := by
  have hkeys : Settings.keysOf grepVariable = some ["test_grep"] := by decide +kernel
  refine Settings.load_without hkeys ?_ r t env
  simp [Settings.IsKey, Settings.settingsRecord, Settings.Part.value, Settings.Part.record]

variable {runner : Runner} {s : Start} {c : CommandLine}

/-- A run is set up as it is without the variable. -/
theorem prepare_without (runner : Runner) (s : Start) (c : CommandLine) :
    prepare runner (s.without grepVariable) c =
      ((prepare runner s c).1, (prepare runner s c).2.map (Ready.without · grepVariable)) := by
  have hplace : ∀ dir, Log.File.place? (s.env.without grepVariable) dir =
      Log.File.place? s.env dir := fun dir => by
    unfold Log.File.place?
    rw [nonempty?_without (by decide), nonempty?_without (by decide)]
  have hfilter : ∀ level, filterFor (s.env.without grepVariable) level = filterFor s.env level :=
    fun level => by
      unfold filterFor
      rw [get?_without (by decide)]
  have hcolor : Console.mayColor c.color (s.env.without grepVariable) =
      Console.mayColor c.color s.env := by
    unfold Console.mayColor Console.isForced
    rw [get?_without (by decide), get?_without (by decide)]
  unfold prepare Start.without
  dsimp only
  split
  · rfl
  next t _ =>
    rw [load_withoutGrep]
    split
    · rfl
    next settings sources _ =>
      rw [hplace, hfilter, hcolor]
      generalize (Log.File.place? s.env settings.logDir).elim (t, none) (Log.File.create t) = made
      obtain ⟨t', f | f⟩ := made <;> rfl

/-- No command looks at the variable. -/
theorem mainStep_without (c : CommandLine) (x : Context) (command : Command) :
    mainStep c (x.without grepVariable) command = mainStep c x command := by
  have hviewer : (x.without grepVariable).viewer = x.viewer := by
    unfold Context.viewer Context.without
    rw [get?_without (by decide)]
  have hcarry : (x.without grepVariable).carryOut command = x.carryOut command := by
    cases command with
    | coverage asked a o =>
      unfold Context.carryOut Context.coverage
      rw [hviewer]
      rfl
    | «show» file =>
      unfold Context.carryOut Context.show
      rw [hviewer]
      rfl
    | _ => rfl
  unfold mainStep
  rw [hcarry]
  rfl

/-- The arguments and the command are not looked at before it begins. -/
theorem prepare_command (runner : Runner) (s : Start) (c : CommandLine) (args : List String)
    (command : Option Command) :
    prepare runner { s with args } { c with command } = prepare runner s c := by
  unfold prepare
  dsimp only

/-- A whole run of a command is the same without the variable. -/
theorem runCommand_without (runner : Runner) (s : Start) (c : CommandLine) (command : Command) :
    runCommand runner (s.without grepVariable) c command = runCommand runner s c command := by
  have hpaints : Console.paintsLog (s.without grepVariable).env = Console.paintsLog s.env := by
    unfold Console.paintsLog
    rw [show (s.without grepVariable).env = s.env.without grepVariable from rfl,
      nonempty?_without (by decide)]
  unfold runCommand
  rw [prepare_without, hpaints]
  obtain ⟨t, f | ready⟩ := prepare runner s c
  · rfl
  · dsimp only [Except.map, Ready.without]
    rw [mainStep_without]
    rfl

end Gate

/-! ## The stages with other options -/

/-- The arguments of the test runner for `files`. `o.timeoutMs` and `o.grep` stand in for
`t.timeoutMs` and `t.grep` where they are given, and an empty `o.grep` asks for nothing. -/
def TestSettings.arguments (t : TestSettings) (o : TestOptions) (files : List String) : List String :=
  t.args ++ ["--timeout", toString (o.timeoutMs.getD t.timeoutMs)] ++
    (((o.grep.filter (· ≠ "")).or t.grep).elim [] fun g => ["--grep", g]) ++ t.setup ++ files

theorem TestOptions.coverage_apply (o : TestOptions) (s : Settings) :
    (o.apply s).coverage = s.coverage := rfl

namespace Pipeline

/-- `p` with the settings that `o.apply` makes. -/
def asking (p : Pipeline) (o : TestOptions) : Pipeline := { p with settings := o.apply p.settings }

/-- The call of the test runner for `files` when `o` is asked of it. -/
def testsCall (p : Pipeline) (o : TestOptions) (files : List String) : Invocation :=
  { program := p.settings.test.program
    args := p.settings.test.arguments o files
    workingDir := some p.root }

variable (p : Pipeline) (o : TestOptions)

theorem runnerCall_asking (files : List String) : (p.asking o).runnerCall files = p.testsCall o files := by
  obtain ⟨grep, timeoutMs⟩ := o
  have hgrep : (if grep.getD "" = "" then p.settings.test.grep else grep) =
      (grep.filter (· ≠ "")).or p.settings.test.grep := by
    cases grep with
    | none => rfl
    | some g =>
      by_cases hg : g = ""
      · simp [hg, Option.filter]
      · simp [hg, Option.filter]
  unfold runnerCall testsCall TestSettings.arguments asking TestOptions.apply
  dsimp only
  rw [hgrep]
  cases (grep.filter (· ≠ "")).or p.settings.test.grep <;> rfl

/-- The stages of `p.asking o` beside those of `p`. Only `test` and `coverage` see `o`, in the
arguments of one call. -/
structure SameStages : Prop where
  /-- The settings alone make the call in which nothing is asked. -/
  alone : ∀ files, p.runnerCall files = p.testsCall {} files
  /-- Nothing but the tests is asked for anything. -/
  lint : (p.asking o).lint = p.lint
  styleScan : (p.asking o).styleScan = p.styleScan
  checkStyle : (p.asking o).checkStyle = p.checkStyle
  clean : (p.asking o).clean = p.clean
  upload : (p.asking o).upload = p.upload
  view : (p.asking o).open = p.open
  /-- The same files are found, -/
  testFiles : (p.asking o).testFiles = p.testFiles
  /-- and the call of the tests is made with them. -/
  test : ∀ selection, (p.asking o).test selection =
    inStage "test" .test [("selection", selection.display)] do
      let files ← p.testFiles selection
      runChecked p.run (p.testsCall o files)
  coverage : ∀ report, (p.asking o).coverage report =
    inStage "coverage" .coverage [] do
      p.clean
      let files ← p.testFiles .all
      runChecked p.run (p.coverageCall report (p.testsCall o files))

theorem sameStages : SameStages p o where
  alone files := p.runnerCall_asking {} files
  lint := rfl
  styleScan := rfl
  checkStyle := rfl
  clean := rfl
  upload := rfl
  view := rfl
  testFiles := rfl
  test selection := by
    have hcall := (p.asking o).testCall_eq selection
    simp only [runnerCall_asking] at hcall
    unfold test
    rw [hcall, bind_assoc]
    rfl
  coverage report := by
    have hcall := (p.asking o).testCall_eq .all
    simp only [runnerCall_asking] at hcall
    unfold coverage
    rw [hcall]
    simp only [bind_assoc, pure_bind]
    rfl

section
variable {p} (hrun : p.run = Runner.scripted)
include hrun

theorem oneCall_test (selection : TestSelection) :
    OneCall (fun o => (p.asking o).test selection) p.testsCall := by
  simp only [(p.sameStages _).test, hrun]
  exact OneCall.inSpan ((p.testFiles_determined selection).oneCall
    (oneCall_runChecked p.settings.test.program fun _ _ => rfl)) _

theorem oneCall_coverage (report : Option String) :
    OneCall (fun o => (p.asking o).coverage report)
      (fun o files => p.coverageCall report (p.testsCall o files)) := by
  simp only [(p.sameStages _).coverage, hrun]
  exact OneCall.inSpan (p.clean_determined.oneCall fun _ => (p.testFiles_determined .all).oneCall
    (oneCall_runChecked p.settings.coverage.program fun _ _ => rfl)) _

theorem oneCall_defaultRun : OneCall (fun o => (p.asking o).defaultRun) p.testsCall :=
  (checkStyle_determined hrun).oneCall fun _ => oneCall_test hrun .all

end

end Pipeline

/-! ## The commands -/

namespace Gate.Context

variable (x : Context)

theorem print_shows (lines : List String) (w : World) :
    (print lines).Shows w (.ok ()) w.sight [] lines where
  result := by rw [print_run]
  sight := by
    have hnone : (lines.map Event.printed).filterMap Event.finding? = [] := by
      rw [List.filterMap_map]
      exact List.filterMap_eq_nil_iff.2 fun _ _ => rfl
    rw [print_run, World.sight, World.reported, List.filterMap_append, hnone, List.append_nil]
    rfl
  calls := by
    have hnone : (lines.map Event.printed).filterMap Event.call? = [] := by
      rw [List.filterMap_map]
      exact List.filterMap_eq_nil_iff.2 fun _ _ => rfl
    rw [print_run, World.calls, List.filterMap_append, hnone]
    rfl
  printed := printed_print lines w

theorem confirm_determined (what : String) : (x.confirm what).Determined := by
  unfold confirm
  split
  · exact determined_ofExcept (.ok ())
  · exact fun s => ⟨.ok (), s, [], _, fun w hw => hw ▸ print_shows _ w⟩

/-- What is told of the findings `fs` when a step has ended. -/
def told (fs : List Finding) : List String :=
  if x.json then [Data.Json.pretty (reportData (fs.map Finding.violation))] else []

theorem reporting_shows {step : Step Unit} {w : World} {r : Except Failure Unit} {s : World.Sight}
    {cs : List Invocation} {ps : List String} (h : step.Shows w r s cs ps) :
    (x.reporting step).Shows w r s cs (ps ++ x.told s.reported) := by
  have hreported : (step w).2.reported = s.reported := congrArg World.Sight.reported h.sight
  have hrun : x.reporting step w = ((step w).1, (print (x.told s.reported) (step w).2).2) := by
    rw [reporting_run, hreported, print_run, told]
    cases x.json with
    | true => rfl
    | false => simp only [Bool.false_eq_true, ↓reduceIte, List.map_nil, List.append_nil]
  have hprint := print_shows (x.told s.reported) (step w).2
  refine ⟨by rw [hrun, h.result], by rw [hrun, hprint.sight, h.sight], ?_, ?_⟩
  · rw [hrun, hprint.calls, h.calls, List.append_nil]
  · rw [hrun, hprint.printed, h.printed, List.append_assoc]

theorem oneCall_reporting {ω : Type} {step : ω → Step Unit} {call : ω → List String → Invocation}
    (h : OneCall step call) : OneCall (fun o => x.reporting (step o)) call := by
  intro s
  obtain ⟨e, s', cs, ps, hend⟩ | ⟨r, s', before, files, after, ps, hcall⟩ := h s
  · exact .inl ⟨e, s', cs, _, fun o w hw => x.reporting_shows (hend o w hw)⟩
  · exact .inr ⟨r, s', before, files, after, _, fun o w hw => x.reporting_shows (hcall o w hw)⟩

/-- The call that `command` makes for the tests in `files` when `o` is asked of them. -/
def testsCall (command : Command) (o : TestOptions) (files : List String) : Invocation :=
  match command with
  | .coverage asked a _ =>
    (x.pipeline x.settings).coverageCall (some (reportFormat x.settings.coverage asked a))
      ((x.pipeline x.settings).testsCall o files)
  | _ => (x.pipeline x.settings).testsCall o files

theorem pipeline_apply (o : TestOptions) :
    x.pipeline (o.apply x.settings) = (x.pipeline x.settings).asking o := rfl

section
variable {x} (hrun : x.run = Runner.scripted)
include hrun

theorem oneCall_test : OneCall x.test (x.pipeline x.settings).testsCall := by
  unfold test asCommand
  simp only [pipeline_apply]
  refine OneCall.inSpan (OneCall.after_log ?_ _ _ _ _) _
  exact (Pipeline.oneCall_test hrun .all).bind_last (x.confirm_determined _)

theorem oneCall_testModule (name : String) :
    OneCall (x.testModule name) (x.pipeline x.settings).testsCall := by
  unfold testModule asCommand
  simp only [pipeline_apply]
  refine OneCall.inSpan (OneCall.after_log ?_ _ _ _ _) _
  exact (Pipeline.oneCall_test hrun (.module name)).bind_last (x.confirm_determined _)

theorem oneCall_all : OneCall x.all (x.pipeline x.settings).testsCall := by
  unfold all asCommand
  simp only [pipeline_apply]
  refine OneCall.inSpan (OneCall.after_log ?_ _ _ _ _) _
  exact (x.oneCall_reporting (Pipeline.oneCall_defaultRun hrun)).bind_last (x.confirm_determined _)

theorem oneCall_coverage (asked : Option String) (a : Afterwards) :
    OneCall (x.coverage asked a) fun o files =>
      (x.pipeline x.settings).coverageCall (some (reportFormat x.settings.coverage asked a))
        ((x.pipeline x.settings).testsCall o files) := by
  have hcoverage := Pipeline.oneCall_coverage (p := x.pipeline x.settings) hrun
    (some (reportFormat x.settings.coverage asked a))
  unfold coverage asCommand
  simp only [pipeline_apply, TestOptions.coverage_apply, (Pipeline.sameStages _ _).upload,
    (Pipeline.sameStages _ _).view]
  refine OneCall.inSpan (OneCall.after_log ?_ _ _ _ _) _
  cases a with
  | upload =>
    exact hcoverage.bind_last
      ((Pipeline.upload_determined hrun).bind fun _ => x.confirm_determined _)
  | «open» => exact hcoverage.bind_last (Pipeline.open_determined hrun _ _)
  | nothing => exact hcoverage.bind_last (x.confirm_determined _)

/-- Commands that run the tests differ in one call when something is asked of these. -/
theorem oneCall_carryOut {command : Command} (h : command.RunsTests) :
    OneCall (fun o => x.carryOut (command.asking o)) (x.testsCall command) := by
  cases command with
  | test => exact oneCall_test hrun
  | testModule name => exact oneCall_testModule hrun name
  | coverage asked a => exact oneCall_coverage hrun asked a
  | all => exact oneCall_all hrun
  | _ => exact h.elim

end

end Gate.Context

namespace Gate

/-! ## All of it -/

/-- What the arguments of `s`, read as `a` with `b` behind the verb, ask of the tests, and what
`grepVariable` adds to it. -/
structure AskedTests (s : Start) (a : Arguments) (b : VerbArguments) : Prop where
  /-- An option counts before the variable, also if it is empty. -/
  asks : Asks s.env b b.testOptions
  /-- The arguments make a command line with a command that takes what is asked. -/
  reads : CommandLine.read s.env s.args = .ok (a.commandLine.asking b.testOptions)
  command : ∀ o, (a.commandLine.asking o).command = some (b.command.asking o)
  /-- Without the variable the same arguments are read, and ask what the options ask; -/
  without : CommandLine.read (s.env.without grepVariable) s.args =
    .ok (a.commandLine.asking b.flags)
  /-- and each option that is not given can be given any value. -/
  grep : "--" ∉ s.args → b.given.lookup .grep = none → ∀ g,
    CommandLine.read s.env (s.args ++ [assign .grep g]) =
      .ok (a.commandLine.asking { b.testOptions with grep := some g })
  timeout : "--" ∉ s.args → b.given.lookup .timeout = none → ∀ n < Word.bound,
    CommandLine.read s.env (s.args ++ [assign .timeout (toString n)]) =
      .ok (a.commandLine.asking { b.testOptions with timeoutMs := some n })
  /-- The variable does nothing else: without it the same is set up, and done, and shown. -/
  unseen_setup : ∀ runner c, prepare runner (s.without grepVariable) c =
    ((prepare runner s c).1, (prepare runner s c).2.map (Ready.without · grepVariable))
  unseen_step : ∀ c x command,
    mainStep c (Context.without x grepVariable) command = mainStep c x command
  unseen_run : ∀ runner c command,
    runCommand runner (s.without grepVariable) c command = runCommand runner s c command
  /-- Whatever carries out the calls, no stage but the tests has a part in what is asked. -/
  stages : ∀ settings root run o, Pipeline.SameStages ⟨settings, root, run⟩ o
  /-- The same is set up, settings included, whatever is asked. -/
  setup : ∀ runner o, prepare runner s (a.commandLine.asking o) = prepare runner s a.commandLine
  /-- Then the command ends before the call for the tests, in the same way whatever is asked; or it
  makes this call, with the same files, and ends, reports, writes and calls all else in the same way. -/
  runs : ∀ t ready, prepare Runner.scripted s a.commandLine = (t, .ok ready) →
    OneCall (fun o => mainStep (a.commandLine.asking o) ready.context (b.command.asking o))
      (ready.context.testsCall b.command)

/-- `TestSettings` make the call for the tests, and `b.testOptions` take the place of their
`timeoutMs` and their `grep`. -/
theorem asked_tests (s : Start) {a : Arguments} {b : VerbArguments}
    (hread : readArguments s.env s.args = .ok a) (hb : a.verb = some b)
    (htests : .grep ∈ b.verb.own) : AskedTests s a b where
  asks := CommandLine.testOptions_of_read hread hb htests
  reads := by
    have hcommand : a.commandLine.command = some b.command := by
      rw [Arguments.commandLine, hb]
      rfl
    rw [CommandLine.read, hread, CommandLine.asking, hcommand, Option.map_some,
      CommandLine.asking_testOptions, ← hcommand]
    rfl
  command o := by
    rw [CommandLine.asking, Arguments.commandLine, hb]
    rfl
  without := CommandLine.read_without hread hb
  grep hargs hnew g := CommandLine.read_grep hread hb htests hargs hnew g
  timeout hargs hnew _ hn := CommandLine.read_timeout hread hb htests hargs hnew hn
  unseen_setup runner c := prepare_without runner s c
  unseen_step c x command := mainStep_without c x command
  unseen_run runner c command := runCommand_without runner s c command
  stages settings root run o := Pipeline.sameStages _ o
  setup runner o := prepare_command runner s a.commandLine s.args _
  runs t ready h := by
    have hrun : ready.context.run = Runner.scripted := run_of_prepare h
    unfold mainStep
    refine OneCall.after_log ?_ _ _ _ _
    exact Context.oneCall_carryOut hrun (CommandLine.runsTests_command htests)

/-- A filter from the variable and a time limit from an option are in the call that a project without
settings makes. -/
theorem asked_tests_login :
    let s : Start :=
      { args := ["test", "--timeout=1000"], env := { vars := [(grepVariable, "login")] } }
    let b : VerbArguments :=
      ⟨.test, [(.timeout, .number 1000)], [(.grep, .text "login")], []⟩
    let a : Arguments := ⟨[], some b⟩
    readArguments s.env s.args = .ok a ∧ .grep ∈ b.verb.own ∧ AskedTests s a b ∧
      ∃ ready, prepare Runner.scripted s a.commandLine = ({}, .ok ready) ∧
        (ready.context.testsCall b.command b.testOptions ["a.js"]).args =
          ["--reporter", "spec", "--slow", "500", "--timeout", "1000", "--grep", "login",
            "node_modules/gh-tests/runner/beforeTests.js", "a.js"] := by
  intro s b a
  have hread : readArguments s.env s.args = .ok a := by rfl
  have hasked : AskedTests s a b := asked_tests s hread rfl (by decide)
  refine ⟨hread, by decide, hasked, ?_⟩
  obtain ⟨ready, hready, -, hcontext⟩ := prepare_root Runner.scripted
  have hplain : prepare Runner.scripted (s.without grepVariable) a.commandLine = ({}, .ok ready) :=
    (prepare_command Runner.scripted {} {} s.args a.commandLine.command).trans hready
  have hsame := (hasked.unseen_setup Runner.scripted a.commandLine).symm.trans hplain
  rcases hprepare : prepare Runner.scripted s a.commandLine with ⟨t, f | r⟩
  · rw [hprepare] at hsame
    cases hsame
  · rw [hprepare] at hsame
    obtain ⟨rfl, hr⟩ := Prod.mk.inj hsame
    have hsettings : r.context.settings = {} := by
      rw [← Except.ok.inj hr] at hcontext
      exact congrArg Context.settings hcontext
    refine ⟨r, rfl, ?_⟩
    change r.context.settings.test.arguments b.testOptions ["a.js"] = _
    rw [hsettings]
    decide +kernel

end Gate

end BuildGate
