import BuildGate.Proofs.StyleCheck
import BuildGate.Proofs.ToolRuns

/-!
# The style gate

A style scan ends in one of five ways, which the settings and the tree decide; no tool has a say in
it. So a style check, which lints first, scans the same whatever came of linting, and its failure is
made of those of its two parts. The default run goes on to the tests only when both parts passed.

**Results.**
* `ScanEnd`, `ScanEnd.runs`, `exists_scanEnd`: the ways in which a style scan ends, and that there are
  no others.
* `checkStyle_runs`: a style check is its two parts.
* `lintEnd_eq_ok_iff`, `ScanEnd.ok_iff`: when each of them passes.
* `style_gates_tests`: what a style check and the default run call, report and come to.
-/
namespace BuildGate

open World (Reports Leaves)
open StyleCheck

namespace Pipeline

variable (p : Pipeline)

/-! ## A style scan -/

/-- The files that a scan takes: `files`, or those of `style.files` if none are given. -/
def scanTargets (t : FileTree) (files : List String) : Except Failure (List String) :=
  if files.isEmpty then FileSet.filesOf t p.root p.settings.style.files else .ok files

/-- What there is to report in `files` if the rules of `g` apply. -/
def findingsIn (t : FileTree) (g : Registry) (files : List String) : List Finding :=
  allFindings t p.root g.rules p.settings.style.mode files

/-- The ends of a style scan of `files` in `t`, each with what leads to it and what has been
reported. -/
inductive ScanEnd (t : FileTree) (files : List String) :
    Except Failure StyleSummary → List Finding → Prop
  | badRule {e : Failure} (hg : Registry.withCustom p.settings.style.rules = .error e) :
    ScanEnd t files (.error e) []
  | badPattern {g : Registry} {e : Failure}
    (hg : Registry.withCustom p.settings.style.rules = .ok g)
    (ht : p.scanTargets t files = .error e) : ScanEnd t files (.error e) []
  | unreadable {g : Registry} {before after : List String} {file : String} {cause : IoFault}
    (hg : Registry.withCustom p.settings.style.rules = .ok g)
    (ht : p.scanTargets t files = .ok (before ++ file :: after))
    (hb : ∀ f ∈ before, Readable t p.root f)
    (hf : t.readText (Path.join p.root file) = .error cause) :
    ScanEnd t files (.error (.read (Path.join p.root file) cause)) (p.findingsIn t g before)
  | found {g : Registry} {targets : List String}
    (hg : Registry.withCustom p.settings.style.rules = .ok g)
    (ht : p.scanTargets t files = .ok targets) (hread : ∀ f ∈ targets, Readable t p.root f)
    (hsome : p.findingsIn t g targets ≠ []) :
    ScanEnd t files (.error (.styleViolations (p.findingsIn t g targets).length))
      (p.findingsIn t g targets)
  | clean {g : Registry} {targets : List String}
    (hg : Registry.withCustom p.settings.style.rules = .ok g)
    (ht : p.scanTargets t files = .ok targets) (hread : ∀ f ∈ targets, Readable t p.root f)
    (hnone : p.findingsIn t g targets = []) :
    ScanEnd t files (.ok (summary targets.length 0)) []

theorem registry_runs (rules : List RuleSource) (w : World) :
    (registry rules).Runs w (Registry.withCustom rules) [] [] := by
  unfold registry
  cases Registry.withCustom rules with
  | error e => exact (Step.runs_ofExcept (.error e) w).bind_error _
  | ok g =>
    refine (Step.runs_ofExcept (.ok g) w).bind_first ?_
    exact Step.Runs.after_log fun v _ => Step.runs_ofExcept (.ok g) v

/-- The part of a style scan that settles its files. -/
def chooseTargets (files : List String) : Step (List String) :=
  if files.isEmpty then p.expand p.settings.style.files else pure files

/-- The part of a style scan that is left when its rules and files are settled. -/
def scanChosen (g : Registry) (targets : List String) : Step StyleSummary := do
  if targets.isEmpty then Step.log .warn .pipeline "no files matched the style patterns"
  let summary ← scanFiles p.root targets g.rules p.settings.style.mode
  Step.log .info .pipeline "style scan finished"
    [("files", toString summary.files), ("violations", toString summary.violations),
      ("outcome", match summary.outcome with | .pass => "Pass" | .fail => "Fail")]
  Step.ofExcept summary.intoResult

theorem styleScan_eq (files : List String) : p.styleScan files =
    inStage "style_scan" .styleScan [] (do
      let g ← registry p.settings.style.rules
      let targets ← p.chooseTargets files
      p.scanChosen g targets) := by
  unfold styleScan chooseTargets
  cases files.isEmpty <;> rfl

theorem chooseTargets_runs (files : List String) (w : World) :
    (p.chooseTargets files).Runs w (p.scanTargets w.tree files) [] [] := by
  unfold chooseTargets scanTargets
  split
  · exact p.expand_runs _ w
  · exact Step.runs_ofExcept (.ok files) w

/-- Scanning chosen files comes to what scanning files comes to, with findings for a failure. -/
theorem scanChosen_runs {g : Registry} {targets : List String} {r : Except Failure StyleSummary}
    {fs : List Finding} {w : World}
    (h : ∀ v : World, v.tree = w.tree →
      (scanFiles p.root targets g.rules p.settings.style.mode).Runs v r fs []) :
    (p.scanChosen g targets).Runs w (r.bind StyleSummary.intoResult) fs [] := by
  have hrest : ∀ v : World, v.tree = w.tree →
      (do let summary ← scanFiles p.root targets g.rules p.settings.style.mode
          Step.log .info .pipeline "style scan finished"
            [("files", toString summary.files), ("violations", toString summary.violations),
              ("outcome", match summary.outcome with | .pass => "Pass" | .fail => "Fail")]
          Step.ofExcept summary.intoResult : Step StyleSummary).Runs v
        (r.bind StyleSummary.intoResult) fs [] := by
    intro v hv
    have hscan := h v hv
    cases r with
    | error e => exact hscan.bind_error _
    | ok summary =>
      exact hscan.bind_last (Step.Runs.after_log fun u _ =>
        Step.runs_ofExcept summary.intoResult u)
  unfold scanChosen
  cases targets.isEmpty with
  | true => exact Step.Runs.after_log fun v hlog => hrest v hlog.tree
  | false => exact hrest w rfl

/-- A scan ends where its rules or its patterns cannot be read, and else as scanning its files does. -/
theorem styleScan_cases {w : World} {files : List String} :
    (∀ e, Registry.withCustom p.settings.style.rules = .error e →
      (p.styleScan files).Runs w (.error e) [] []) ∧
    ∀ g, Registry.withCustom p.settings.style.rules = .ok g →
      (∀ e, p.scanTargets w.tree files = .error e → (p.styleScan files).Runs w (.error e) [] []) ∧
      ∀ targets r fs, p.scanTargets w.tree files = .ok targets →
        (∀ v : World, v.tree = w.tree →
          (scanFiles p.root targets g.rules p.settings.style.mode).Runs v r fs []) →
        (p.styleScan files).Runs w (r.bind StyleSummary.intoResult) fs [] := by
  rw [styleScan_eq, inStage]
  generalize hspan : (⟨.pipeline, "style_scan", _⟩ : LogSpan) = span
  have hregistry := registry_runs p.settings.style.rules { w with spans := w.spans ++ [span] }
  have htargets := p.chooseTargets_runs files
    (registry p.settings.style.rules { w with spans := w.spans ++ [span] }).2
  rw [hregistry.leaves.tree] at htargets
  refine ⟨fun e he => ?_, fun g hg => ⟨fun e he => ?_, fun targets r fs ht hscan => ?_⟩⟩
  · rw [he] at hregistry
    exact (hregistry.bind_error _).inSpan
  · rw [hg] at hregistry
    rw [he] at htargets
    exact (hregistry.bind_ok (htargets.bind_error _)).inSpan
  · rw [hg] at hregistry
    rw [ht] at htargets
    have htree := htargets.leaves.tree.trans hregistry.leaves.tree
    have hchosen := p.scanChosen_runs fun v hv => hscan v (hv.trans htree)
    exact (hregistry.bind_ok (htargets.bind_ok hchosen)).inSpan

/-- A scan all of whose files can be read fails if it found anything. -/
theorem scanned_runs {w : World} {files targets : List String} {g : Registry}
    (hg : Registry.withCustom p.settings.style.rules = .ok g)
    (ht : p.scanTargets w.tree files = .ok targets) (hread : ∀ f ∈ targets, Readable w.tree p.root f) :
    (p.styleScan files).Runs w
      (if 0 < (p.findingsIn w.tree g targets).length then
        .error (.styleViolations (p.findingsIn w.tree g targets).length)
      else .ok (summary targets.length (p.findingsIn w.tree g targets).length))
      (p.findingsIn w.tree g targets) [] := by
  rw [← intoResult_summary]
  refine (p.styleScan_cases.2 g hg).2 targets (.ok _) _ ht fun v hv => ?_
  unfold findingsIn
  rw [← hv] at hread ⊢
  obtain ⟨hresult, hreports⟩ := scanFiles_readable p.root g.rules p.settings.style.mode hread
  exact ⟨hresult, hreports.leaves⟩

/-- Each end is reached from every world with the tree that leads to it. -/
theorem ScanEnd.runs {p : Pipeline} {t : FileTree} {files : List String} {r : Except Failure StyleSummary}
    {fs : List Finding} (h : p.ScanEnd t files r fs) {w : World} (hw : w.tree = t) :
    (p.styleScan files).Runs w r fs [] := by
  subst hw
  cases h with
  | badRule hg => exact p.styleScan_cases.1 _ hg
  | badPattern hg ht => exact (p.styleScan_cases.2 _ hg).1 _ ht
  | @unreadable g before after file cause hg ht hb hf =>
    refine (p.styleScan_cases.2 g hg).2 _ (.error _) _ ht fun v hv => ?_
    unfold findingsIn
    rw [← hv] at hb hf ⊢
    obtain ⟨hresult, hreports⟩ :=
      scanFiles_unreadable p.root g.rules p.settings.style.mode after hb hf
    exact ⟨hresult, hreports.leaves⟩
  | @found g targets hg ht hread hsome =>
    have hscan := p.scanned_runs hg ht hread
    rwa [if_pos (List.length_pos_iff.2 hsome)] at hscan
  | @clean g targets hg ht hread hnone =>
    have hscan := p.scanned_runs hg ht hread
    rwa [hnone] at hscan

/-- There are no other ends. -/
theorem exists_scanEnd (t : FileTree) (files : List String) : ∃ r fs, p.ScanEnd t files r fs := by
  cases hg : Registry.withCustom p.settings.style.rules with
  | error e => exact ⟨_, _, .badRule hg⟩
  | ok g =>
    cases ht : p.scanTargets t files with
    | error e => exact ⟨_, _, .badPattern hg ht⟩
    | ok targets =>
      rcases readable_or_first p.root t targets with h | ⟨before, file, after, cause, rfl, hb, hf⟩
      · by_cases hnone : p.findingsIn t g targets = []
        · exact ⟨_, _, .clean hg ht h hnone⟩
        · exact ⟨_, _, .found hg ht h hnone⟩
      · exact ⟨_, _, .unreadable hg ht hb hf⟩

/-- The settings and the tree decide which it is. -/
theorem ScanEnd.unique {p : Pipeline} {t : FileTree} {files : List String} {r r' : Except Failure StyleSummary}
    {fs fs' : List Finding} (h : p.ScanEnd t files r fs) (h' : p.ScanEnd t files r' fs') :
    r = r' ∧ fs = fs' := by
  have hruns := h.runs (w := { tree := t }) rfl
  have hruns' := h'.runs (w := { tree := t }) rfl
  have hreported := hruns.leaves.reported.symm.trans hruns'.leaves.reported
  exact ⟨hruns.result.symm.trans hruns'.result, List.append_cancel_left hreported⟩

/-! ## A style check -/

/-- The failure that a result is, if it is one. -/
def failures {α : Type} : Except Failure α → List Failure
  | .ok _ => []
  | .error e => [e]

theorem bothOf_eq_ok_iff {β : Type} {a : Except Failure Unit} {b : Except Failure β} {s : β} :
    bothOf a b = .ok s ↔ a = .ok () ∧ b = .ok s := by
  cases a <;> cases b <;> simp [bothOf]

theorem bothOf_eq_error_iff {α β : Type} {a : Except Failure α} {b : Except Failure β}
    {e : Failure} : bothOf a b = .error e ↔ Failure.combine (failures a ++ failures b) = some e := by
  cases a <;> cases b <;> simp [bothOf, failures, Failure.combine]

theorem mem_take_one {w : World} {a : Answer} (h : a ∈ w.answers.take 1) : a = w.nextAnswer := by
  rw [World.nextAnswer]
  cases hanswers : w.answers with
  | nil => rw [hanswers] at h; cases h
  | cons b rest =>
    rw [hanswers] at h
    simpa using h

/-- What it takes to pass `checkStyle` on `t` when the linter gives the answer `a`. -/
structure Passes (t : FileTree) (a : Answer) : Prop where
  linted : ∃ files, FileSet.filesOf t p.root p.settings.lint.files = .ok files ∧
    (files ≠ [] → a = .exited (some 0))
  scanned : ∃ g files, Registry.withCustom p.settings.style.rules = .ok g ∧
    FileSet.filesOf t p.root p.settings.style.files = .ok files ∧
    (∀ f ∈ files, Readable t p.root f) ∧ p.findingsIn t g files = []

theorem lintEnd_eq_ok_iff {t : FileTree} {a : Answer} : p.lintEnd t a = .ok () ↔
    ∃ files, FileSet.filesOf t p.root p.settings.lint.files = .ok files ∧
      (files ≠ [] → a = .exited (some 0)) := by
  unfold lintEnd
  cases FileSet.filesOf t p.root p.settings.lint.files with
  | error e => simp
  | ok files =>
    by_cases hnone : files = []
    · simp [hnone]
    · simp [hnone, Answer.verdict_eq_ok_iff]

theorem lintCalls_of_files {t : FileTree} {files : List String}
    (h : FileSet.filesOf t p.root p.settings.lint.files = .ok files) (hne : files ≠ []) :
    p.lintCalls t = [p.lintCall files] := by
  simp [lintCalls, h, hne]

theorem lintCalls_of_none {t : FileTree}
    (h : ∀ files, FileSet.filesOf t p.root p.settings.lint.files = .ok files → files = []) :
    p.lintCalls t = [] := by
  unfold lintCalls
  cases hfiles : FileSet.filesOf t p.root p.settings.lint.files with
  | error e => rfl
  | ok files => simp [h files hfiles]

/-- A call at most, which takes the next answer. -/
theorem answer_of_lintCalls {t : FileTree} {w : World} (h : p.lintEnd t w.nextAnswer = .ok ()) :
    ∀ a ∈ w.answers.take (p.lintCalls t).length, a = .exited (some 0) := by
  obtain ⟨files, hfiles, hanswer⟩ := p.lintEnd_eq_ok_iff.1 h
  by_cases hne : files = []
  · rw [p.lintCalls_of_none fun files' hfiles' => by rw [hfiles] at hfiles'; cases hfiles'; exact hne]
    simp
  · rw [p.lintCalls_of_files hfiles hne]
    exact fun a ha => (mem_take_one ha).trans (hanswer hne)

theorem testEnd_eq_ok_iff {t : FileTree} {a : Answer} : p.testEnd t a = .ok () ↔
    (∃ files, FileSet.filesOf t p.root p.settings.test.files = .ok files) ∧
      a = .exited (some 0) := by
  unfold testEnd
  cases FileSet.filesOf t p.root p.settings.test.files with
  | error e => simp
  | ok files => simp [Answer.verdict_eq_ok_iff]

theorem ScanEnd.ok_iff {p : Pipeline} {t : FileTree} {r : Except Failure StyleSummary} {fs : List Finding}
    (h : p.ScanEnd t [] r fs) : (∃ s, r = .ok s) ↔
      ∃ g files, Registry.withCustom p.settings.style.rules = .ok g ∧
        FileSet.filesOf t p.root p.settings.style.files = .ok files ∧
        (∀ f ∈ files, Readable t p.root f) ∧ p.findingsIn t g files = [] := by
  have htargets : p.scanTargets t [] = FileSet.filesOf t p.root p.settings.style.files := rfl
  rw [← htargets]
  constructor
  · rintro ⟨s, rfl⟩
    cases h with
    | clean hg ht hread hnone => exact ⟨_, _, hg, ht, hread, hnone⟩
  · rintro ⟨g, files, hg, ht, hread, hnone⟩
    cases h with
    | badRule hg' => rw [hg] at hg'; cases hg'
    | badPattern hg' ht' => rw [ht] at ht'; cases ht'
    | unreadable hg' ht' hb hf =>
      rw [ht] at ht'
      cases ht'
      obtain ⟨text, htext⟩ := hread _ (List.mem_append_right _ List.mem_cons_self)
      rw [hf] at htext
      cases htext
    | found hg' ht' hread' hsome =>
      rw [hg] at hg'
      rw [ht] at ht'
      cases hg'
      cases ht'
      exact absurd hnone hsome
    | clean => exact ⟨_, rfl⟩

/-- Without a failure nothing has been reported. -/
theorem ScanEnd.of_ok {p : Pipeline} {t : FileTree} {files : List String} {s : StyleSummary} {fs : List Finding}
    (h : p.ScanEnd t files (.ok s) fs) : fs = [] := by
  cases h
  rfl

/-- The default run is over when the style check fails. -/
theorem defaultRun_failed {w : World} {e : Failure} {fs : List Finding} {cs : List Invocation}
    (h : p.checkStyle.Runs w (.error e) fs cs) : p.defaultRun.Runs w (.error e) fs cs :=
  h.bind_error _

section
variable {p} (hrun : p.run = Runner.scripted) (w : World)
include hrun

theorem checkStyle_runs {r : Except Failure StyleSummary} {fs : List Finding}
    (h : ∀ v : World, v.tree = w.tree → (p.styleScan []).Runs v r fs []) :
    p.checkStyle.Runs w (bothOf (p.lintEnd w.tree w.nextAnswer) r) fs (p.lintCalls w.tree) := by
  have hlint := (p.lint_runs hrun w).attempt
  have hscan := (h (Step.attempt p.lint w).2 hlint.leaves.tree).attempt
  have hrest : (do
      let scanned ← Step.attempt (p.styleScan [])
      Step.ofExcept (bothOf (p.lintEnd w.tree w.nextAnswer) scanned) : Step StyleSummary).Runs
      (Step.attempt p.lint w).2 (bothOf (p.lintEnd w.tree w.nextAnswer) r) fs [] :=
    hscan.bind_last (Step.runs_ofExcept _ _)
  unfold checkStyle
  rw [← List.append_nil (p.lintCalls w.tree)]
  exact hlint.bind_ok hrest

/-- It goes on with the tests when the check passes. -/
theorem defaultRun_passed {s : StyleSummary} {fs : List Finding} {cs : List Invocation}
    (h : p.checkStyle.Runs w (.ok s) fs cs) :
    p.defaultRun.Runs w (p.testEnd w.tree (p.checkStyle w).2.nextAnswer) fs
      (cs ++ p.testCalls w.tree) := by
  have htest := p.test_runs hrun (p.checkStyle w).2
  rw [h.leaves.tree] at htest
  rw [← List.append_nil fs]
  exact h.bind_ok htest

/-- The tests come behind all that the check leaves. -/
theorem defaultRun_first : (p.checkStyle w).2.trace <+: (p.defaultRun w).2.trace := by
  unfold defaultRun
  rw [Step.bind_run]
  cases (p.checkStyle w).1 with
  | error e => exact List.prefix_refl _
  | ok s =>
    have htest : (p.test .all).Adds fun _ => True := p.test_adds hrun (fun _ => trivial) fun _ => trivial
    exact htest.prefix_run _

end

/-! ## The gate -/

/-- What `checkStyle` and `defaultRun` do from `w`, whose `answers` are laid down for their calls.
-/
structure Gates (w : World) : Prop where
  /-- The linter is called once where its patterns can be read and lead to files, -/
  linted : ∀ files, FileSet.filesOf w.tree p.root p.settings.lint.files = .ok files → files ≠ [] →
    (p.checkStyle w).2.calls = w.calls ++ [p.lintCall files]
  /-- and else not at all. -/
  not_linted : (∀ files, FileSet.filesOf w.tree p.root p.settings.lint.files = .ok files →
    files = []) → (p.checkStyle w).2.calls = w.calls
  /-- What is reported is what a style scan alone reports, from any world with this tree. -/
  scanned : ∀ v : World, v.tree = w.tree → ∃ fs,
    (p.styleScan [] v).2.reported = v.reported ++ fs ∧
      (p.checkStyle w).2.reported = w.reported ++ fs
  ok_iff : ∀ v : World, v.tree = w.tree → ∀ s, (p.checkStyle w).1 = .ok s ↔
    (p.lint w).1 = .ok () ∧ (p.styleScan [] v).1 = .ok s
  error_iff : ∀ v : World, v.tree = w.tree → ∀ e, (p.checkStyle w).1 = .error e ↔
    Failure.combine (failures (p.lint w).1 ++ failures (p.styleScan [] v).1) = some e
  passes_iff : (∃ s, (p.checkStyle w).1 = .ok s) ↔ p.Passes w.tree w.nextAnswer
  /-- The default run begins with a style check, and reports nothing else. -/
  first : (p.checkStyle w).2.trace <+: (p.defaultRun w).2.trace
  reported : (p.defaultRun w).2.reported = (p.checkStyle w).2.reported
  /-- The test runner is called once where the check passes and the patterns can be read, -/
  tested : p.Passes w.tree w.nextAnswer → ∀ files,
    FileSet.filesOf w.tree p.root p.settings.test.files = .ok files →
    (p.defaultRun w).2.calls = (p.checkStyle w).2.calls ++ [p.runnerCall files]
  /-- and else not at all. -/
  not_tested : (p.Passes w.tree w.nextAnswer → ∀ files,
    FileSet.filesOf w.tree p.root p.settings.test.files ≠ .ok files) →
    (p.defaultRun w).2.calls = (p.checkStyle w).2.calls
  /-- Where the default run succeeds nothing was found, and each tool that was called, the test runner
  among them, ended with the status 0. -/
  success : (p.defaultRun w).1 = .ok () → (p.defaultRun w).2.reported = w.reported ∧
    ∃ files, (p.defaultRun w).2.calls = w.calls ++ (p.lintCalls w.tree ++ [p.runnerCall files]) ∧
      (p.defaultRun w).2.answers = w.answers.drop ((p.lintCalls w.tree).length + 1) ∧
      ∀ a ∈ w.answers.take ((p.lintCalls w.tree).length + 1), a = .exited (some 0)

/-- `checkStyle` runs both its parts, whatever comes of the first, and `defaultRun` runs the tests
only behind a check that has passed. -/
theorem style_gates_tests (settings : Settings) (root : String) (w : World) :
    Gates ⟨settings, root, Runner.scripted⟩ w := by
  generalize hp : (⟨settings, root, Runner.scripted⟩ : Pipeline) = p
  have hrun : p.run = Runner.scripted := by rw [← hp]
  obtain ⟨r, fs, hend⟩ := p.exists_scanEnd w.tree []
  have hscan : ∀ v : World, v.tree = w.tree → (p.styleScan []).Runs v r fs [] :=
    fun v => hend.runs
  have hlint := p.lint_runs hrun w
  have hcheck := checkStyle_runs hrun w hscan
  have hok : ∀ s, (p.checkStyle w).1 = .ok s ↔ (p.lint w).1 = .ok () ∧ r = .ok s := by
    intro s
    rw [hcheck.result, hlint.result, bothOf_eq_ok_iff]
  have hpasses : (∃ s, (p.checkStyle w).1 = .ok s) ↔ p.Passes w.tree w.nextAnswer := by
    simp only [hok]
    rw [exists_and_left, hend.ok_iff, hlint.result, lintEnd_eq_ok_iff]
    exact ⟨fun h => ⟨h.1, h.2⟩, fun h => ⟨h.linted, h.scanned⟩⟩
  have hnot : ¬ p.Passes w.tree w.nextAnswer →
      ∃ e, p.defaultRun.Runs w (.error e) fs (p.lintCalls w.tree) := by
    intro hno
    cases hresult : (p.checkStyle w).1 with
    | ok s => exact absurd (hpasses.1 ⟨s, hresult⟩) hno
    | error e =>
      rw [← hcheck.result, hresult] at hcheck
      exact ⟨e, p.defaultRun_failed hcheck⟩
  have hpassed : p.Passes w.tree w.nextAnswer →
      p.defaultRun.Runs w (p.testEnd w.tree (p.checkStyle w).2.nextAnswer) fs
        (p.lintCalls w.tree ++ p.testCalls w.tree) := by
    intro hyes
    obtain ⟨s, hs⟩ := hpasses.2 hyes
    rw [← hcheck.result, hs] at hcheck
    exact defaultRun_passed hrun w hcheck
  have hcalls := hcheck.leaves.calls
  refine
    { linted := fun files hfiles hne => by rw [hcalls, p.lintCalls_of_files hfiles hne]
      not_linted := fun h => by rw [hcalls, p.lintCalls_of_none h, List.append_nil]
      scanned := fun v hv => ⟨fs, (hscan v hv).leaves.reported, hcheck.leaves.reported⟩
      ok_iff := fun v hv s => by rw [(hscan v hv).result, hok]
      error_iff := fun v hv e => by
        rw [hcheck.result, hlint.result, (hscan v hv).result, bothOf_eq_error_iff]
      passes_iff := hpasses
      first := defaultRun_first hrun w
      reported := ?_
      tested := fun hyes files hfiles => ?_
      not_tested := fun hno => ?_
      success := fun hdone => ?_ }
  · rw [hcheck.leaves.reported]
    by_cases h : p.Passes w.tree w.nextAnswer
    · exact (hpassed h).leaves.reported
    · exact (hnot h).choose_spec.leaves.reported
  · rw [(hpassed hyes).leaves.calls, hcalls, testCalls, hfiles, List.append_assoc]
  · rw [hcalls]
    by_cases h : p.Passes w.tree w.nextAnswer
    · rw [(hpassed h).leaves.calls, testCalls]
      cases hfiles : FileSet.filesOf w.tree p.root p.settings.test.files with
      | error e => simp
      | ok files => exact absurd hfiles (hno h files)
    · exact (hnot h).choose_spec.leaves.calls
  · by_cases h : p.Passes w.tree w.nextAnswer
    · have hruns := hpassed h
      obtain ⟨s, hs⟩ := hpasses.2 h
      obtain ⟨hlinted, rfl⟩ := (hok s).1 hs
      rw [hruns.result, testEnd_eq_ok_iff] at hdone
      obtain ⟨⟨files, hfiles⟩, hanswer⟩ := hdone
      have htests : p.testCalls w.tree = [p.runnerCall files] := by rw [testCalls, hfiles]
      refine ⟨?_, files, ?_, ?_, ?_⟩
      · rw [hruns.leaves.reported, hend.of_ok, List.append_nil]
      · rw [hruns.leaves.calls, htests]
      · rw [hruns.leaves.answers, htests, List.length_append, List.length_singleton]
      · rw [List.take_add, List.forall_mem_append, ← hcheck.leaves.answers]
        rw [hlint.result] at hlinted
        exact ⟨p.answer_of_lintCalls hlinted, fun a ha => (mem_take_one ha).trans hanswer⟩
    · obtain ⟨e, he⟩ := hnot h
      rw [he.result] at hdone
      cases hdone

end Pipeline

end BuildGate
