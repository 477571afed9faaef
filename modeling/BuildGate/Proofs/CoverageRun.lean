import BuildGate.Proofs.Clean
import BuildGate.Proofs.ToolRuns

/-!
# Coverage runs

A coverage run cleans and then calls the instrumenter once, with the whole call of the test runner
behind its own arguments. The patterns of the tests are expanded on the tree that cleaning leaves, so
the call is that of a test run on this tree, and no file it names has been removed.

**Results.**
* `clean_run`: cleaning as a function of the tree; it calls nothing and reports nothing.
* `FileSet.isFile_of_mem_filesOf`: every file of a list of entries is there.
* `coverage_unclean`, `coverage_cleaned`: a coverage run behind a cleaning that failed or succeeded.
* `coverage_wraps_tests`: what a coverage run comes to.
-/
namespace BuildGate

open World (Reports Leaves)

namespace FileSet

/-- Every file of a list of entries is there, under the path that led to it. -/
theorem isFile_of_mem_filesOf {t : FileTree} {root : String} {entries files : List String}
    (h : filesOf t root entries = .ok files) {f : String} (hf : f ∈ files) :
    ∃ x, f = relativeTo root x ∧ t.isFile x = true := by
  obtain ⟨-, rfl⟩ := filesOf_eq_ok_iff.1 h
  obtain ⟨hcandidate, -⟩ := mem_remaining.1 ((firsts_sublist _).subset hf)
  obtain ⟨e, -, hmem⟩ := List.mem_flatMap.1 hcandidate
  obtain ⟨x, hx, rfl⟩ := List.mem_map.1 hmem
  exact ⟨x, rfl, (List.mem_filter.1 hx).2⟩

end FileSet

namespace Pipeline

variable (p : Pipeline)

/-! ## Cleaning -/

/-- The tree that `clean` leaves of `t`, if it succeeds. -/
def cleanedTree (t : FileTree) : Except Failure FileTree :=
  if t.exists p.outputPath then
    match t.canonical p.root, t.canonical p.outputPath with
    | .error cause, _ => .error (.io p.root cause)
    | .ok _, .error cause => .error (.io p.outputPath cause)
    | .ok root, .ok target =>
      if Path.same target root || !Path.startsWith target root then .error (.unsafeClean target root)
      else (t.removeDirAll target).mapError (Failure.io target)
  else .ok t

/-- `w'` is `w` with the tree `t` and entries of the log. -/
structure LeavesTree (w : World) (t : FileTree) (w' : World) : Prop where
  tree : w'.tree = t
  answers : w'.answers = w.answers
  reported : w'.reported = w.reported
  calls : w'.calls = w.calls

theorem leavesTree_of_reports {w w' : World} (h : Reports w [] w') : LeavesTree w w.tree w' :=
  ⟨h.tree, h.answers, h.reported.trans (List.append_nil _), h.calls⟩

theorem LeavesTree.update {w w' : World} {t : FileTree} (h : LeavesTree w t w') (t' : FileTree) :
    LeavesTree w t' { w' with tree := t' } :=
  ⟨rfl, h.answers, h.reported, h.calls⟩

/-- Cleaning as a function of the tree. -/
theorem clean_run (w : World) :
    (p.clean w).1 = (p.cleanedTree w.tree).map (fun _ => ()) ∧
      LeavesTree w ((p.cleanedTree w.tree).toOption.getD w.tree) (p.clean w).2 := by
  have hself := leavesTree_of_reports (Reports.refl w)
  unfold clean cleanedTree outputPath
  rw [Step.bind_ok (Step.tree_run w)]
  split
  · dsimp only
    cases w.tree.canonical p.root with
    | error cause =>
      exact ⟨rfl, hself⟩
    | ok root =>
      have hroot : (Except.ok root).mapError (Failure.io p.root) = .ok root := rfl
      rw [Step.ofExcept_bind_ok hroot]
      cases w.tree.canonical (Path.join p.root p.settings.coverage.outputDir) with
      | error cause =>
        exact ⟨rfl, hself⟩
      | ok target =>
        have htarget : (Except.ok target).mapError
            (Failure.io (Path.join p.root p.settings.coverage.outputDir)) = .ok target := rfl
        rw [Step.ofExcept_bind_ok htarget]
        dsimp only
        cases (Path.same target root || !Path.startsWith target root) with
        | true =>
          obtain ⟨w₁, h₁, hw₁⟩ := Step.log_run .warn .pipeline
            "coverage output is not inside the project" [("dir", target), ("root", root)] w
          simp only [if_true]
          rw [Step.bind_ok h₁]
          exact ⟨rfl, leavesTree_of_reports hw₁⟩
        | false =>
          obtain ⟨w₁, h₁, hw₁⟩ := Step.log_run .info .pipeline "removing coverage output"
            [("dir", target)] w
          simp only [Bool.false_eq_true, if_false]
          rw [Step.bind_ok h₁]
          cases w.tree.removeDirAll target with
          | error cause => exact ⟨rfl, leavesTree_of_reports hw₁⟩
          | ok t => exact ⟨rfl, (leavesTree_of_reports hw₁).update t⟩
  · exact ⟨rfl, hself⟩

theorem clean_tree (w : World) :
    (p.clean w).2.tree = (p.cleanedTree w.tree).toOption.getD w.tree :=
  (p.clean_run w).2.tree

theorem clean_eq_ok_iff {w : World} : (p.clean w).1 = .ok () ↔ ∃ t, p.cleanedTree w.tree = .ok t := by
  rw [(p.clean_run w).1]
  cases p.cleanedTree w.tree <;> simp [Except.map]

theorem clean_eq_error_iff {w : World} {e : Failure} :
    (p.clean w).1 = .error e ↔ p.cleanedTree w.tree = .error e := by
  rw [(p.clean_run w).1]
  cases p.cleanedTree w.tree <;> simp [Except.map]

/-! ## The tests under the instrumenter -/

/-- The call of `coverage.program` that wraps the call `tests`; `report` stands in for
`coverage.report`. -/
def coverageCall (report : Option String) (tests : Invocation) : Invocation :=
  (p.call p.settings.coverage.program).withArgs
    (p.settings.coverage.args ++ ["--dir", p.settings.coverage.outputDir] ++
      (p.settings.coverage.exclude.flatMap fun x => ["-x", x]) ++
      ["--report", report.getD p.settings.coverage.report, tests.program, "--"] ++ tests.args)

/-- All of `test.files` can be read, as `Removes` and `Selects` say, and those that take files away
compile. -/
def ReadsTests : Prop :=
  (∀ g ∈ FileSet.removing p.settings.test.files, FileSet.Removes g) ∧
    FileSet.Compile (FileSet.removing p.settings.test.files) ∧
    ∀ e ∈ FileSet.selecting p.settings.test.files, FileSet.Selects p.root e

/-- What `Pipeline.coverage` does from `w`, whose `answers` are laid down for its calls. -/
structure CoversTests (report : Option String) (w : World) : Prop where
  /-- It does to the files what a cleaning does. -/
  tree : (p.coverage report w).2.tree = (p.clean w).2.tree
  /-- It is over when the cleaning fails, -/
  unclean : ∀ e, (p.clean w).1 = .error e →
    (p.coverage report w).1 = .error e ∧ (p.coverage report w).2.calls = w.calls
  /-- or when the patterns of the tests cannot be read or do not compile. -/
  unread : (p.clean w).1 = .ok () → ¬ p.ReadsTests →
    (∃ e, (p.coverage report w).1 = .error e) ∧ (p.coverage report w).2.calls = w.calls
  /-- Else the instrumenter is called once, around the call that a test run makes from any world with
  the files that the cleaning leaves; the tests it loads are among these. -/
  covered : (p.clean w).1 = .ok () → p.ReadsTests → ∃ files,
    (∀ v : World, v.tree = (p.clean w).2.tree →
      (p.test .all v).2.calls = v.calls ++ [p.runnerCall files]) ∧
    (p.coverage report w).2.calls = w.calls ++ [p.coverageCall report (p.runnerCall files)] ∧
    (p.coverage report w).1 = w.nextAnswer.verdict (p.coverageCall report (p.runnerCall files)) ∧
    ∀ f ∈ files, ∃ x, f = FileSet.relativeTo p.root x ∧ (p.clean w).2.tree.isFile x = true

theorem readsTests_iff (t : FileTree) : p.ReadsTests ↔
    ∃ files, FileSet.filesOf t p.root p.settings.test.files = .ok files := by
  simp only [FileSet.filesOf_eq_ok_iff]
  exact ⟨fun h => ⟨_, h, rfl⟩, fun ⟨_, h, _⟩ => h⟩

/-- A coverage run is over when the cleaning fails. -/
theorem coverage_unclean (report : Option String) {w : World} {e : Failure}
    (h : p.cleanedTree w.tree = .error e) :
    (p.coverage report w).1 = .error e ∧ (p.coverage report w).2.calls = w.calls ∧
      (p.coverage report w).2.tree = w.tree := by
  unfold coverage inStage Step.inSpan
  generalize hv : { w with spans := _ } = v
  have htree : v.tree = w.tree := by rw [← hv]
  have hcalls : v.calls = w.calls := by rw [← hv]; rfl
  obtain ⟨hresult, hleaves⟩ := p.clean_run v
  rw [htree, h] at hresult hleaves
  rw [Step.bind_error (Prod.ext hresult rfl)]
  exact ⟨rfl, hleaves.calls.trans hcalls, hleaves.tree⟩

section
variable {p} (hrun : p.run = Runner.scripted) (report : Option String)
include hrun

/-- What follows the cleaning in a coverage run. -/
theorem instrument_runs (w : World) :
    (p.testCall .all >>= fun tests => runChecked p.run (p.coverageCall report tests)).Runs w
      ((FileSet.filesOf w.tree p.root p.settings.test.files).bind fun files =>
        w.nextAnswer.verdict (p.coverageCall report (p.runnerCall files))) []
      ((p.testCalls w.tree).map (p.coverageCall report)) := by
  have hcall := p.testCall_runs w
  unfold testCalls
  cases hfiles : FileSet.filesOf w.tree p.root p.settings.test.files with
  | error e =>
    rw [hfiles] at hcall
    exact hcall.bind_error _
  | ok files =>
    rw [hfiles] at hcall
    refine hcall.bind_first ?_
    have hchecked := runChecked_runs (p.coverageCall report (p.runnerCall files)) (p.testCall .all w).2
    rwa [hcall.leaves.nextAnswer, ← hrun] at hchecked

/-- It goes on with the tree that the cleaning leaves. -/
theorem coverage_cleaned {w : World} {t : FileTree} (h : p.cleanedTree w.tree = .ok t) :
    (p.coverage report w).1 =
        ((FileSet.filesOf t p.root p.settings.test.files).bind fun files =>
          w.nextAnswer.verdict (p.coverageCall report (p.runnerCall files))) ∧
      (p.coverage report w).2.calls = w.calls ++ (p.testCalls t).map (p.coverageCall report) ∧
      (p.coverage report w).2.tree = t := by
  unfold coverage inStage Step.inSpan
  generalize hv : { w with spans := _ } = v
  have htree : v.tree = w.tree := by rw [← hv]
  have hcalls : v.calls = w.calls := by rw [← hv]; rfl
  have hanswers : v.answers = w.answers := by rw [← hv]
  obtain ⟨hresult, hleaves⟩ := p.clean_run v
  rw [htree, h] at hresult hleaves
  have hcleaned : (p.clean v).2.tree = t := hleaves.tree
  have hbody := instrument_runs hrun report (p.clean v).2
  have hanswer : (p.clean v).2.nextAnswer = w.nextAnswer := by
    rw [World.nextAnswer, hleaves.answers, hanswers, World.nextAnswer]
  rw [hcleaned, hanswer] at hbody
  rw [Step.bind_ok (Prod.ext hresult rfl)]
  refine ⟨hbody.result, ?_, hbody.leaves.tree.trans hcleaned⟩
  rw [← hcalls, ← hleaves.calls]
  exact hbody.leaves.calls

end

/-- `Pipeline.coverage` cleans, and then makes one call: `coverageCall` around the `runnerCall` that
a test run would make. -/
theorem coverage_wraps_tests (settings : Settings) (root : String) (report : Option String)
    (w : World) : CoversTests ⟨settings, root, Runner.scripted⟩ report w := by
  generalize hp : (⟨settings, root, Runner.scripted⟩ : Pipeline) = p
  have hrun : p.run = Runner.scripted := by rw [← hp]
  cases hclean : p.cleanedTree w.tree with
  | error e =>
    obtain ⟨hresult, hcalls, htree⟩ := p.coverage_unclean report hclean
    have hleft : (p.clean w).2.tree = w.tree := by rw [clean_tree, hclean]; rfl
    have hfails : ¬ (p.clean w).1 = .ok () := by
      rw [clean_eq_ok_iff, hclean]
      simp
    refine
      { tree := htree.trans hleft.symm
        unclean := fun e' he => ?_
        unread := fun hok => absurd hok hfails
        covered := fun hok => absurd hok hfails }
    rw [clean_eq_error_iff, hclean] at he
    cases he
    exact ⟨hresult, hcalls⟩
  | ok t =>
    obtain ⟨hresult, hcalls, htree⟩ := coverage_cleaned hrun report hclean
    have hleft : (p.clean w).2.tree = t := by rw [clean_tree, hclean]; rfl
    refine
      { tree := htree.trans hleft.symm
        unclean := fun e he => ?_
        unread := fun _ hunread => ?_
        covered := fun _ hread => ?_ }
    · rw [clean_eq_error_iff, hclean] at he
      cases he
    · rw [p.readsTests_iff t] at hunread
      rw [testCalls] at hcalls
      cases hfiles : FileSet.filesOf t p.root p.settings.test.files with
      | error e =>
        rw [hfiles] at hresult hcalls
        exact ⟨⟨e, hresult⟩, by rw [hcalls, List.map_nil, List.append_nil]⟩
      | ok files => exact absurd ⟨files, hfiles⟩ hunread
    · obtain ⟨files, hfiles⟩ := (p.readsTests_iff t).1 hread
      rw [testCalls, hfiles] at hcalls
      rw [hfiles] at hresult
      rw [hleft]
      refine ⟨files, fun v hv => ?_, hcalls, hresult, fun f => FileSet.isFile_of_mem_filesOf hfiles⟩
      rw [(p.test_runs hrun v).leaves.calls, testCalls, hv, hfiles]

end Pipeline

end BuildGate
