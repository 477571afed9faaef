import BuildGate.Proofs.Matches
import BuildGate.Proofs.Steps
import BuildGate.StyleCheck

/-!
# What a style check reports

A style check reads its files in order. `StyleCheck.allFindings` is what there is to report in a
list of files: every match of every rule in every text, each with the path as it was listed and the
line that its offset lies on. A check either reads every file and reports all of it, or it ends at
the first file that is no readable text and has reported what lies in the files before it.

**Results.**
* `scanFile_readable`, `scanFile_unreadable`: one file is reported as a whole or not at all.
* `scanEach_append`: the files that can be read before the first that cannot.
* `scanFiles_all_or_prefix`: the two ways in which a check may end, and what each has reported.
-/
namespace BuildGate.StyleCheck

open World (Reports)

/-- `file` is there below `root`, and its content is text. -/
def Readable (t : FileTree) (root file : String) : Prop :=
  ∃ text, t.readText (Path.join root file) = .ok text

/-- The matches in listed files, by file, then by rule, then by offset (`Rule.hits_ascending`). What
cannot be read has none. -/
def allFindings (t : FileTree) (root : String) (rules : List Rule) (mode : ScanMode)
    (files : List String) : List Finding :=
  files.flatMap fun file =>
    match t.readText (Path.join root file) with
    | .error _ => []
    | .ok text =>
      rules.flatMap fun r => (r.hits mode text).map fun m => ⟨file, m, locate text m.offset⟩

section

variable (root : String) (rules : List Rule) (mode : ScanMode)

theorem findings_eq (file text : String) :
    findings file text rules mode =
      rules.flatMap fun r => (r.hits mode text).map fun m => ⟨file, m, locate text m.offset⟩ := by
  simp only [findings, scan, List.map_flatMap]

theorem allFindings_append (t : FileTree) (fs gs : List String) :
    allFindings t root rules mode (fs ++ gs) =
      allFindings t root rules mode fs ++ allFindings t root rules mode gs := by
  simp [allFindings]

theorem allFindings_readable {t : FileTree} {file text : String}
    (h : t.readText (Path.join root file) = .ok text) :
    allFindings t root rules mode [file] = findings file text rules mode := by
  simp [allFindings, h, findings_eq]

/-! ## The tally -/

/-- The tally with the findings `fs` added. -/
def Tally.foundAll (t : Tally) (fs : List Finding) : Tally :=
  ⟨t.violations + fs.length, t.outcome.combine (.all (fs.map fun _ => .fail))⟩

theorem Tally.foundAll_nil (t : Tally) : t.foundAll [] = t :=
  congrArg (Tally.mk t.violations) (Outcome.combine_pass t.outcome)

theorem Tally.foundAll_cons (t : Tally) (f : Finding) (fs : List Finding) :
    t.found.foundAll fs = t.foundAll (f :: fs) := by
  rw [Tally.foundAll, Tally.foundAll, Tally.found, List.map_cons, Outcome.all_cons,
    Outcome.combine_assoc, List.length_cons, Nat.add_assoc, Nat.add_comm 1]

theorem Tally.foundAll_append (t : Tally) (fs gs : List Finding) :
    (t.foundAll fs).foundAll gs = t.foundAll (fs ++ gs) := by
  rw [Tally.foundAll, Tally.foundAll, Tally.foundAll, List.map_append, Outcome.all_append,
    Outcome.combine_assoc, List.length_append, Nat.add_assoc]

theorem reportEach_run (fs : List Finding) (t : Tally) (w : World) :
    ∃ w', reportEach fs t w = (.ok (t.foundAll fs), w') ∧ Reports w fs w' := by
  induction fs generalizing t w with
  | nil => exact ⟨w, by rw [Tally.foundAll_nil]; rfl, Reports.refl w⟩
  | cons f rest ih =>
    obtain ⟨w₁, h₁, hr₁⟩ := Step.emit_found_run f w
    obtain ⟨w₂, h₂, hr₂⟩ := ih t.found w₁
    refine ⟨w₂, ?_, hr₁.trans hr₂⟩
    rw [reportEach, Step.bind_ok h₁, h₂, Tally.foundAll_cons]

/-! ## One file -/

theorem scanFile_readable {w : World} {file text : String} (t : Tally)
    (h : w.tree.readText (Path.join root file) = .ok text) :
    ∃ w', scanFile root file rules mode t w = (.ok (t.foundAll (findings file text rules mode)), w') ∧
      Reports w (findings file text rules mode) w' := by
  obtain ⟨w₁, h₁, hr₁⟩ := Step.log_run .debug .styleCheck "scanned file"
    [("file", file), ("matches", toString (findings file text rules mode).length)] w
  obtain ⟨w₂, h₂, hr₂⟩ := reportEach_run (findings file text rules mode) t w₁
  refine ⟨w₂, ?_, by simpa using hr₁.trans hr₂⟩
  unfold scanFile
  rw [Step.bind_ok (Step.tree_run w)]
  simp only [h]
  rw [Step.bind_ok h₁, h₂]

theorem scanFile_unreadable {w : World} {file : String} {cause : IoFault} (t : Tally)
    (h : w.tree.readText (Path.join root file) = .error cause) :
    scanFile root file rules mode t w = (.error (.read (Path.join root file) cause), w) := by
  unfold scanFile
  rw [Step.bind_ok (Step.tree_run w)]
  simp only [h, Step.throw_run]

/-! ## Files one after the other -/

/-- Files that can be read are reported one after the other, and the others come next. -/
theorem scanEach_append {w : World} (after : List String) : ∀ {before : List String} (t : Tally),
    (∀ file ∈ before, Readable w.tree root file) →
    ∃ w', scanEach root rules mode (before ++ after) t w =
        scanEach root rules mode after (t.foundAll (allFindings w.tree root rules mode before)) w' ∧
      Reports w (allFindings w.tree root rules mode before) w'
  | [], t, _ =>
    ⟨w, by rw [allFindings, List.flatMap_nil, Tally.foundAll_nil, List.nil_append], Reports.refl w⟩
  | file :: rest, t, h => by
    obtain ⟨text, ht⟩ := h file List.mem_cons_self
    obtain ⟨w₁, h₁, hr₁⟩ := scanFile_readable root rules mode t ht
    -- Reports leave the tree as it is, so what is left can be read as before.
    have hrest : ∀ g ∈ rest, Readable w₁.tree root g := by
      intro g hg
      rw [hr₁.tree]
      exact h g (List.mem_cons_of_mem _ hg)
    obtain ⟨w₂, h₂, hr₂⟩ := scanEach_append after _ hrest
    have happ := allFindings_append root rules mode w.tree [file] rest
    rw [List.singleton_append, allFindings_readable root rules mode ht] at happ
    rw [hr₁.tree] at h₂ hr₂
    refine ⟨w₂, ?_, by rw [happ]; exact hr₁.trans hr₂⟩
    rw [List.cons_append, scanEach, Step.bind_ok h₁, h₂, happ, Tally.foundAll_append]

theorem scanEach_readable {w : World} {files : List String} (t : Tally)
    (h : ∀ file ∈ files, Readable w.tree root file) :
    ∃ w', scanEach root rules mode files t w =
        (.ok (t.foundAll (allFindings w.tree root rules mode files)), w') ∧
      Reports w (allFindings w.tree root rules mode files) w' := by
  obtain ⟨w', hw, hr⟩ := scanEach_append root rules mode [] t h
  rw [List.append_nil] at hw
  exact ⟨w', hw, hr⟩

theorem scanEach_unreadable {w : World} {before : List String} {file : String} {cause : IoFault}
    (after : List String) (t : Tally) (h : ∀ g ∈ before, Readable w.tree root g)
    (hf : w.tree.readText (Path.join root file) = .error cause) :
    ∃ w', scanEach root rules mode (before ++ file :: after) t w =
        (.error (.read (Path.join root file) cause), w') ∧
      Reports w (allFindings w.tree root rules mode before) w' := by
  obtain ⟨w', hw, hr⟩ := scanEach_append root rules mode (file :: after) t h
  rw [← hr.tree] at hf
  refine ⟨w', ?_, hr⟩
  rw [hw, scanEach, Step.bind_error (scanFile_unreadable root rules mode _ hf)]

/-- A list of files has a first one that cannot be read, unless all of them can. -/
theorem readable_or_first (t : FileTree) : ∀ files : List String,
    (∀ file ∈ files, Readable t root file) ∨
      ∃ before file after cause, files = before ++ file :: after ∧
        (∀ g ∈ before, Readable t root g) ∧ t.readText (Path.join root file) = .error cause
  | [] => .inl (by simp)
  | file :: rest => by
    cases hf : t.readText (Path.join root file) with
    | error cause => exact .inr ⟨[], file, rest, cause, rfl, by simp, hf⟩
    | ok text =>
      rcases readable_or_first t rest with h | ⟨before, g, after, cause, rfl, hb, hg⟩
      · left
        intro g hg
        rcases List.mem_cons.1 hg with rfl | hg
        · exact ⟨text, hf⟩
        · exact h g hg
      · right
        refine ⟨file :: before, g, after, cause, rfl, ?_, hg⟩
        intro g' hg'
        rcases List.mem_cons.1 hg' with rfl | hg'
        · exact ⟨text, hf⟩
        · exact hb g' hg'

/-! ## A whole check -/

/-- What a check comes to that reads every file. -/
def summary (files violations : Nat) : StyleSummary :=
  ⟨files, violations, if violations = 0 then .pass else .fail⟩

/-- The tally of what was found is its summary. -/
theorem summary_foundAll (files : Nat) (fs : List Finding) :
    (⟨files, (({} : Tally).foundAll fs).violations, (({} : Tally).foundAll fs).outcome⟩ :
      StyleSummary) = summary files fs.length := by
  cases fs with
  | nil => rfl
  | cons f fs => simp [Tally.foundAll, summary, Outcome.all_cons, Outcome.combine]

theorem scanFiles_readable {w : World} {files : List String}
    (h : ∀ file ∈ files, Readable w.tree root file) :
    (scanFiles root files rules mode w).1 =
        .ok (summary files.length (allFindings w.tree root rules mode files).length) ∧
      Reports w (allFindings w.tree root rules mode files) (scanFiles root files rules mode w).2 := by
  obtain ⟨w', h', hr⟩ := scanEach_readable root rules mode {}
    (w := { w with spans := w.spans ++ [⟨.styleCheck, "scan_files",
      [("files", toString files.length), ("rules", toString rules.length)]⟩] }) h
  unfold scanFiles
  refine ⟨?_, Step.inSpan_reports ?_⟩
  · rw [Step.inSpan_result, Step.bind_ok h', ← summary_foundAll]
    rfl
  · rw [Step.bind_ok h']
    exact hr

theorem scanFiles_unreadable {w : World} {before : List String} {file : String} {cause : IoFault}
    (after : List String) (h : ∀ g ∈ before, Readable w.tree root g)
    (hf : w.tree.readText (Path.join root file) = .error cause) :
    (scanFiles root (before ++ file :: after) rules mode w).1 =
        .error (.read (Path.join root file) cause) ∧
      Reports w (allFindings w.tree root rules mode before)
        (scanFiles root (before ++ file :: after) rules mode w).2 := by
  obtain ⟨w', h', hr⟩ := scanEach_unreadable root rules mode after {}
    (w := { w with spans := w.spans ++ [⟨.styleCheck, "scan_files",
      [("files", toString (before ++ file :: after).length),
        ("rules", toString rules.length)]⟩] }) h hf
  unfold scanFiles
  refine ⟨?_, Step.inSpan_reports ?_⟩
  · rw [Step.inSpan_result, Step.bind_error h']
  · rw [Step.bind_error h']
    exact hr

/-- To turn a summary into a result reports nothing more. -/
theorem runStyleCheck_eq (files : List String) (w : World) :
    runStyleCheck root files rules mode w =
      ((scanFiles root files rules mode w).1.bind StyleSummary.intoResult,
        (scanFiles root files rules mode w).2) := by
  unfold runStyleCheck
  rw [Step.bind_run]
  cases (scanFiles root files rules mode w).1 <;> rfl

theorem intoResult_summary (files violations : Nat) :
    (summary files violations).intoResult =
      if 0 < violations then .error (.styleViolations violations)
      else .ok (summary files violations) := by
  by_cases h : violations = 0
  · simp [summary, StyleSummary.intoResult, h]
  · simp [summary, StyleSummary.intoResult, h, Nat.pos_of_ne_zero h]

end

/-- A check of listed files ends in one of two ways. Either every file is text, and all there is to
report has been reported; or some file is the first that is none, the check fails with its path
below the root, and what was reported is what lies in the files before it. Both ways the trees stay
as they are, and the check that fails on findings reports the same as the one that counts them. -/
theorem scanFiles_all_or_prefix (root : String) (files : List String) (rules : List Rule)
    (mode : ScanMode) (w : World) :
    let found := allFindings w.tree root rules mode
    let scanned := scanFiles root files rules mode w
    let checked := runStyleCheck root files rules mode w
    (((∀ file ∈ files, Readable w.tree root file) ∧
        (∃ s : StyleSummary, scanned.1 = .ok s ∧ s.files = files.length ∧
          s.violations = (found files).length ∧ (s.outcome = .fail ↔ 0 < s.violations) ∧
          checked.1 =
            if 0 < s.violations then .error (.styleViolations s.violations) else .ok s) ∧
        scanned.2.reported = w.reported ++ found files) ∨
      (∃ before file after cause, files = before ++ file :: after ∧
        (∀ g ∈ before, Readable w.tree root g) ∧
        w.tree.readText (Path.join root file) = .error cause ∧
        scanned.1 = .error (.read (Path.join root file) cause) ∧
        checked.1 = .error (.read (Path.join root file) cause) ∧
        scanned.2.reported = w.reported ++ found before)) ∧
    checked.2 = scanned.2 ∧ scanned.2.tree = w.tree ∧
    (scanned.1.isOk = true ↔ ∀ file ∈ files, Readable w.tree root file) ∧
    ∀ (r : Rule) (text : String), (r.hits mode text).Pairwise fun a b => a.offset < b.offset := by
  intro found scanned checked
  have hchecked : checked = (scanned.1.bind StyleSummary.intoResult, scanned.2) :=
    runStyleCheck_eq root rules mode files w
  rcases readable_or_first root w.tree files with h | ⟨before, file, after, cause, hfiles, hb, hf⟩
  · obtain ⟨hres, hrep⟩ := scanFiles_readable root rules mode h
    have hres : scanned.1 = .ok (summary files.length (found files).length) := hres
    refine ⟨.inl ⟨h, ⟨_, hres, rfl, rfl, ?_, ?_⟩, hrep.reported⟩, by rw [hchecked], hrep.tree, ?_,
      fun r text => r.hits_ascending mode text⟩
    · by_cases h0 : (found files).length = 0
      · simp [summary, h0]
      · simp [summary, h0, Nat.pos_of_ne_zero h0]
    · rw [hchecked, hres]
      exact intoResult_summary _ _
    · simp only [hres, Except.isOk, Except.toBool, true_iff]
      exact h
  · obtain ⟨hres, hrep⟩ := scanFiles_unreadable root rules mode after hb hf
    rw [← hfiles] at hres hrep
    have hres : scanned.1 = .error (.read (Path.join root file) cause) := hres
    refine ⟨.inr ⟨before, file, after, cause, hfiles, hb, hf, hres, ?_, hrep.reported⟩,
      by rw [hchecked], hrep.tree, ?_, fun r text => r.hits_ascending mode text⟩
    · rw [hchecked, hres]
      rfl
    · simp only [hres, Except.isOk, Except.toBool, Bool.false_eq_true, false_iff]
      intro hall
      obtain ⟨text, ht⟩ := hall file (by rw [hfiles]; simp)
      rw [hf] at ht
      cases ht

end BuildGate.StyleCheck
