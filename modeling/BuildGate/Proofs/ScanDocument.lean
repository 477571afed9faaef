import BuildGate.Proofs.JsonTexts
import BuildGate.Proofs.ScanOutput

/-!
# The document of a scan

The outcome in the document is made anew from the violations that were collected, while the status
comes from the scan. They agree unless the scan was broken off before it had found anything: a rule or
a pattern that cannot be read, or a file that cannot be read behind files that hold nothing to report,
is told to pass although the run fails.

**Results.**
* `read?_reportData`: the document can be read.
* `scan_tellsOutcome`: when the outcome in the document is that of the run.
* `scan_tellsOutcome_missing`: a run that fails and is told to pass.
-/
namespace BuildGate

open StyleCheck

namespace Pipeline

variable {p : Pipeline} {t : FileTree} {files : List String}

/-- A scan of `files` is broken off before it has found anything: by a rule or a pattern that cannot
be read, or by a file that cannot be read when the files before it hold nothing to report. -/
inductive BreaksOff (p : Pipeline) (t : FileTree) (files : List String) : Prop
  | badRule {e : Failure} (hg : Registry.withCustom p.settings.style.rules = .error e)
  | badPattern {g : Registry} {e : Failure}
    (hg : Registry.withCustom p.settings.style.rules = .ok g)
    (ht : p.scanTargets t files = .error e)
  | unreadable {g : Registry} {before after : List String} {file : String} {cause : IoFault}
    (hg : Registry.withCustom p.settings.style.rules = .ok g)
    (ht : p.scanTargets t files = .ok (before ++ file :: after))
    (hb : ∀ f ∈ before, Readable t p.root f)
    (hf : t.readText (Path.join p.root file) = .error cause)
    (hnone : p.findingsIn t g before = [])

theorem breaksOff_iff : p.BreaksOff t files ↔ ∃ e, p.ScanEnd t files (.error e) [] := by
  constructor
  · intro h
    cases h with
    | badRule hg => exact ⟨_, .badRule hg⟩
    | badPattern hg ht => exact ⟨_, .badPattern hg ht⟩
    | unreadable hg ht hb hf hnone =>
      have hend := ScanEnd.unreadable hg ht hb hf
      rw [hnone] at hend
      exact ⟨_, hend⟩
  · rintro ⟨e, h⟩
    generalize hnone : ([] : List Finding) = fs at h
    cases h with
    | badRule hg => exact .badRule hg
    | badPattern hg ht => exact .badPattern hg ht
    | unreadable hg ht hb hf => exact .unreadable hg ht hb hf hnone.symm
    | found hg ht hread hsome => exact absurd hnone.symm hsome

end Pipeline

namespace Gate

open Data

/-! ## The document -/

theorem writable_reportData {vs : List Violation} (h : ∀ v ∈ vs, v.line < Word.bound) (depth : Nat) :
    Json.Writable (depth + 3) (reportData vs) := by
  have htext : ∀ depth s, Json.Writable depth (Plain.ofText s) := fun _ s => .scalar (.text s)
  have hviolation : ∀ v ∈ vs, Json.Writable (depth + 1) (violationData v) := by
    intro v hv
    have hline : Json.ScalarText (.unsigned v.line) (Json.scalarText (.unsigned v.line)).toList := by
      simpa [Json.scalarText] using Json.ScalarText.natural v.line (h v hv)
    refine .table ?_
    simp only [List.forall_mem_cons, List.not_mem_nil, false_implies, implies_true, and_true]
    exact ⟨htext _ _, htext _ _, .scalar hline, htext _ _, htext _ _⟩
  refine .table ?_
  simp only [List.forall_mem_cons, List.not_mem_nil, false_implies, implies_true, and_true]
  refine ⟨htext _ _, .list fun d hd => ?_⟩
  obtain ⟨v, hv, rfl⟩ := List.mem_map.1 hd
  exact hviolation v hv

theorem distinct_reportData (vs : List Violation) : Json.Distinct (reportData vs) := by
  refine .table _ (by simp) ?_
  simp only [List.forall_mem_cons, List.not_mem_nil, false_implies, implies_true, and_true]
  exact ⟨.scalar _, .list _⟩

/-- The document of a scan can be read. -/
theorem read?_reportData {vs : List Violation} (h : ∀ v ∈ vs, v.line < Word.bound) :
    Json.read? (Json.pretty (reportData vs) ++ "\n") = some (Json.sorted (reportData vs)) := by
  obtain ⟨before, cs, after, hbefore, htext, hafter, hpretty⟩ :=
    Json.writes_pretty (writable_reportData h 124)
  have hblank : Json.Blanks (after ++ ['\n']) := by
    intro c hc
    obtain hc | hc := List.mem_append.1 hc
    · exact hafter c hc
    · obtain rfl := List.mem_singleton.1 hc
      rfl
  refine Json.read?_text ⟨before, cs, after ++ ['\n'], hbefore, htext, hblank, ?_⟩
  rw [String.toList_append, hpretty]
  simp

/-- What stands under `outcome` in a document. -/
def toldOutcome (text : String) : Option Plain := (Json.read? text).bind (Datum.at? ["outcome"])

theorem toldOutcome_reportData {vs : List Violation} (h : ∀ v ∈ vs, v.line < Word.bound) :
    toldOutcome (Json.pretty (reportData vs) ++ "\n") = some (Plain.ofText (outcomeOf vs).name) := by
  rw [toldOutcome, read?_reportData h, Option.bind_some, Json.at?_sorted (distinct_reportData vs)]
  rfl

/-! ## The outcome and the status -/

/-- What the document that a run writes for the violations `vs` tells of its ending `e`. -/
structure TellsOutcome (p : Pipeline) (t : FileTree) (files : List String) (vs : List Violation)
    (e : Ending) : Prop where
  /-- The output is one document. -/
  out : e.out = Json.pretty (reportData vs) ++ "\n"
  /-- It can be read, whatever it lists. -/
  told : (∀ v ∈ vs, v.line < Word.bound) →
    toldOutcome e.out = some (Plain.ofText (outcomeOf vs).name)
  /-- A run that succeeds is told to pass. -/
  success : e.status = 0 → outcomeOf vs = .pass
  /-- The other way round this holds just where the scan was not broken off with nothing found. -/
  agrees_iff : (outcomeOf vs = .pass ↔ e.status = 0) ↔ ¬ p.BreaksOff t files

section
variable {runner : Runner} {s : Start} {c : CommandLine} {t : FileTree} {ready : Ready}

/-- The outcome in the document is that of the run, unless the scan `BreaksOff`. -/
theorem scan_tellsOutcome (h : prepare runner s c = (t, .ok ready)) (hjson : c.json = true)
    (files : List String) (mode : Option ScanMode) :
    ∃ vs, TellsOutcome (ready.context.pipeline (Context.withMode ready.context.settings mode))
      ready.tree files vs (runCommand runner s c (.scan files mode)) := by
  generalize hp : ready.context.pipeline (Context.withMode ready.context.settings mode) = p
  obtain ⟨r, fs, hend⟩ := p.exists_scanEnd ready.tree files
  obtain ⟨hstatus, hout⟩ := runCommand_scan h files mode (hp ▸ hend)
  have hzero := status_eq_zero_iff hend
  rw [← hstatus] at hzero
  rw [hjson, if_pos rfl, String.empty_append] at hout
  have hdocument : (runCommand runner s c (.scan files mode)).out =
      Json.pretty (reportData (fs.map Finding.violation)) ++ "\n" := by
    simp [hout, lastLines]
  have hpass : outcomeOf (fs.map Finding.violation) = .pass ↔ fs = [] := by
    rw [outcomeOf_eq_pass_iff, List.map_eq_nil_iff]
  refine ⟨fs.map Finding.violation, ⟨hdocument, fun hlines => ?_, fun hok => ?_, ?_⟩⟩
  · rw [hdocument, toldOutcome_reportData hlines]
  · obtain ⟨summary, rfl⟩ := hzero.1 hok
    exact hpass.2 hend.of_ok
  · rw [hpass, hzero, Pipeline.breaksOff_iff]
    constructor
    · rintro hagrees ⟨e, hbroken⟩
      obtain ⟨rfl, rfl⟩ := hend.unique hbroken
      obtain ⟨summary, hsummary⟩ := hagrees.1 rfl
      cases hsummary
    · intro hnot
      refine ⟨fun hnone => ?_, ?_⟩
      · cases r with
        | ok summary => exact ⟨summary, rfl⟩
        | error e => exact absurd ⟨e, hnone ▸ hend⟩ hnot
      · rintro ⟨summary, rfl⟩
        exact hend.of_ok

end

/-- A file that is not there is told to pass, and the run fails. -/
theorem scan_tellsOutcome_missing :
    ∃ t ready, prepare Runner.scripted {} { json := true } = (t, .ok ready) ∧
      ∃ vs, TellsOutcome (ready.context.pipeline (Context.withMode ready.context.settings none))
        ready.tree ["a.js"] vs (runCommand Runner.scripted {} { json := true } (.scan ["a.js"] none)) ∧
      outcomeOf vs = .pass ∧
      (runCommand Runner.scripted {} { json := true } (.scan ["a.js"] none)).status ≠ 0 := by
  obtain ⟨ready, hready, hsettings, htree⟩ := prepare_empty Runner.scripted true
  obtain ⟨vs, htells⟩ := scan_tellsOutcome hready rfl ["a.js"] none
  refine ⟨{}, ready, hready, vs, htells, ?_⟩
  have hbroken : (ready.context.pipeline (Context.withMode ready.context.settings none)).BreaksOff
      ready.tree ["a.js"] := by
    rw [hsettings, htree]
    obtain ⟨cause, hcause⟩ := FileTree.readText_empty (Path.join ready.context.root "a.js")
    exact @Pipeline.BreaksOff.unreadable _ _ _ _ [] [] _ _ rfl rfl (fun _ h => by cases h) hcause rfl
  have hdiffer := (not_congr htells.agrees_iff).2 (not_not_intro hbroken)
  have hsuccess := htells.success
  tauto

end Gate

end BuildGate
