import BuildGate.Proofs.JsonTexts
import BuildGate.Proofs.Lines
import BuildGate.Proofs.ScanOutput

/-!
# The lines of a scan

Without paint the lines of a scan are made of what its document lists, in the same order, and a last
line follows if the scan succeeds. The text of a line has no line feed, so a violation takes one line
as long as neither its message nor its file has one.

**Results.**
* `newline_not_mem_locate`: the text of a line has no line feed.
* `ScanEnd.reported`: every message that is reported is that of a rule.
* `scan_sameStory`: the lines and the document tell the same.
-/
namespace BuildGate

open StyleCheck

/-! ## Texts of lines -/

theorem newline_not_mem_locate (text : String) (offset : Nat) :
    '\n' ∉ (locate text offset).text.toList :=
  (lineOf_locate text offset).no_feed

/-! ## Where findings come from -/

theorem Rule.source_of_compileAll : ∀ {sources : List RuleSource} {rules : List Rule},
    compileAll sources = .ok rules → rules.map Rule.source = sources
  | [], _, h => by
    cases h
    rfl
  | source :: rest, rules, h => by
    unfold compileAll compile at h
    cases hfirst : Pattern.compile source.pattern with
    | error reason =>
      rw [hfirst] at h
      cases h
    | ok pattern =>
      cases hrest : compileAll rest with
      | error e =>
        rw [hfirst, hrest] at h
        cases h
      | ok more =>
        rw [hfirst, hrest] at h
        cases h
        rw [List.map_cons, source_of_compileAll hrest]

theorem Registry.source_of_withCustom {sources : List RuleSource} {g : Registry}
    (h : withCustom sources = .ok g) : g.rules.map Rule.source = Rule.builtinSources ++ sources := by
  unfold withCustom at h
  cases hrules : Rule.compileAll sources with
  | error e =>
    rw [hrules] at h
    cases h
  | ok rules =>
    rw [hrules] at h
    cases h
    rw [Registry.rules, List.map_append, Rule.source_of_compileAll hrules]
    rfl

namespace Pipeline

variable {p : Pipeline} {t : FileTree}

/-- Every finding has the message of a rule and the text of a line. -/
theorem mem_findingsIn {g : Registry} {files : List String} {f : Finding}
    (h : f ∈ p.findingsIn t g files) :
    (∃ r ∈ g.rules, f.found.message = r.message) ∧ ∃ text, f.line = locate text f.found.offset := by
  obtain ⟨file, -, hfile⟩ := List.mem_flatMap.1 h
  split at hfile
  · cases hfile
  next text htext =>
    obtain ⟨r, hr, hhit⟩ := List.mem_flatMap.1 hfile
    obtain ⟨m, hm, rfl⟩ := List.mem_map.1 hhit
    obtain ⟨span, -, rfl⟩ := List.mem_map.1 hm
    exact ⟨⟨r, hr, rfl⟩, text, rfl⟩

/-- What a scan reports. -/
theorem ScanEnd.reported {files : List String} {r : Except Failure StyleSummary} {fs : List Finding}
    (h : p.ScanEnd t files r fs) {f : Finding} (hf : f ∈ fs) :
    (∃ source ∈ Rule.builtinSources ++ p.settings.style.rules, f.found.message = source.message) ∧
      '\n' ∉ f.line.text.toList := by
  obtain ⟨g, scanned, hg, hmem⟩ : ∃ g scanned,
      Registry.withCustom p.settings.style.rules = .ok g ∧ f ∈ p.findingsIn t g scanned := by
    cases h with
    | badRule hg => cases hf
    | badPattern hg ht => cases hf
    | unreadable hg ht hb hfile => exact ⟨_, _, hg, hf⟩
    | found hg ht hread hsome => exact ⟨_, _, hg, hf⟩
    | clean hg ht hread hnone => cases hf
  obtain ⟨⟨rule, hrule, hmessage⟩, text, hline⟩ := mem_findingsIn hmem
  have hsource := List.mem_map_of_mem (f := Rule.source) hrule
  rw [Registry.source_of_withCustom hg] at hsource
  refine ⟨⟨rule.source, hsource, hmessage⟩, ?_⟩
  rw [hline]
  exact newline_not_mem_locate text _

end Pipeline

namespace Gate

open Data

/-! ## Lines of violations -/

/-- The line of `v` on a console. -/
def violationLine (v : Violation) : String :=
  v.file ++ ": " ++ v.message ++ ": " ++ toString v.line ++ ": " ++ v.lineText

/-- The lines of `vs`, each ended by a line feed. -/
def violationLines (vs : List Violation) : String :=
  String.join (vs.map fun v => violationLine v ++ "\n")

theorem findingLines_violation (fs : List Finding) :
    findingLines false fs = violationLines (fs.map Finding.violation) := by
  rw [findingLines, violationLines, List.map_map]
  refine congrArg String.join (List.map_congr_left fun f _ => ?_)
  rw [findingLine_plain, Finding.diagnostic, diagnostic]
  simp [violationLine, Finding.violation, String.append_assoc]

theorem newline_not_mem_line {v : Violation} (hfile : '\n' ∉ v.file.toList)
    (hmessage : '\n' ∉ v.message.toList) (htext : '\n' ∉ v.lineText.toList) :
    '\n' ∉ (violationLine v).toList := by
  have hnumber : '\n' ∉ (toString v.line).toList := by
    intro h
    obtain ⟨hblank, -⟩ := Json.not_mem_toDigits (n := v.line) (c := '\n') (by simpa using h)
    cases hblank
  have hcolon : '\n' ∉ (": ").toList := by decide
  simp only [violationLine, String.toList_append, List.mem_append, not_or]
  exact ⟨⟨⟨⟨⟨⟨hfile, hcolon⟩, hmessage⟩, hcolon⟩, hnumber⟩, hcolon⟩, htext⟩

theorem count_violationLines {vs : List Violation}
    (h : ∀ v ∈ vs, '\n' ∉ (violationLine v).toList) :
    (violationLines vs).toList.count '\n' = vs.length := by
  induction vs with
  | nil => rfl
  | cons v vs ih =>
    rw [List.forall_mem_cons] at h
    have hline : (violationLine v).toList.count '\n' = 0 := List.count_eq_zero.2 h.1
    have hrest := ih h.2
    unfold violationLines at hrest ⊢
    rw [List.map_cons, String.join_cons, String.toList_append, String.toList_append,
      List.count_append, List.count_append, hline, hrest, List.length_cons, Nat.zero_add]
    exact Nat.add_comm 1 _

/-! ## Both forms of the output -/

/-- What the endings `console` and `document` of one scan, whose violations are `vs`, have to do
with each other. -/
structure SameStory (p : Pipeline) (t : FileTree) (files : List String) (vs : List Violation)
    (console document : Ending) : Prop where
  status : console.status = document.status
  /-- The document lists the violations. -/
  document : document.out = Json.pretty (reportData vs) ++ "\n"
  /-- The lines tell of them in the same order. A last one follows if the run succeeds, -/
  success : console.status = 0 → ∃ count : Nat, console.out =
    violationLines vs ++ "OK: " ++ toString count ++ " file(s) follow the style rules\n"
  /-- and nothing if it fails, however it does. -/
  failure : console.status ≠ 0 → console.out = violationLines vs
  /-- Without line feeds in names of files and messages of rules there is one line for each. -/
  lines : (∀ v ∈ vs, '\n' ∉ v.file.toList) →
    (∀ source ∈ p.settings.style.rules, '\n' ∉ source.message.toList) →
    (∀ v ∈ vs, '\n' ∉ (violationLine v).toList) ∧
      (violationLines vs).toList.count '\n' = vs.length
  /-- The failure of a scan that found something counts them. -/
  counted : ∀ n, (p.styleScan files { tree := t }).1 = .error (.styleViolations n) →
    n = vs.length ∧ console.status ≠ 0

section
variable {runner : Runner} {s : Start} {c : CommandLine} {t : FileTree} {ready : Ready}

/-- With and without `json` a scan ends the same and tells the same. -/
theorem scan_sameStory (h : prepare runner s c = (t, .ok ready))
    (hplain : Console.mayColor c.color s.env = false) (files : List String)
    (mode : Option ScanMode) :
    ∃ vs, SameStory (ready.context.pipeline (Context.withMode ready.context.settings mode))
      ready.tree files vs (runCommand runner s { c with json := false } (.scan files mode))
      (runCommand runner s { c with json := true } (.scan files mode)) := by
  generalize hp : ready.context.pipeline (Context.withMode ready.context.settings mode) = p
  obtain ⟨r, fs, hend⟩ := p.exists_scanEnd ready.tree files
  obtain ⟨hconsole, hlines⟩ := runCommand_scan (prepare_json h false) files mode (hp ▸ hend)
  obtain ⟨hdocument, hout⟩ := runCommand_scan (prepare_json h true) files mode (hp ▸ hend)
  obtain ⟨-, hcolor⟩ := ready_of_prepare h
  rw [hplain] at hcolor
  have hzero := status_eq_zero_iff hend
  rw [← hconsole] at hzero
  simp only [Bool.false_eq_true, if_false, hcolor, findingLines_violation] at hlines
  refine ⟨fs.map Finding.violation,
    { status := hconsole.trans hdocument.symm
      document := by rw [hout]; simp [lastLines]
      success := fun hok => ?_
      failure := fun hfails => ?_
      lines := fun hfiles hmessages => ?_
      counted := fun n hn => ?_ }⟩
  · obtain ⟨summary, rfl⟩ := hzero.1 hok
    refine ⟨summary.files, ?_⟩
    rw [hlines]
    simp [lastLines, Console.paintIf, String.append_assoc]
  · cases r with
    | ok summary => exact absurd (hzero.2 ⟨summary, rfl⟩) hfails
    | error e =>
      rw [hlines]
      simp [lastLines]
  · have hbuiltin : ∀ source ∈ Rule.builtinSources, '\n' ∉ source.message.toList := by decide
    have hall : ∀ v ∈ fs.map Finding.violation, '\n' ∉ (violationLine v).toList := by
      intro v hv
      obtain ⟨f, hf, rfl⟩ := List.mem_map.1 hv
      obtain ⟨⟨source, hsource, hmessage⟩, htext⟩ := hend.reported hf
      refine newline_not_mem_line (hfiles _ hv) ?_ htext
      change '\n' ∉ f.found.message.toList
      rw [hmessage]
      obtain hsource | hsource := List.mem_append.1 hsource
      · exact hbuiltin source hsource
      · exact hmessages source hsource
    exact ⟨hall, count_violationLines hall⟩
  · rw [(hend.runs (w := { tree := ready.tree }) rfl).result] at hn
    subst hn
    refine ⟨by rw [hend.count, List.length_map], fun hok => ?_⟩
    obtain ⟨summary, hsummary⟩ := hzero.1 hok
    cases hsummary

end

/-- Both forms tell of a file that is not there by their status alone. -/
theorem scan_sameStory_missing :
    ∃ t ready, prepare Runner.scripted {} {} = (t, .ok ready) ∧
      Console.mayColor ({} : CommandLine).color ({} : Start).env = false ∧
      ∃ vs, SameStory (ready.context.pipeline (Context.withMode ready.context.settings none))
        ready.tree ["a.js"] vs
        (runCommand Runner.scripted {} { json := false } (.scan ["a.js"] none))
        (runCommand Runner.scripted {} { json := true } (.scan ["a.js"] none)) := by
  obtain ⟨ready, hready, -, -⟩ := prepare_empty Runner.scripted false
  exact ⟨{}, ready, hready, rfl, scan_sameStory hready rfl ["a.js"] none⟩

end Gate

end BuildGate
