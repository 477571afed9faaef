import BuildGate.Gate.Run
import BuildGate.Proofs.StyleGate

/-!
# What a scan writes

A scan writes its findings as they come, one a line, or it collects them and writes one document when
it is over. Both are made of the same findings, and the status is that of the scan.

**Results.**
* `styleScan_adds`: a style scan leaves entries of the log and findings in the trace.
* `ScanEnd.exitCode`, `ScanEnd.count`: how a scan fails.
* `runCommand_scan`: the status and the output of a run that scans.
* `prepare_empty`: a run in an empty file system is set up.
-/
namespace BuildGate

open StyleCheck

/-! ## What a style scan leaves in the trace -/

/-- An event of which a document shows nothing where it happens: an entry of the log, a finding or a
call. -/
def Event.IsQuiet : Event → Prop
  | .printed _ | .wrote _ _ => False
  | .logged _ | .found _ | .called _ => True

/-- Nothing is written for the user where all events are quiet. -/
theorem Step.Adds.printed {α : Type} {x : Step α} (h : x.Adds Event.IsQuiet) (w : World) :
    (x w).2.printed = w.printed := by
  obtain ⟨es, hes, hquiet⟩ := h w
  have hnone : es.filterMap Event.line? = [] := by
    refine List.filterMap_eq_nil_iff.2 fun e he => ?_
    cases e with
    | printed line => exact (hquiet _ he).elim
    | logged | found | called | wrote => rfl
  rw [World.printed, hes, List.filterMap_append, hnone, List.append_nil, World.printed]

section
variable {kind : Event → Prop} (hlog : ∀ entry, kind (.logged entry))
  (hfound : ∀ f, kind (.found f))

include hfound in
theorem reportEach_adds : ∀ (fs : List Finding) (t : Tally), (reportEach fs t).Adds kind
  | [], t => Step.adds_ofExcept (.ok t)
  | f :: fs, t => (Step.adds_emit (hfound f)).bind fun _ => reportEach_adds fs t.found

include hlog hfound

theorem scanFile_adds (root file : String) (rules : List Rule) (mode : ScanMode) (t : Tally) :
    (scanFile root file rules mode t).Adds kind := by
  unfold scanFile
  refine Step.adds_tree.bind fun tree => ?_
  cases tree.readText (Path.join root file) with
  | error cause => exact Step.adds_ofExcept (.error _)
  | ok text =>
    exact (Step.adds_log hlog _ _ _ _).bind fun _ => reportEach_adds hfound _ t

theorem scanEach_adds (root : String) (rules : List Rule) (mode : ScanMode) :
    ∀ (files : List String) (t : Tally), (scanEach root rules mode files t).Adds kind
  | [], t => Step.adds_ofExcept (.ok t)
  | file :: rest, t =>
    (scanFile_adds hlog hfound root file rules mode t).bind (scanEach_adds root rules mode rest)

theorem scanFiles_adds (root : String) (files : List String) (rules : List Rule)
    (mode : ScanMode) : (scanFiles root files rules mode).Adds kind :=
  ((scanEach_adds hlog hfound root rules mode files {}).bind fun _ =>
    Step.adds_ofExcept (.ok _)).inSpan

theorem styleScan_adds (p : Pipeline) (files : List String) : (p.styleScan files).Adds kind := by
  rw [Pipeline.styleScan_eq]
  refine Step.Adds.inSpan ?_
  refine Step.Adds.bind ?_ fun g => Step.Adds.bind ?_ fun targets => ?_
  · refine (Step.adds_ofExcept _).bind fun g => ?_
    exact (Step.adds_log hlog _ _ _ _).bind fun _ => Step.adds_ofExcept (.ok g)
  · unfold Pipeline.chooseTargets
    split
    · exact p.expand_adds hlog _
    · exact Step.adds_ofExcept (.ok files)
  · have hscan : ∀ fields : StyleSummary → List (String × String), (do
        let summary ← scanFiles p.root targets g.rules p.settings.style.mode
        Step.log .info .pipeline "style scan finished" (fields summary)
        Step.ofExcept summary.intoResult : Step StyleSummary).Adds kind := by
      intro fields
      exact (scanFiles_adds hlog hfound _ _ _ _).bind fun summary =>
        (Step.adds_log hlog _ _ _ _).bind fun _ => Step.adds_ofExcept _
    unfold Pipeline.scanChosen
    cases targets.isEmpty with
    | true => exact (Step.adds_log hlog _ _ _ _).bind fun _ => hscan _
    | false => exact hscan _

end

/-! ## How a scan fails -/

theorem bind_eq_error {α β : Type} {x : Except Failure α} {f : α → Except Failure β} {e : Failure}
    (h : (x >>= f) = .error e) : x = .error e ∨ ∃ a, x = .ok a ∧ f a = .error e := by
  cases x with
  | error e' =>
    cases h
    exact .inl rfl
  | ok a => exact .inr ⟨a, rfl, h⟩

theorem invalidRule_of_withCustom {sources : List RuleSource} {e : Failure}
    (h : Registry.withCustom sources = .error e) : ∃ pattern reason, e = .invalidRule pattern reason := by
  have hall : ∀ sources, Rule.compileAll sources = .error e →
      ∃ pattern reason, e = .invalidRule pattern reason := by
    intro sources h
    induction sources with
    | nil => cases h
    | cons source rest ih =>
      unfold Rule.compileAll at h
      obtain hfirst | ⟨rule, -, hmore⟩ := bind_eq_error h
      · unfold Rule.compile at hfirst
        split at hfirst
        · cases hfirst
        · cases hfirst
          exact ⟨_, _, rfl⟩
      · obtain hrest | ⟨rules, -, hdone⟩ := bind_eq_error hmore
        · exact ih hrest
        · cases hdone
  obtain hrules | ⟨rules, -, hdone⟩ := bind_eq_error h
  · exact hall _ hrules
  · cases hdone

namespace FileSet

theorem pattern_of_readExcludes {entries : List String} {e : Failure}
    (h : readExcludes entries = .error e) : ∃ entry reason, e = .pattern entry reason := by
  induction entries with
  | nil => cases h
  | cons entry rest ih =>
    unfold readExcludes at h
    split at h
    · exact ih h
    · split at h
      · cases h
        exact ⟨_, _, rfl⟩
      · obtain hrest | ⟨more, -, hdone⟩ := bind_eq_error h
        · exact ih hrest
        · cases hdone

theorem pattern_of_selectedAll {t : FileTree} {root : String} {entries : List String}
    {e : Failure} (h : selectedAll t root entries = .error e) :
    ∃ entry reason, e = .pattern entry reason := by
  induction entries with
  | nil => cases h
  | cons entry rest ih =>
    unfold selectedAll at h
    obtain hfirst | ⟨files, -, hmore⟩ := bind_eq_error h
    · unfold selected at hfirst
      split at hfirst
      · cases hfirst
        exact ⟨_, _, rfl⟩
      · cases hfirst
    · obtain hrest | ⟨more, -, hdone⟩ := bind_eq_error hmore
      · exact ih hrest
      · cases hdone

theorem pattern_of_filesOf {t : FileTree} {root : String} {entries : List String} {e : Failure}
    (h : filesOf t root entries = .error e) : ∃ entry reason, e = .pattern entry reason := by
  obtain hread | ⟨set, -, hexpand⟩ := bind_eq_error h
  · obtain hexcludes | ⟨xs, -, hdone⟩ := bind_eq_error hread
    · exact pattern_of_readExcludes hexcludes
    · split at hdone
      · cases hdone
        exact ⟨_, _, rfl⟩
      · cases hdone
  · obtain hselected | ⟨files, -, hdone⟩ := bind_eq_error hexpand
    · exact pattern_of_selectedAll hselected
    · cases hdone

end FileSet

namespace Pipeline

variable {p : Pipeline} {t : FileTree} {files : List String}

theorem pattern_of_scanTargets {e : Failure} (h : p.scanTargets t files = .error e) :
    ∃ entry reason, e = .pattern entry reason := by
  unfold scanTargets at h
  split at h
  · exact FileSet.pattern_of_filesOf h
  · cases h

/-- A scan that fails is no failure of a tool. -/
theorem ScanEnd.exitCode {e : Failure} {fs : List Finding} (h : p.ScanEnd t files (.error e) fs) :
    e.exitCode = 1 := by
  cases h with
  | badRule hg =>
    obtain ⟨pattern, reason, rfl⟩ := invalidRule_of_withCustom hg
    rfl
  | badPattern hg ht =>
    obtain ⟨entry, reason, rfl⟩ := pattern_of_scanTargets ht
    rfl
  | unreadable hg ht hb hf => rfl
  | found hg ht hread hsome => rfl

/-- The failure of a scan that found something counts what was reported. -/
theorem ScanEnd.count {n : Nat} {fs : List Finding}
    (h : p.ScanEnd t files (.error (.styleViolations n)) fs) : n = fs.length := by
  cases h with
  | badRule hg =>
    obtain ⟨pattern, reason, heq⟩ := invalidRule_of_withCustom hg
    cases heq
  | badPattern hg ht =>
    obtain ⟨entry, reason, heq⟩ := pattern_of_scanTargets ht
    cases heq
  | found hg ht hread hsome => rfl

end Pipeline

/-! ## An empty file system -/

namespace FileTree

theorem find_empty {path : String} {e : Entry} (h : FileTree.find {} path = .ok e) : e = .dir := by
  unfold FileTree.find at h
  cases hloc : FileTree.resolve {} path with
  | error cause =>
    rw [hloc] at h
    cases h
  | ok loc =>
    rw [hloc] at h
    cases loc with
    | nil =>
      cases h
      rfl
    | cons name rest => cases h

theorem isFile_empty (path : String) : FileTree.isFile {} path = false := by
  unfold FileTree.isFile
  split
  · rename_i bytes hfile
    cases find_empty hfile
  · rfl

theorem readText_empty (path : String) : ∃ cause, FileTree.readText {} path = .error cause := by
  unfold FileTree.readText FileTree.readFile
  cases hfind : FileTree.find {} path with
  | error cause => exact ⟨cause, rfl⟩
  | ok e =>
    cases find_empty hfind
    exact ⟨.isADirectory, rfl⟩

end FileTree

namespace Gate

open Data

/-! ## The run of the command -/

/-- The lines that end the output of a scan. -/
def lastLines (json color : Bool) (fs : List Finding) (r : Except Failure StyleSummary) :
    List String :=
  if json then [Json.pretty (reportData (fs.map Finding.violation))]
  else
    match r with
    | .ok s => [Console.paintIf color .green "OK:" ++ " " ++
        (toString s.files ++ " file(s) follow the style rules")]
    | .error _ => []

theorem print_one (line : String) (w : World) :
    Context.print [line] w = (.ok (), { w with trace := w.trace ++ [.printed line] }) := rfl

theorem violations_run (w : World) :
    Context.violations w = (.ok (w.reported.map Finding.violation), w) := by
  unfold Context.violations World.reported
  rw [List.map_filterMap]
  congr 2
  refine List.filterMap_congr fun e _ => ?_
  cases e <;> rfl

theorem reporting_run {α : Type} (c : Context) (step : Step α) (w : World) :
    c.reporting step w = ((step w).1,
      if c.json then
        { (step w).2 with
          trace := (step w).2.trace ++
            [.printed (Json.pretty (reportData ((step w).2.reported.map Finding.violation)))] }
      else (step w).2) := by
  have hattempt : Step.attempt step w = (.ok (step w).1, (step w).2) := rfl
  unfold Context.reporting
  rw [Step.bind_ok hattempt]
  cases c.json with
  | true =>
    simp only [if_true]
    rw [Step.bind_ok (violations_run _), Step.bind_ok (print_one _ _)]
    rfl
  | false => rfl

theorem confirm_run (c : Context) (what : String) (w : World) :
    c.confirm what w = (.ok (),
      if c.json then w
      else
        { w with trace := w.trace ++ [.printed (Console.paintIf c.color .green "OK:" ++ " " ++ what)] }) := by
  unfold Context.confirm
  cases c.json <;> rfl

theorem scan_run (c : Context) (files : List String) (mode : Option ScanMode) (w : World)
    {r : Except Failure StyleSummary} {fs : List Finding}
    (h : (c.pipeline (Context.withMode c.settings mode)).ScanEnd w.tree files r fs) :
    ∃ es, (∀ e ∈ es, e.IsQuiet) ∧ es.filterMap Event.finding? = fs ∧
      (c.scan files mode w).1 = r.map (fun _ => ()) ∧ (c.scan files mode w).2.tree = w.tree ∧
      (c.scan files mode w).2.trace =
        w.trace ++ es ++ (lastLines c.json c.color (w.reported ++ fs) r).map .printed := by
  unfold Context.scan Context.asCommand Step.inSpan
  generalize hv : { w with spans := _ } = v
  generalize [("mode", _)] = fields
  obtain ⟨entry, hlogged⟩ : ∃ entry, Step.log .debug (.command "scan") "executing scan command"
      fields v = (.ok (), { v with trace := v.trace ++ [.logged entry] }) := ⟨_, rfl⟩
  rw [Step.bind_ok hlogged]
  generalize hv₁ : { v with trace := _ } = v₁
  have htree : v₁.tree = w.tree := by rw [← hv₁, ← hv]
  have htrace : v₁.trace = w.trace ++ [.logged entry] := by rw [← hv₁, ← hv]
  have hreported : v₁.reported = w.reported := by
    rw [World.reported, htrace, List.filterMap_append]
    simp [Event.finding?, World.reported]
  have hruns := h.runs htree
  have hadds : ((c.pipeline (Context.withMode c.settings mode)).styleScan files).Adds
      Event.IsQuiet := styleScan_adds (fun _ => trivial) (fun _ => trivial) _ files
  obtain ⟨es, hes, hquiet⟩ := hadds v₁
  have hfound : es.filterMap Event.finding? = fs := by
    have hleft := hruns.leaves.reported
    rw [World.reported, hes, List.filterMap_append] at hleft
    exact List.append_cancel_left hleft
  have hall : ((c.pipeline (Context.withMode c.settings mode)).styleScan files v₁).2.reported =
      w.reported ++ fs := by rw [hruns.leaves.reported, hreported]
  refine ⟨.logged entry :: es, List.forall_mem_cons.2 ⟨trivial, hquiet⟩, hfound, ?_⟩
  have htold := reporting_run c
    ((c.pipeline (Context.withMode c.settings mode)).styleScan files) v₁
  rw [hruns.result, hall] at htold
  have htree' := hruns.leaves.tree.trans htree
  rw [htrace] at hes
  cases r with
  | error e =>
    rw [Step.bind_error htold]
    cases c.json with
    | true => exact ⟨rfl, htree', by simp [hes, lastLines]⟩
    | false => exact ⟨rfl, htree', by simp [hes, lastLines]⟩
  | ok summary =>
    rw [Step.bind_ok htold, confirm_run]
    cases c.json with
    | true => exact ⟨rfl, htree', by simp [hes, lastLines]⟩
    | false => exact ⟨rfl, htree', by simp [hes, lastLines]⟩

/-! ## The output -/

/-- The lines of the findings `fs`. -/
def findingLines (color : Bool) (fs : List Finding) : String :=
  String.join (fs.map fun f => findingLine color f ++ "\n")

theorem join_outText_json (color : Bool) : ∀ {es : List Event}, (∀ e ∈ es, e.IsQuiet) →
    String.join (es.map (outText true color)) = ""
  | [], _ => rfl
  | e :: es, h => by
    rw [List.forall_mem_cons] at h
    rw [List.map_cons, String.join_cons, join_outText_json color h.2, String.append_empty]
    cases e with
    | printed line => exact h.1.elim
    | wrote out err => exact h.1.elim
    | logged entry => rfl
    | found f => rfl
    | called call => rfl

theorem join_outText_console (color : Bool) : ∀ {es : List Event}, (∀ e ∈ es, e.IsQuiet) →
    String.join (es.map (outText false color)) = findingLines color (es.filterMap Event.finding?)
  | [], _ => rfl
  | e :: es, h => by
    rw [List.forall_mem_cons] at h
    rw [List.map_cons, String.join_cons, join_outText_console color h.2]
    cases e with
    | printed line => exact h.1.elim
    | wrote out err => exact h.1.elim
    | logged entry => exact String.empty_append
    | called call => exact String.empty_append
    | found f => exact String.join_cons.symm

theorem join_outText_printed (json color : Bool) (lines : List String) :
    String.join ((lines.map Event.printed).map (outText json color)) =
      String.join (lines.map (· ++ "\n")) := by
  rw [List.map_map]
  rfl

section
variable {runner : Runner} {s : Start} {c : CommandLine} {t : FileTree} {ready : Ready}

/-- What is known of a run that is set up. -/
theorem ready_of_prepare (h : prepare runner s c = (t, .ok ready)) :
    ready.context.json = c.json ∧ ready.context.color = Console.mayColor c.color s.env := by
  unfold prepare at h
  dsimp only at h
  split at h
  · cases h
  · split at h
    · cases h
    · split at h
      · cases h
      · cases h
        exact ⟨rfl, rfl⟩

/-- The form of the output has no say in how a run is set up. -/
theorem prepare_json (h : prepare runner s c = (t, .ok ready)) (json : Bool) :
    prepare runner s { c with json } =
      (t, .ok { ready with context := { ready.context with json } }) := by
  unfold prepare at h ⊢
  dsimp only at h ⊢
  split at h
  · cases h
  · split at h
    · cases h
    · split at h
      · cases h
      · cases h
        simp only [*]

/-- The status and the output of a run that scans. -/
theorem runCommand_scan (h : prepare runner s c = (t, .ok ready)) (files : List String)
    (mode : Option ScanMode) {r : Except Failure StyleSummary} {fs : List Finding}
    (hend : (ready.context.pipeline (Context.withMode ready.context.settings mode)).ScanEnd
      ready.tree files r fs) :
    (runCommand runner s c (.scan files mode)).status = statusOf (r.map fun _ => ()) ∧
      (runCommand runner s c (.scan files mode)).out =
        (if c.json then "" else findingLines ready.context.color fs) ++
          String.join ((lastLines c.json ready.context.color fs r).map (· ++ "\n")) := by
  obtain ⟨hjson, -⟩ := ready_of_prepare h
  generalize hw : ({ tree := ready.tree } : World) = w
  obtain ⟨fields, entry, hlogged, hmain⟩ : ∃ fields entry,
      Step.log .debug .startup "CLI initialized" fields w =
        (.ok (), { w with trace := w.trace ++ [.logged entry] }) ∧
      mainStep c ready.context (.scan files mode) =
        (Step.log .debug .startup "CLI initialized" fields >>= fun _ =>
          ready.context.scan files mode) := ⟨_, _, rfl, rfl⟩
  have hrun : mainStep c ready.context (.scan files mode) w =
      ready.context.scan files mode { w with trace := w.trace ++ [.logged entry] } := by
    rw [hmain, Step.bind_ok hlogged]
  have htree : w.tree = ready.tree := by rw [← hw]
  rw [← htree] at hend
  obtain ⟨es, hquiet, hfound, hresult, -, htrace⟩ := scan_run ready.context files mode
    { w with trace := w.trace ++ [.logged entry] } hend
  have hstart : (World.mk w.tree w.answers w.spans (w.trace ++ [.logged entry])).reported = [] := by
    rw [← hw]
    rfl
  have hlog : w.trace ++ [.logged entry] ++ es = .logged entry :: es := by
    rw [← hw]
    rfl
  have hall : ∀ e ∈ Event.logged entry :: es, e.IsQuiet := List.forall_mem_cons.2 ⟨trivial, hquiet⟩
  rw [hstart, List.nil_append, hjson, hlog] at htrace
  unfold runCommand
  rw [h]
  dsimp only
  rw [hw, hrun]
  generalize ready.context.scan files mode _ = out at hresult htrace ⊢
  obtain ⟨result, w'⟩ := out
  dsimp only at hresult htrace ⊢
  rw [hresult, htrace]
  refine ⟨rfl, ?_⟩
  rw [List.map_append, String.join_append, join_outText_printed]
  congr 1
  cases c.json with
  | true => exact join_outText_json _ hall
  | false =>
    have hlines := join_outText_console ready.context.color hall
    rwa [show List.filterMap Event.finding? (.logged entry :: es) = fs from hfound] at hlines

/-- A scan that fails fails the run. -/
theorem status_eq_zero_iff {p : Pipeline} {files : List String} {r : Except Failure StyleSummary}
    {fs : List Finding} (h : p.ScanEnd t files r fs) :
    statusOf (r.map fun _ => ()) = 0 ↔ ∃ summary, r = .ok summary := by
  rw [statusOf_eq_zero_iff]
  · cases r <;> simp [Except.map]
  · intro e he
    cases r with
    | ok summary => cases he
    | error e' =>
      cases he
      rw [h.exitCode]
      decide

end

/-! ## A run in an empty file system -/

theorem sourcesOf_empty (r : Settings.Request) (env : Environment) :
    Settings.sourcesOf r {} env = { explicitFiles := r.explicitFiles } := by
  have huser : Settings.userFile? {} env = none := by
    unfold Settings.userFile?
    refine Option.bind_eq_none_iff.2 fun dir _ => List.find?_eq_none.2 fun path _ => ?_
    simp [FileTree.isFile_empty]
  have hproject : ∀ marker start, Settings.projectFiles {} marker start = [] := by
    intro marker start
    refine List.eq_nil_iff_forall_not_mem.2 fun path hpath => ?_
    have hfile := Settings.projectFiles_mem _ _ _ _ hpath
    rw [FileTree.isFile_empty] at hfile
    cases hfile
  unfold Settings.sourcesOf
  rw [huser]
  cases r.search with
  | none => simp
  | some start => simp [hproject]

theorem load_empty : Settings.load
    { search := some (FileTree.pathOf []), explicitFiles := none.toList } {} {} = .ok ({}, {}) := by
  unfold Settings.load
  rw [sourcesOf_empty]
  rfl

/-- A run is set up where there are no files. -/
theorem prepare_empty (runner : Runner) (json : Bool) :
    ∃ ready, prepare runner {} { json } = ({}, .ok ready) ∧ ready.context.settings = {} ∧
      ready.tree = {} := by
  unfold prepare
  dsimp only
  rw [load_empty]
  exact ⟨_, rfl, rfl, rfl⟩

end Gate

end BuildGate
