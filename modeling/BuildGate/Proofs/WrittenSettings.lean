import BuildGate.Proofs.JsonTexts
import BuildGate.Proofs.LastWins

/-!
# Settings that are written out

Written out, settings are a table with a value for each of their leaves, and nothing there that is
read is a table. So a file with all of them hides whatever lower layers hold, and what is loaded is
what was written.

**Results.**
* `read_dataOf`: each value that is written is read back.
* `writable_dataOf`: settings have a text in JSON.
* `load_written`: a file with the settings, over any files that can be read.
-/
namespace BuildGate.Settings

open Data

/-! ## Settings as data -/

def textsOf (ss : List String) : Plain := .list () (ss.map Plain.ofText)

def optionalOf : Option String → Plain
  | none => Plain.null
  | some s => Plain.ofText s

def ruleOf (r : RuleSource) : Plain :=
  .table () [("pattern", Plain.ofText r.pattern), ("message", Plain.ofText r.message)]

/-- `c` as data, each value under its keys and in the order of the records. -/
def dataOf (c : Settings) : Plain :=
  .table ()
    [ ("log_level", Plain.ofText c.logLevel.name),
      ("log_dir", optionalOf c.logDir),
      ("style", .table ()
        [ ("files", textsOf c.style.files),
          ("mode", Plain.ofText c.style.mode.name),
          ("rules", .list () (c.style.rules.map ruleOf)) ]),
      ("lint", .table ()
        [ ("program", Plain.ofText c.lint.program),
          ("args", textsOf c.lint.args),
          ("files", textsOf c.lint.files) ]),
      ("test", .table ()
        [ ("program", Plain.ofText c.test.program),
          ("args", textsOf c.test.args),
          ("setup", textsOf c.test.setup),
          ("files", textsOf c.test.files),
          ("module_files", textsOf c.test.moduleFiles),
          ("timeout_ms", .scalar () (.unsigned c.test.timeoutMs)),
          ("grep", optionalOf c.test.grep) ]),
      ("coverage", .table ()
        [ ("program", Plain.ofText c.coverage.program),
          ("args", textsOf c.coverage.args),
          ("output_dir", Plain.ofText c.coverage.outputDir),
          ("report", Plain.ofText c.coverage.report),
          ("upload_report", Plain.ofText c.coverage.uploadReport),
          ("exclude", textsOf c.coverage.exclude),
          ("html_report", Plain.ofText c.coverage.htmlReport),
          ("lcov_file", Plain.ofText c.coverage.lcovFile),
          ("upload", .table ()
            [ ("program", Plain.ofText c.coverage.upload.program),
              ("args", textsOf c.coverage.upload.args) ]) ]) ]

/-- Settings that a configuration can state: a `logLevel` that it can ask for, and a `timeoutMs` of
64 bits. -/
structure Statable (c : Settings) : Prop where
  level : c.logLevel ∈ Reader.levels.map Prod.snd
  limit : c.test.timeoutMs < Word.bound

theorem distinct_optionalOf (s : Option String) : Json.Distinct (optionalOf s) := by
  cases s <;> exact .scalar _

theorem distinct_dataOf (c : Settings) : Json.Distinct (dataOf c) := by
  refine .table _ (by simp) ?_
  simp only [List.forall_mem_cons, List.not_mem_nil, false_implies, implies_true, and_true]
  refine ⟨.scalar _, distinct_optionalOf _, .table _ (by simp) ?_, .table _ (by simp) ?_,
    .table _ (by simp) ?_, .table _ (by simp) ?_⟩
  all_goals
    simp only [List.forall_mem_cons, List.not_mem_nil, false_implies, implies_true, and_true]
  · exact ⟨.list _, .scalar _, .list _⟩
  · exact ⟨.scalar _, .list _, .list _⟩
  · exact ⟨.scalar _, .list _, .list _, .list _, .list _, .scalar _, distinct_optionalOf _⟩
  · refine ⟨.scalar _, .list _, .scalar _, .scalar _, .scalar _, .list _, .scalar _, .scalar _,
      .table _ (by simp) ?_⟩
    simp only [List.forall_mem_cons, List.not_mem_nil, false_implies, implies_true, and_true]
    exact ⟨.scalar _, .list _⟩

theorem writable_ofText (depth : Nat) (s : String) : Json.Writable depth (Plain.ofText s) :=
  .scalar (.text s)

theorem writable_textsOf (depth : Nat) (ss : List String) :
    Json.Writable (depth + 1) (textsOf ss) := by
  refine .list fun d hd => ?_
  obtain ⟨s, -, rfl⟩ := List.mem_map.1 hd
  exact writable_ofText depth s

theorem writable_optionalOf (depth : Nat) (s : Option String) :
    Json.Writable depth (optionalOf s) := by
  cases s with
  | none => exact .scalar .null
  | some s => exact writable_ofText depth s

theorem writable_rulesOf (depth : Nat) (rs : List RuleSource) :
    Json.Writable (depth + 2) (.list () (rs.map ruleOf)) := by
  refine .list fun d hd => ?_
  obtain ⟨r, -, rfl⟩ := List.mem_map.1 hd
  refine .table fun e he => ?_
  obtain rfl | he := List.mem_cons.1 he
  · exact writable_ofText depth _
  · obtain rfl := List.mem_singleton.1 he
    exact writable_ofText depth _

/-- Settings have a text in JSON. -/
theorem writable_dataOf {c : Settings} (h : c.test.timeoutMs < Word.bound) (depth : Nat) :
    Json.Writable (depth + 4) (dataOf c) := by
  have hnatural : Json.ScalarText (.unsigned c.test.timeoutMs)
      (Json.scalarText (.unsigned c.test.timeoutMs)).toList := by
    simpa [Json.scalarText] using Json.ScalarText.natural c.test.timeoutMs h
  refine .table ?_
  simp only [List.forall_mem_cons, List.not_mem_nil, false_implies, implies_true, and_true]
  refine ⟨writable_ofText _ _, writable_optionalOf _ _, .table ?_, .table ?_, .table ?_, .table ?_⟩
  all_goals
    simp only [List.forall_mem_cons, List.not_mem_nil, false_implies, implies_true, and_true]
  · exact ⟨writable_textsOf _ _, writable_ofText _ _, writable_rulesOf depth _⟩
  · exact ⟨writable_ofText _ _, writable_textsOf _ _, writable_textsOf _ _⟩
  · exact ⟨writable_ofText _ _, writable_textsOf _ _, writable_textsOf _ _, writable_textsOf _ _,
      writable_textsOf _ _, .scalar hnatural, writable_optionalOf _ _⟩
  · refine ⟨writable_ofText _ _, writable_textsOf _ _, writable_ofText _ _, writable_ofText _ _,
      writable_ofText _ _, writable_textsOf _ _, writable_ofText _ _, writable_ofText _ _,
      .table ?_⟩
    simp only [List.forall_mem_cons, List.not_mem_nil, false_implies, implies_true, and_true]
    exact ⟨writable_ofText _ _, writable_textsOf _ _⟩

/-! ## Reading it back -/

section
variable (o : Origin)

theorem items_map {α : Type} {r : Reader α} {f : α → Datum Origin} (h : ∀ a, r (f a) = .ok a)
    (as : List α) (i : Nat) : Reader.items r i (as.map f) = .ok as := by
  induction as generalizing i with
  | nil => rfl
  | cons a as ih =>
    rw [List.map_cons, Reader.items, h, Reader.under, ih]
    rfl

theorem retagItems_map (ds : List Plain) :
    Datum.retagItems o ds = ds.map (Datum.retag o) := by
  induction ds with
  | nil => rfl
  | cons d ds ih => rw [Datum.retagItems, ih, List.map_cons]

/-- A list of values that are read back is read back. -/
theorem read_list {α : Type} {r : Reader α} {f : α → Plain}
    (h : ∀ a, r ((Json.sorted (f a)).retag o) = .ok a) (as : List α) :
    Reader.list r ((Json.sorted (.list () (as.map f))).retag o) = .ok as := by
  rw [Json.sorted, Datum.retag, Reader.list, Json.sortedItems_eq, retagItems_map, List.map_map,
    List.map_map]
  exact items_map h as 0

theorem read_textsOf (ss : List String) :
    Reader.list Reader.text ((Json.sorted (textsOf ss)).retag o) = .ok ss :=
  read_list o (fun _ => rfl) ss

theorem read_optionalOf {r : Reader String} (h : ∀ s, r (.scalar o (.text s)) = .ok s)
    (s : Option String) : Reader.optional r ((Json.sorted (optionalOf s)).retag o) = .ok s := by
  cases s with
  | none => rfl
  | some s =>
    change (r (.scalar o (.text s))).map some = _
    rw [h]
    rfl

theorem read_level {l : LogLevel} (h : l ∈ Reader.levels.map Prod.snd) :
    Reader.choice "LogLevel" Reader.levels ((Json.sorted (Plain.ofText l.name)).retag o) = .ok l := by
  cases l with
  | trace => exact absurd h (by decide)
  | debug => rfl
  | info => rfl
  | warn => rfl
  | error => rfl

theorem read_mode (m : ScanMode) :
    modeReader ((Json.sorted (Plain.ofText m.name)).retag o) = .ok m := by
  cases m <;> rfl

theorem read_rules (rs : List RuleSource) :
    Reader.list Reader.rule ((Json.sorted (.list () (rs.map ruleOf))).retag o) = .ok rs :=
  read_list o (fun _ => rfl) rs

/-- `d` has a value under the keys of `f` that is no table and is read as that of `c`. -/
def Gives (d : Plain) (c : Settings) (f : Leaf Settings) : Prop :=
  ∃ v, d.at? f.keys = some v ∧ ¬ v.IsTable ∧ f.read ((Json.sorted v).retag o) = .ok (f.get c)

theorem isTable_optionalOf (s : Option String) : ¬ (optionalOf s).IsTable := by
  cases s <;> exact id

/-- Every leaf of settings is written out and read back. -/
theorem read_dataOf {c : Settings} (h : Statable c) : ∀ f ∈ leaves, Gives o (dataOf c) c f := by
  simp only [leaves, List.forall_mem_cons, List.not_mem_nil, false_implies, implies_true, and_true]
  refine ⟨⟨_, rfl, id, read_level o h.level⟩,
    ⟨_, rfl, isTable_optionalOf _, read_optionalOf o (fun _ => rfl) _⟩,
    ⟨_, rfl, id, read_textsOf o _⟩, ⟨_, rfl, id, read_mode o _⟩, ⟨_, rfl, id, read_rules o _⟩,
    ⟨_, rfl, id, rfl⟩, ⟨_, rfl, id, read_textsOf o _⟩, ⟨_, rfl, id, read_textsOf o _⟩,
    ⟨_, rfl, id, rfl⟩, ⟨_, rfl, id, read_textsOf o _⟩, ⟨_, rfl, id, read_textsOf o _⟩,
    ⟨_, rfl, id, read_textsOf o _⟩, ⟨_, rfl, id, read_textsOf o _⟩, ⟨_, rfl, id, rfl⟩,
    ⟨_, rfl, isTable_optionalOf _, read_optionalOf o (fun _ => rfl) _⟩,
    ⟨_, rfl, id, rfl⟩, ⟨_, rfl, id, read_textsOf o _⟩, ⟨_, rfl, id, rfl⟩, ⟨_, rfl, id, rfl⟩,
    ⟨_, rfl, id, rfl⟩, ⟨_, rfl, id, read_textsOf o _⟩, ⟨_, rfl, id, rfl⟩, ⟨_, rfl, id, rfl⟩,
    ⟨_, rfl, id, rfl⟩, ⟨_, rfl, id, read_textsOf o _⟩⟩

theorem isTable_sorted {d : Plain} (h : ¬ d.IsTable) : ¬ ((Json.sorted d).retag o).IsTable := by
  cases d with
  | table => exact absurd trivial h
  | scalar => exact id
  | list => exact id

end

/-! ## Loading it -/

section
variable {r : Request} {t : FileTree} {env : Environment} {path text : String} {c : Settings}

/-- The layer of a file with settings. -/
theorem fileLayer_written (hformat : formatOf path = .json) (htext : t.readText path = .ok text)
    (hwritten : Json.Writes (dataOf c) text) :
    fileLayer t path = .ok ((Json.sorted (dataOf c)).retag (.file path .json)) := by
  have hread : parse? (formatOf path) text = some (Json.sorted (dataOf c)) := by
    rw [hformat]
    exact Json.read?_text hwritten
  rw [fileLayer_eq_ok htext hread, hformat]

/-- Without variables the layer of the environment is empty. -/
theorem environmentLayer_of_none (h : ∀ v ∈ env.vars, keysOf v.1 = none) :
    environmentLayer env = .table .environment [] := by
  have hnone : env.vars.filterMap variableLayer = [] :=
    List.filterMap_eq_nil_iff.2 fun v hv => by rw [variableLayer, h v hv]; rfl
  rw [environmentLayer_eq, hnone]
  rfl

/-- Settings that the top layer writes out are read, whatever is below. -/
theorem read_over {o : Origin} (hc : Statable c) {below : Datum Origin} (hbelow : below.Ascending) :
    Settings.read ((below.laidOver ((Json.sorted (dataOf c)).retag o)).laidOver
      (.table .environment [])) = .ok c := by
  have htop : ((Json.sorted (dataOf c)).retag o).Ascending := (Json.ascending_sorted _).retag o
  have hempty : (Datum.table Origin.environment [] : Datum Origin).Ascending :=
    .table Origin.environment [] Entries.ascending_nil fun _ h => absurd h List.not_mem_nil
  have hat : ∀ f ∈ leaves, ∃ v, ((below.laidOver ((Json.sorted (dataOf c)).retag o)).laidOver
      (.table .environment [])).at? f.keys = some v ∧ f.read v = .ok (f.get c) := by
    intro f hf
    obtain ⟨v, hv, htable, hread⟩ := read_dataOf o hc f hf
    have hsorted : ((Json.sorted (dataOf c)).retag o).at? f.keys =
        some ((Json.sorted v).retag o) := by
      rw [Datum.at?_retag, Json.at?_sorted (distinct_dataOf c), hv]
      rfl
    have hover := Datum.at?_laidOver_value (a := below) htop hsorted (isTable_sorted o htable)
    refine ⟨_, ?_, hread⟩
    rw [Datum.at?_laidOver hempty (Datum.leads_of_at? hover) (leads_empty _ _), hover,
      at?_empty _ (keys_ne_nil f hf), Datum.upon_none]
  have hasc := (hbelow.laidOver _ htop).laidOver _ hempty
  have hleads : ∀ f ∈ leaves, Datum.Leads f.keys _ := fun f hf =>
    Datum.leads_of_at? (hat f hf).choose_spec.1
  obtain ⟨s, hs⟩ := settles_leaves.reads _ hasc hleads fun f hf d hd => by
    obtain ⟨v, hv, hread⟩ := hat f hf
    cases hv.symm.trans hd
    exact ⟨_, hread⟩
  have hsame : s = c := eq_of_leaves fun f hf => by
    obtain ⟨v, hv, hread⟩ := hat f hf
    have hholds := settles_leaves.holds _ s hasc hleads hs f hf
    rw [hv] at hholds
    exact Except.ok.inj (hholds.symm.trans hread)
  rw [hs, hsame]

/-- A file that writes `dataOf c`, over any files that can be read, loads just `c`. -/
theorem load_written (hc : Statable c) (hlower : ∀ p ∈ pathsOf r t env, ∃ l, fileLayer t p = .ok l)
    (hvars : ∀ v ∈ env.vars, keysOf v.1 = none) (hformat : formatOf path = .json)
    (htext : t.readText path = .ok text) (hwritten : Json.Writes (dataOf c) text) :
    load { r with explicitFiles := r.explicitFiles ++ [path] } t env =
      .ok (c, sourcesOf { r with explicitFiles := r.explicitFiles ++ [path] } t env) := by
  have hpaths : pathsOf { r with explicitFiles := r.explicitFiles ++ [path] } t env =
      pathsOf r t env ++ [path] := (List.append_assoc _ _ _).symm
  have hlayer := fileLayer_written hformat htext hwritten
  refine (load_eq_ok ?_).2 ⟨?_, rfl⟩
  · rw [hpaths, List.forall_mem_append, List.forall_mem_singleton]
    exact ⟨hlower, _, hlayer⟩
  · have hstack : stack { r with explicitFiles := r.explicitFiles ++ [path] } t env =
        layersOf t (pathsOf r t env) ++
          [(Json.sorted (dataOf c)).retag (.file path .json), .table .environment []] := by
      rw [stack, hpaths, layersOf, List.filterMap_append, environmentLayer_of_none hvars,
        List.append_assoc]
      simp [layersOf, hlayer, Except.toOption]
    rw [joined, hstack, List.foldl_append]
    exact read_over hc (ascending_laid (fun l hl => (ascending_layersOf l hl).1)
      (.table Origin.builtin [] Entries.ascending_nil fun _ h => absurd h List.not_mem_nil))

end

/-- Settings with the greatest time limit, and without a directory for the log. -/
def patient : Settings := { test := { timeoutMs := 0xffffffffffffffff } }

/-- A lower file whose level cannot be read does no harm. -/
theorem load_written_patient :
    let r : Request := { user := false, explicitFiles := ["/a.json", "/b.json"] }
    let t := twoFiles lowerText (Json.pretty (dataOf patient))
    load r t {} = .ok (patient, sourcesOf r t {}) := by
  have hc : Statable patient := ⟨by decide, by decide⟩
  have htexts := readText_twoFiles lowerText (Json.pretty (dataOf patient))
  have hwritten : Json.Writes (dataOf patient) (Json.pretty (dataOf patient)) :=
    Json.writes_pretty (writable_dataOf hc.limit 123)
  generalize Json.pretty (dataOf patient) = text at htexts hwritten ⊢
  have hread : parse? (formatOf "/a.json") lowerText = some _ := read_lowerText
  have hlower : ∀ p ∈ ["/a.json"], ∃ l, fileLayer (twoFiles lowerText text) p = .ok l :=
    List.forall_mem_singleton.2 ⟨_, fileLayer_eq_ok htexts.1 hread⟩
  exact load_written (r := { user := false, explicitFiles := ["/a.json"] }) hc hlower
    (fun _ hv => absurd hv List.not_mem_nil) (by rfl) htexts.2 hwritten

end BuildGate.Settings
