import BuildGate.Proofs.OneVariable
import BuildGate.Proofs.ScanOutput

/-!
# Where the log file lies

The directory of the log file is asked of a variable first and then of the settings, and an empty
variable names nothing. But the variable is also one of those that set a value, and there an empty
value is a value like any other: the settings name the empty directory, whatever the files name, and
so the log file lies in the directory where the program runs.

**Results.**
* `prepare_tree`: a run makes the log file that the settings and the variables come to.
* `emptyDir_displaces`: what an empty variable for the directory comes to.
-/
namespace BuildGate.Gate

open Settings
open Log.File (place? pathVariable dirVariable)

/-! ## The log file of a run -/

/-- What a run with the command line `c` in `t` loads. -/
def requestIn (c : CommandLine) (t : FileTree) : Request :=
  { search := some (FileTree.pathOf t.workingDir), explicitFiles := c.config.toList }

/-- The log file that `load r t env` leads to: `place?` with the `logDir` that is loaded. -/
def logPlace (r : Request) (t : FileTree) (env : Environment) :
    Except LoadFailure (Option String) :=
  (load r t env).map fun p => place? env p.1.logDir

/-- `t` with the log file, if there is one. -/
def withLog (t : FileTree) : Except LoadFailure (Option String) → FileTree
  | .ok (some path) => (Log.File.create t path).1
  | _ => t

/-- A run makes the log file before anything else changes. -/
theorem prepare_tree (runner : Runner) {s : Start} {c : CommandLine} {t : FileTree}
    (h : c.chdir.elim (.ok s.tree) s.tree.enter = .ok t) :
    (prepare runner s c).1 = withLog t (logPlace (requestIn c t) t s.env) := by
  unfold prepare logPlace
  dsimp only
  split
  next f hentered =>
    cases hdir : c.chdir with
    | none =>
      rw [hdir] at hentered
      cases hentered
    | some dir =>
      rw [hdir] at h hentered
      simp only [show s.tree.enter dir = .ok t from h] at hentered
      cases hentered
  next t' hentered =>
  obtain rfl : t' = t := by
    cases hdir : c.chdir with
    | none =>
      rw [hdir] at h hentered
      cases h
      cases hentered
      rfl
    | some dir =>
      rw [hdir] at h hentered
      simp only [show s.tree.enter dir = .ok t from h] at hentered
      cases hentered
      rfl
  split
  next f hload => rw [show load (requestIn c t') t' s.env = .error f from hload]; rfl
  next settings sources hload =>
  rw [show load (requestIn c t') t' s.env = .ok (settings, sources) from hload]
  change _ = withLog t' (.ok (place? s.env settings.logDir))
  generalize place? s.env settings.logDir = place
  cases place with
  | none => rfl
  | some path =>
    dsimp only [Option.elim]
    split
    next hcreate => exact congrArg Prod.fst hcreate.symm
    next hcreate => exact congrArg Prod.fst hcreate.symm

/-! ## An empty variable for the directory -/

/-- What `env'`, which is `env` with an empty value of `dirVariable`, makes of the log file. -/
structure EmptyDir (r : Request) (t : FileTree) (env env' : Environment) : Prop where
  /-- Where the log file is looked for the variable counts for nothing, -/
  unnamed : ∀ dir, place? env' dir = place? env dir
  /-- but in the settings it is a value. -/
  settings : ∀ s src, load r t env = .ok (s, src) →
    load r t env' = .ok ({ s with logDir := some "" }, src)
  /-- This holds of all settings, also where none can be loaded without it. -/
  displaced : ∀ s src, load r t env' = .ok (s, src) → s.logDir = some ""
  without : ∀ s src, load r t env = .ok (s, src) → logPlace r t env =
    .ok ((env.nonempty? pathVariable).or (s.logDir.map (Path.join · Log.File.name)))
  /-- The file is in the directory of the run unless it is named itself, -/
  place : ∀ s src, load r t env = .ok (s, src) → logPlace r t env' =
    .ok (some ((env.nonempty? pathVariable).getD Log.File.name))
  /-- so it is where it would be without the variable only if that file or the same directory is named
  in another way. -/
  same_iff : ∀ s src, load r t env = .ok (s, src) → (logPlace r t env' = logPlace r t env ↔
    env.nonempty? pathVariable ≠ none ∨ s.logDir = some "")
  /-- A run makes it there. -/
  made : ∀ runner args tree c, r = requestIn c t → c.chdir.elim (.ok tree) tree.enter = .ok t →
    env.nonempty? pathVariable = none → ∀ s src, load r t env = .ok (s, src) →
      (prepare runner ⟨args, env', tree⟩ c).1 = (Log.File.create t Log.File.name).1

theorem join_name_eq_iff (dir : String) : Path.join dir Log.File.name = Log.File.name ↔ dir = "" := by
  have hrelative : Path.isAbsolute Log.File.name = false := by decide
  unfold Path.join
  rw [hrelative]
  constructor
  · intro h
    have hlength := congrArg (fun s => s.toList.length) h
    rw [if_neg (by decide)] at hlength
    split at hlength
    all_goals
      simp only [String.toList_append, List.length_append] at hlength
      refine String.toList_eq_nil_iff.1 (List.eq_nil_of_length_eq_zero ?_)
      omega
  · rintro rfl
    decide

section
variable {r : Request} {t : FileTree} {front back : List (String × String)}

/-- Where the log file is looked for, a variable that is empty is one that is not there. -/
theorem nonempty?_emptyDir [Account] (hnew : ∀ v ∈ front ++ back, v.1 ≠ dirVariable) :
    Environment.nonempty? ⟨front ++ (dirVariable, "") :: back⟩ dirVariable = none ∧
      Environment.nonempty? ⟨front ++ back⟩ dirVariable = none := by
  have hnone : ∀ vars : List (String × String), (∀ v ∈ vars, v.1 ≠ dirVariable) →
      vars.lookup dirVariable = none := fun vars h =>
    List.lookup_eq_none_iff.2 fun v hv => bne_iff_ne.2 (Ne.symm (h v hv))
  have hfront := hnone front fun v hv => hnew v (List.mem_append_left _ hv)
  unfold Environment.nonempty? Environment.get?
  dsimp only
  rw [hnone _ hnew, List.lookup_append, hfront, List.lookup_cons_self]
  exact ⟨rfl, rfl⟩

/-- Settings whose leaves are those of others but for the directory of the log file. -/
theorem logDir_of_leaves {s s' : Settings} {dir : Option String} (hdir : s'.logDir = dir)
    (h : ∀ m ∈ leaves, m.keys ≠ ["log_dir"] → m.get s' = m.get s) :
    s' = { s with logDir := dir } := by
  refine eq_of_leaves ?_
  simp only [leaves, List.forall_mem_cons, List.not_mem_nil, false_implies, implies_true, and_true]
    at h ⊢
  simp only [ne_eq, List.cons.injEq, String.reduceEq, and_true, not_false_eq_true, forall_const,
    not_true_eq_false, false_implies, true_and, reduceCtorEq, and_false] at h
  exact ⟨h.1, hdir, h.2⟩

/-- All layers come to a table, so one key leads through tables. -/
theorem leads_joined (r : Request) (t : FileTree) (env : Environment) (key : String) :
    (joined r t env).Leads [key] := by
  have htable : (joined r t env).IsTable :=
    isTable_laid (fun l hl => (ascending_stack l hl).2) trivial
  revert htable
  cases joined r t env with
  | table o es => exact fun _ d _ => trivial
  | scalar => exact False.elim
  | list => exact False.elim

theorem nonempty?_path_emptyDir [Account] (front back : List (String × String)) :
    Environment.nonempty? ⟨front ++ (dirVariable, "") :: back⟩ pathVariable =
      Environment.nonempty? ⟨front ++ back⟩ pathVariable := by
  unfold Environment.nonempty?
  rw [get?_oneMore front back "" (by decide)]

/-- Where no variable names a directory, the file is the one that a variable names, or lies in the
directory of the settings. -/
theorem logPlace_of_load {env : Environment} (hdir : env.nonempty? dirVariable = none) {s : Settings}
    {src : Sources} (hload : load r t env = .ok (s, src)) : logPlace r t env =
      .ok ((env.nonempty? pathVariable).or (s.logDir.map (Path.join · Log.File.name))) := by
  rw [logPlace, hload]
  dsimp only [Except.map, place?]
  rw [hdir, Option.none_or]

/-- The leaf of `logDir`. -/
def dirLeaf : Leaf Settings := ⟨["log_dir"], Reader.optional Reader.path, (·.logDir)⟩

theorem dirLeaf_mem : dirLeaf ∈ leaves := List.mem_cons_of_mem _ List.mem_cons_self

theorem keysOf_dirVariable : keysOf dirVariable = some dirLeaf.keys := by decide

theorem read_emptyDir : dirLeaf.read (valueOf (dirVariable, "")) = .ok (some "") := rfl

/-- In the settings the empty variable is a directory. -/
theorem load_emptyDir [Account] (hback : Untouched ["log_dir"] back) {s : Settings} {src : Sources}
    (hload : load r t ⟨front ++ back⟩ = .ok (s, src)) :
    load r t ⟨front ++ (dirVariable, "") :: back⟩ = .ok ({ s with logDir := some "" }, src) := by
  obtain ⟨s', hs', hdir, hothers⟩ := load_oneMore dirLeaf_mem keysOf_dirVariable hback
    (leads_joined r t ⟨front ++ back⟩ "log_dir") id hload read_emptyDir
  rw [hs', logDir_of_leaves hdir hothers]

theorem logDir_emptyDir [Account] (hback : Untouched ["log_dir"] back) {s : Settings} {src : Sources}
    (hload : load r t ⟨front ++ (dirVariable, "") :: back⟩ = .ok (s, src)) : s.logDir = some "" := by
  obtain ⟨x, hx, hvalue⟩ := value_of_load dirLeaf_mem keysOf_dirVariable hback
    (leads_joined r t ⟨front ++ back⟩ "log_dir") hload
  obtain rfl : x = valueOf (dirVariable, "") := hx.resolve_right fun hboth => hboth.1
  exact (Except.ok.inj (read_emptyDir.symm.trans hvalue)).symm

/-- An empty value of `dirVariable` is taken for a value of `logDir`: the log file lies in the
directory of the run, whatever the files name and even if they name nothing. -/
theorem emptyDir_displaces [Account] (r : Request) (t : FileTree)
    (front back : List (String × String)) (hnew : ∀ v ∈ front ++ back, v.1 ≠ dirVariable)
    (hback : Untouched ["log_dir"] back) :
    EmptyDir r t ⟨front ++ back⟩ ⟨front ++ (dirVariable, "") :: back⟩ := by
  obtain ⟨hempty, habsent⟩ := nonempty?_emptyDir hnew
  have hpath := nonempty?_path_emptyDir front back
  have hplace : ∀ s src, load r t ⟨front ++ back⟩ = .ok (s, src) →
      logPlace r t ⟨front ++ (dirVariable, "") :: back⟩ =
        .ok (some ((Environment.nonempty? ⟨front ++ back⟩ pathVariable).getD Log.File.name)) := by
    intro s src hload
    have hname : Path.join "" Log.File.name = Log.File.name := (join_name_eq_iff "").2 rfl
    rw [logPlace_of_load hempty (load_emptyDir hback hload), hpath, Option.map_some, hname]
    cases Environment.nonempty? ⟨front ++ back⟩ pathVariable <;> rfl
  refine ⟨fun dir => ?_, fun s src hload => load_emptyDir hback hload,
    fun s src hload => logDir_emptyDir hback hload,
    fun s src hload => logPlace_of_load habsent hload, hplace, fun s src hload => ?_, ?_⟩
  · unfold place?
    rw [hempty, habsent, hpath]
  · rw [hplace s src hload, logPlace_of_load habsent hload]
    cases Environment.nonempty? ⟨front ++ back⟩ pathVariable with
    | some path => simp
    | none =>
      cases s.logDir with
      | none => simp
      | some dir => simpa using eq_comm.trans (join_name_eq_iff dir)
  · rintro runner args tree c rfl hentered hnone s src hload
    rw [prepare_tree runner hentered, hplace s src hload, hnone]
    rfl

end

/-- A file that names a directory for the log file. -/
def logsText : String := "\x7b\"log_dir\":\"logs\"\x7d"

theorem read_logsText : Data.Json.read? logsText = some (.table ()
    [("log_dir", Data.Plain.ofText "logs")]) := by
  cbv

theorem load_logs : load bothFiles (twoFiles upperText logsText) {} =
    .ok ({ logLevel := .warn, logDir := some "logs" },
      sourcesOf bothFiles (twoFiles upperText logsText) {}) := by
  refine (load_eq_ok (readable_twoFiles read_upperText read_logsText)).2 ⟨?_, rfl⟩
  rw [joined, stack_twoFiles read_upperText read_logsText]
  rfl

/-- The empty variable makes a log file where nothing names one, and moves one that a file names. -/
theorem emptyDir_displaces_logs :
    let logs := twoFiles upperText logsText
    let unset : Environment := {}
    let empty : Environment := { vars := [(dirVariable, "")] }
    (∀ v ∈ unset.vars, v.1 ≠ dirVariable) ∧ Untouched ["log_dir"] [] ∧
      EmptyDir (requestIn {} {}) {} unset empty ∧ EmptyDir bothFiles logs unset empty ∧
      logPlace (requestIn {} {}) {} unset = .ok none ∧
      logPlace (requestIn {} {}) {} empty = .ok (some "stylegate.log") ∧
      logPlace bothFiles logs unset = .ok (some "logs/stylegate.log") ∧
      logPlace bothFiles logs empty = .ok (some "stylegate.log") := by
  intro logs unset empty
  have hnew : ∀ v ∈ ([] ++ [] : List (String × String)), v.1 ≠ dirVariable := by simp
  have hback : Untouched ["log_dir"] [] := by simp [Untouched]
  have hnothing := emptyDir_displaces (requestIn {} {}) {} [] [] hnew hback
  have hlogs := emptyDir_displaces bothFiles logs [] [] hnew hback
  have hload : load (requestIn {} {}) {} unset = .ok ({}, {}) := load_empty
  exact ⟨by simp [unset], hback, hnothing, hlogs, hnothing.without _ _ hload,
    hnothing.place _ _ hload, hlogs.without _ _ load_logs, hlogs.place _ _ load_logs⟩

end BuildGate.Gate
