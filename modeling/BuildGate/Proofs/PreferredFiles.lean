import BuildGate.Proofs.FoundFiles

/-!
# Preferred files

A directory may have several files of one stem, whose names end in different extensions. The
extensions stand in an order of preference, and the two searches go by it in opposite ways. Of the
user's files the first one is read, and no other. Of the files of a project all are read in this
order, and each is laid over the ones before it, so a value comes from the last file that has it.

**Results.**
* `userFile?_eq`, `filesIn_eq_stems`: the files that are found, by their stems.
* `definitions_user`, `definitions_stem`: what the layers have under keys that no other file has.
* `load_preference`: which file a value comes from, and when that is the preferred one.
-/
namespace BuildGate.Settings

open BuildGate.FileTree BuildGate.Path Data

variable {r : Request} {t : FileTree} {env : Environment} {dir stem : String} {keys : List String}
  {s : Settings} {src : Sources} {f : Leaf Settings}

/-! ## Files of one stem -/

/-- The stems of the files of a project, the hidden one of less weight first. -/
def stems : List String := ["." ++ appName, appName]

/-- The files of `stem` in `dir`, in the order of `extensions`. -/
def stemFiles (t : FileTree) (dir stem : String) : List String :=
  (extensions.map fun e => join dir (stem ++ "." ++ e)).filter t.isFile

theorem userFile?_eq (t : FileTree) (env : Environment) :
    userFile? t env = (userDir? env).bind fun dir => (stemFiles t dir "config").head? := by
  simp only [stemFiles, List.head?_filter]
  rfl

theorem filesIn_eq_stems (t : FileTree) (dir : String) :
    filesIn t dir = stemFiles t dir ("." ++ appName) ++ stemFiles t dir appName := by
  rw [stemFiles, stemFiles, ← List.filter_append]
  rfl

/-! ## What layers have under keys -/

/-- What stands at `keys` in the lowest of `layers` that has something there. -/
def foremost (keys : List String) (layers : List (Datum Origin)) : Option (Datum Origin) :=
  (definitions keys layers).head?

/-- Neither the files `paths` nor the variables have anything at `keys`. -/
structure Silent (t : FileTree) (env : Environment) (keys : List String) (paths : List String) :
    Prop where
  files : definitions keys (layersOf t paths) = []
  environment : (environmentLayer env).at? keys = none

theorem layersOf_cons {u : String} {l : Datum Origin} (hl : fileLayer t u = .ok l)
    (paths : List String) : layersOf t (u :: paths) = l :: layersOf t paths := by
  simp [layersOf, hl, Except.toOption]

theorem definitions_append (keys : List String) (t : FileTree) (a b : List String) :
    definitions keys (layersOf t (a ++ b)) =
      definitions keys (layersOf t a) ++ definitions keys (layersOf t b) := by
  simp only [definitions, layersOf, List.filterMap_append]

/-- Without the variables only the files of a request count. -/
theorem definitions_stack (h : (environmentLayer env).at? keys = none) :
    definitions keys (stack r t env) = definitions keys (layersOf t (pathsOf r t env)) := by
  rw [stack, definitions, List.filterMap_append, List.filterMap_cons, h]
  exact List.append_nil _

theorem decisive_congr {layers layers' : List (Datum Origin)}
    (h : definitions keys layers = definitions keys layers') :
    decisive keys layers = decisive keys layers' := by
  rw [decisive, decisive, standing, standing, topmost, topmost, h]

/-- Something counts exactly if some layer has something. -/
theorem isSome_decisive (keys : List String) (layers : List (Datum Origin)) :
    (decisive keys layers).isSome = (foremost keys layers).isSome := by
  have htop : (topmost keys layers).isSome = (foremost keys layers).isSome := by
    rw [topmost, foremost]
    cases definitions keys layers <;> simp
  rw [← htop, decisive]
  split
  · obtain heq | ⟨o, es, es', hstanding, htopmost⟩ := standing_of_topmost keys layers
    · rw [heq]
    · rw [hstanding, htopmost]
      rfl
  · rfl

/-- What counts in one layer is what it has. -/
theorem decisive_single (keys : List String) (l : Datum Origin) :
    decisive keys [l] = l.at? keys := by
  cases h : l.at? keys <;> simp [decisive, standing, topmost, definitions, h]

/-! ## Which file counts -/

theorem definitions_user {u : String} (huser : (sourcesOf r t env).userFile = some u)
    (h : Silent t env keys ((sourcesOf r t env).projectFiles ++ r.explicitFiles)) :
    definitions keys (stack r t env) = definitions keys (layersOf t [u]) := by
  have hpaths : pathsOf r t env = [u] ++ ((sourcesOf r t env).projectFiles ++ r.explicitFiles) := by
    rw [pathsOf, huser, List.append_assoc]
    rfl
  rw [definitions_stack h.environment, hpaths, definitions_append, h.files, List.append_nil]

theorem definitions_stem (hfound : (sourcesOf r t env).projectFiles = filesIn t dir)
    (hstem : stem ∈ stems)
    (h : Silent t env keys ((sourcesOf r t env).userFile.toList ++
      (stems.filter (· ≠ stem)).flatMap (stemFiles t dir) ++ r.explicitFiles)) :
    definitions keys (stack r t env) = definitions keys (layersOf t (stemFiles t dir stem)) := by
  have hfiles := h.files
  rw [definitions_append, definitions_append, List.append_eq_nil_iff, List.append_eq_nil_iff]
    at hfiles
  obtain ⟨⟨huser, hother⟩, hexplicit⟩ := hfiles
  change definitions keys (layersOf t (sourcesOf r t env).explicitFiles) = [] at hexplicit
  rw [definitions_stack h.environment, pathsOf, definitions_append, definitions_append, huser,
    hexplicit, hfound, filesIn_eq_stems, definitions_append, List.nil_append, List.append_nil]
  simp only [stems, List.mem_cons, List.not_mem_nil, or_false] at hstem
  rcases hstem with hstem | hstem <;> subst hstem
  · have hplain : definitions keys (layersOf t (stemFiles t dir appName)) = [] := by
      simpa [stems, show appName ≠ "." ++ appName by decide] using hother
    rw [hplain, List.append_nil]
  · have hdotted : definitions keys (layersOf t (stemFiles t dir ("." ++ appName))) = [] := by
      simpa [stems, show "." ++ appName ≠ appName by decide] using hother
    rw [hdotted, List.nil_append]

/-! ## The preferred file -/

/-- Which files the values of `s` come from. A value keeps the order of `extensions` if it is the
`foremost` one that the files of its stem have. -/
structure Preference (r : Request) (t : FileTree) (env : Environment) (s : Settings) : Prop where
  /-- Of the user's files the first one is read alone. A value that it has keeps the order; where it
  has none the default stands, which keeps the order if the other files have none or the same. -/
  user : ∀ dir u rest, r.user = true → userDir? env = some dir →
    stemFiles t dir "config" = u :: rest →
    (sourcesOf r t env).userFile = some u ∧ ∃ l, fileLayer t u = .ok l ∧ ∀ f ∈ leaves,
      Silent t env f.keys ((sourcesOf r t env).projectFiles ++ r.explicitFiles) →
        f.Holds {} s (l.at? f.keys) ∧
        (f.Holds {} s (foremost f.keys (layersOf t (u :: rest))) ↔
          (l.at? f.keys).isSome ∨ f.Holds {} {} (foremost f.keys (layersOf t rest)))
  /-- Of the files of a project the last one that has a value counts, apart from joined tables. So
  the order is kept exactly where the first value and the one that counts are read alike. -/
  project : ∀ dir, (sourcesOf r t env).projectFiles = filesIn t dir → ∀ stem ∈ stems, ∀ f ∈ leaves,
    Silent t env f.keys ((sourcesOf r t env).userFile.toList ++
      (stems.filter (· ≠ stem)).flatMap (stemFiles t dir) ++ r.explicitFiles) →
    f.Holds {} s (decisive f.keys (layersOf t (stemFiles t dir stem))) ∧
    ((f.keys ∈ choices → ¬ Joins f.keys (layersOf t (stemFiles t dir stem))) →
      f.Holds {} s (topmost f.keys (layersOf t (stemFiles t dir stem)))) ∧
    (f.Holds {} s (foremost f.keys (layersOf t (stemFiles t dir stem))) ↔
      (foremost f.keys (layersOf t (stemFiles t dir stem))).map f.read =
        (decisive f.keys (layersOf t (stemFiles t dir stem))).map f.read)

/-- A value is the foremost one if that is read like the one that counts. -/
theorem holds_foremost {layers : List (Datum Origin)}
    (h : f.Holds {} s (decisive f.keys layers)) : f.Holds {} s (foremost f.keys layers) ↔
      (foremost f.keys layers).map f.read = (decisive f.keys layers).map f.read := by
  have hsome := isSome_decisive f.keys layers
  cases hfirst : foremost f.keys layers with
  | none =>
    rw [hfirst, Option.isSome_none, Option.isSome_eq_false_iff, Option.isNone_iff_eq_none] at hsome
    rw [hsome] at h ⊢
    exact iff_of_true h rfl
  | some first =>
    rw [hfirst, Option.isSome_some, Option.isSome_iff_exists] at hsome
    obtain ⟨d, hd⟩ := hsome
    rw [hd] at h ⊢
    have hread : f.read d = .ok (f.get s) := h
    simp only [Option.map_some, Option.some.injEq, hread]
    exact Iff.rfl

/-- With a file that is read alone the order is kept if that has the value. -/
theorem holds_foremost_cons {u : String} {rest : List String} {l : Datum Origin}
    (hl : fileLayer t u = .ok l) (h : f.Holds {} s (l.at? f.keys)) :
    f.Holds {} s (foremost f.keys (layersOf t (u :: rest))) ↔
      (l.at? f.keys).isSome ∨ f.Holds {} {} (foremost f.keys (layersOf t rest)) := by
  rw [layersOf_cons hl]
  cases hat : l.at? f.keys with
  | some d =>
    rw [hat] at h
    refine iff_of_true ?_ (.inl rfl)
    simpa [foremost, definitions, hat] using h
  | none =>
    rw [hat] at h
    have hdefault : f.get s = f.get {} := h
    have hrest : foremost f.keys (l :: layersOf t rest) = foremost f.keys (layersOf t rest) := by
      simp [foremost, definitions, hat]
    rw [hrest]
    cases foremost f.keys (layersOf t rest) <;> simp [Leaf.Holds, hdefault]

/-- With nothing else that has a value (`Silent`), it comes from the first of the user's files, and
from the last one of a project's files with the same stem. -/
theorem load_preference (h : Sound r t env) (hload : load r t env = .ok (s, src)) :
    Preference r t env s where
  user dir u rest hr hdir hfiles := by
    have huser : (sourcesOf r t env).userFile = some u := by
      simp [sourcesOf, hr, userFile?_eq, hdir, hfiles]
    obtain ⟨l, hl⟩ := h.files u (by simp [pathsOf, huser])
    refine ⟨huser, l, hl, fun f hf hsilent => ?_⟩
    have hholds := holds_of_load h hload f hf
    rw [decisive_congr (definitions_user huser hsilent)] at hholds
    have hlayers : layersOf t [u] = [l] := layersOf_cons hl []
    rw [hlayers, decisive_single] at hholds
    exact ⟨hholds, holds_foremost_cons hl hholds⟩
  project dir hfound stem hstem f hf hsilent := by
    have hholds := holds_of_load h hload f hf
    rw [decisive_congr (definitions_stem hfound hstem hsilent)] at hholds
    refine ⟨hholds, fun hjoins => ?_, holds_foremost hholds⟩
    rwa [decisive_eq_topmost hjoins] at hholds

/-! ## Two levels -/

/-- The text of the preferred file. -/
def warnText : String := "log_level = \"warn\"\n"

def errorText : String := "\x7b\"log_level\":\"error\"\x7d"

/-- A directory with two files of a project. -/
def twoLevels : FileTree where
  entries :=
    [(["proj"], .dir), (["proj", "stylegate.toml"], .file warnText.toUTF8),
      (["proj", "stylegate.json"], .file errorText.toUTF8)]

theorem read_warnText :
    Toml.read? warnText = some (.table () [("log_level", Plain.ofText "warn")]) := by
  cbv

theorem read_errorText :
    Json.read? errorText = some (.table () [("log_level", Plain.ofText "error")]) := by
  cbv

/-- Asks for the files of that directory alone. -/
def fromProj : Request := { user := false, search := some "/proj" }

theorem stemFiles_twoLevels :
    stemFiles twoLevels "/proj" appName = ["/proj/stylegate.toml", "/proj/stylegate.json"] ∧
      stemFiles twoLevels "/proj" ("." ++ appName) = [] := by
  constructor
  · exact filter_isFile_of_within 10 ["/proj/stylegate.toml", "/proj/stylegate.json"]
      (by decide +kernel)
  · exact filter_isFile_of_within 10 [] (by decide +kernel)

theorem projectFiles_twoLevels :
    (sourcesOf fromProj twoLevels {}).projectFiles = filesIn twoLevels "/proj" := by
  refine searchUp_found ?_
  rw [filesIn_eq_stems, stemFiles_twoLevels.1, stemFiles_twoLevels.2]
  exact List.cons_ne_nil _ _

theorem pathsOf_twoLevels :
    pathsOf fromProj twoLevels {} = ["/proj/stylegate.toml", "/proj/stylegate.json"] := by
  rw [pathsOf, projectFiles_twoLevels, filesIn_eq_stems, stemFiles_twoLevels.1,
    stemFiles_twoLevels.2]
  rfl

def warnLayer : Datum Origin :=
  .table (.file "/proj/stylegate.toml" .toml)
    [("log_level", (Plain.ofText "warn").retag (.file "/proj/stylegate.toml" .toml))]

def errorLayer : Datum Origin :=
  .table (.file "/proj/stylegate.json" .json)
    [("log_level", (Plain.ofText "error").retag (.file "/proj/stylegate.json" .json))]

theorem fileLayer_twoLevels :
    fileLayer twoLevels "/proj/stylegate.toml" = .ok warnLayer ∧
      fileLayer twoLevels "/proj/stylegate.json" = .ok errorLayer := by
  have hwarn : twoLevels.readText "/proj/stylegate.toml" = .ok warnText :=
    readText_of_within 10 (by rfl)
  have herror : twoLevels.readText "/proj/stylegate.json" = .ok errorText :=
    readText_of_within 10 (by rfl)
  exact ⟨fileLayer_eq_ok hwarn read_warnText, fileLayer_eq_ok herror read_errorText⟩

theorem layersOf_twoLevels :
    layersOf twoLevels ["/proj/stylegate.toml", "/proj/stylegate.json"] =
      [warnLayer, errorLayer] := by
  rw [layersOf_cons fileLayer_twoLevels.1, layersOf_cons fileLayer_twoLevels.2]
  rfl

/-- The level comes from the last file, and not from the preferred one. -/
theorem load_preference_levels :
    Sound fromProj twoLevels {} ∧
      load fromProj twoLevels {} =
        .ok ({ logLevel := .error }, sourcesOf fromProj twoLevels {}) ∧
      ∃ f ∈ leaves, f.keys = ["log_level"] ∧
        ¬ f.Holds {} { logLevel := .error }
          (foremost f.keys (layersOf twoLevels (stemFiles twoLevels "/proj" appName))) := by
  have hstack := layersOf_twoLevels
  rw [← pathsOf_twoLevels] at hstack
  have hreadable : ∀ p ∈ pathsOf fromProj twoLevels {}, ∃ l, fileLayer twoLevels p = .ok l := by
    rw [pathsOf_twoLevels, List.forall_mem_cons, List.forall_mem_singleton]
    exact ⟨⟨_, fileLayer_twoLevels.1⟩, ⟨_, fileLayer_twoLevels.2⟩⟩
  have hsound : Sound fromProj twoLevels {} := by
    refine ⟨hreadable, ?_⟩
    rw [stack, hstack]
    intro l hl keys hkeys d hd
    fin_cases hl <;> fin_cases hkeys <;> cases hd
  have hload : load fromProj twoLevels {} =
      .ok ({ logLevel := .error }, sourcesOf fromProj twoLevels {}) := by
    refine (load_eq_ok hreadable).2 ⟨?_, rfl⟩
    rw [joined, stack, hstack]
    rfl
  have hothers : (stems.filter (· ≠ appName)).flatMap (stemFiles twoLevels "/proj") = [] := by
    rw [show stems.filter (· ≠ appName) = ["." ++ appName] by decide, List.flatMap_singleton]
    exact stemFiles_twoLevels.2
  have hsilent : Silent twoLevels {} ["log_level"]
      ((sourcesOf fromProj twoLevels {}).userFile.toList ++
        (stems.filter (· ≠ appName)).flatMap (stemFiles twoLevels "/proj") ++
        fromProj.explicitFiles) := by
    rw [hothers]
    exact ⟨rfl, rfl⟩
  obtain ⟨-, -, horder⟩ := (load_preference hsound hload).project "/proj" projectFiles_twoLevels
    appName (by decide) _ List.mem_cons_self hsilent
  refine ⟨hsound, hload, _, List.mem_cons_self, rfl, fun hfirst => ?_⟩
  have hread := horder.1 hfirst
  rw [stemFiles_twoLevels.1, layersOf_twoLevels] at hread
  let read := Reader.choice "LogLevel" Reader.levels
  have hwarn : (foremost ["log_level"] [warnLayer, errorLayer]).map read = some (.ok .warn) := rfl
  have herror : (decisive ["log_level"] [warnLayer, errorLayer]).map read = some (.ok .error) := by
    rw [decisive, if_pos (by decide)]
    rfl
  cases hwarn.symm.trans (hread.trans herror)

end BuildGate.Settings
