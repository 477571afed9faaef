import BuildGate.Proofs.BoundedWalk
import BuildGate.Proofs.Layers
import Mathlib

/-!
# The last definition wins

Layers that can be read and have tables for the sections of the settings come down to their leaves.
For each of them counts what the highest layer has under its keys, or the default where no layer has
anything, and whatever else the layers hold makes no difference. The settings are loaded exactly if
every value that counts can be read, so a wrong value that a higher layer replaces does no harm.

Two of the leaves are words, and a table stands for a word by its first key. Two tables that come one
over the other are joined there like any others, so that the first key of both counts.

**Results.**
* `decisive_eq_topmost`: what counts stands in the highest layer, apart from joined tables.
* `holds_of_load`, `exists_load`: the values of what is loaded, and when it is.
* `load_of_decisive`: nothing else makes a difference.
* `load_lastWins`: all of it for every request, tree and environment.
* `modes_joined`: two tables that stand for the mode.
-/
namespace BuildGate.Settings

open Data

/-! ## What is loaded -/

/-- The keys under which `Settings` have tables. -/
def sections : List (List String) := [["style"], ["lint"], ["test"], ["coverage"], ["coverage", "upload"]]

/-- The keys of words, for which a table with one entry may stand. -/
def choices : List (List String) := [["log_level"], ["style", "mode"]]

/-- What counts for the leaf with these `keys`: the `topmost` value, or for `choices` the `standing`
one, since tables that stand for words are joined. -/
def decisive (keys : List String) (layers : List (Datum Origin)) : Option (Datum Origin) :=
  if keys ∈ choices then standing keys layers else topmost keys layers

/-- Every file of `r` can be read, and every layer has tables under `sections`. -/
structure Sound (r : Request) (t : FileTree) (env : Environment) : Prop where
  files : ∀ p ∈ pathsOf r t env, ∃ l, fileLayer t p = .ok l
  tables : ∀ l ∈ stack r t env, ∀ keys ∈ sections, ∀ d, l.at? keys = some d → d.IsTable

section
variable {r : Request} {t : FileTree} {env : Environment} {keys : List String}

theorem front_mem_sections : ∀ l ∈ leaves, ∀ n < l.keys.length,
    l.keys.take n = [] ∨ l.keys.take n ∈ sections := by decide

theorem keys_ne_nil : ∀ f ∈ leaves, f.keys ≠ [] := by decide

/-- The keys of every leaf lead through tables in every layer. -/
theorem Sound.leads (h : Sound r t env) {f : Leaf Settings} (hf : f ∈ leaves) :
    ∀ l ∈ stack r t env, l.Leads f.keys := by
  intro l hl
  rw [Datum.leads_iff]
  intro front k back hkeys x hx
  have htake : f.keys.take front.length = front := by rw [hkeys, List.take_left]
  have hlength : front.length < f.keys.length := by simp [hkeys]
  have hfront := front_mem_sections f hf front.length hlength
  rw [htake] at hfront
  obtain rfl | hmem := hfront
  · cases hx
    exact (ascending_stack l hl).2
  · exact h.tables l hl front hmem x hx

/-- Apart from words, no value is read from a table. -/
theorem read_table : ∀ f ∈ leaves, f.keys ∉ choices → ∀ o es es',
    f.read (.table o es) = f.read (.table o es') := by
  simp only [leaves, choices, List.forall_mem_cons, List.not_mem_nil, false_implies, implies_true,
    and_true]
  refine ⟨fun h => absurd (by decide) h, fun _ _ _ _ => rfl, fun _ _ _ _ => rfl,
    fun h => absurd (by decide) h, ?_⟩
  and_intros
  all_goals exact fun _ _ _ _ => rfl

theorem read_decisive {f : Leaf Settings} (hf : f ∈ leaves) (layers : List (Datum Origin)) :
    (standing f.keys layers).map f.read = (decisive f.keys layers).map f.read := by
  unfold decisive
  split
  · rfl
  next hkeys =>
    obtain heq | ⟨o, es, es', hstanding, htop⟩ := standing_of_topmost f.keys layers
    · rw [heq]
    · rw [hstanding, htop]
      exact congrArg some (read_table f hf hkeys o es es')

theorem decisive_eq_topmost {layers : List (Datum Origin)}
    (h : keys ∈ choices → ¬ Joins keys layers) : decisive keys layers = topmost keys layers := by
  unfold decisive
  split
  next hkeys => exact standing_eq_topmost (h hkeys)
  · rfl

theorem at?_joined (h : Sound r t env) {f : Leaf Settings} (hf : f ∈ leaves) :
    (joined r t env).at? f.keys = standing f.keys (stack r t env) ∧ (joined r t env).Leads f.keys := by
  obtain ⟨hat, hleads⟩ := at?_laid (fun l hl => (ascending_stack l hl).1) (h.leads hf)
    (leads_empty .builtin f.keys)
  rw [at?_empty .builtin (keys_ne_nil f hf)] at hat
  exact ⟨hat, hleads⟩

/-- Whether settings have the value of a leaf comes down to how what stands there is read. -/
theorem holds_congr {f : Leaf Settings} {start s : Settings} {found found' : Option (Datum Origin)}
    (h : found.map f.read = found'.map f.read) : f.Holds start s found ↔ f.Holds start s found' := by
  cases found with
  | none =>
    cases found' with
    | none => exact Iff.rfl
    | some d => cases h
  | some d =>
    cases found' with
    | none => cases h
    | some d' =>
      have hread : f.read d = f.read d' := Option.some.inj h
      rw [Leaf.Holds, Leaf.Holds, hread]

theorem fits_congr {f : Leaf Settings} {found found' : Option (Datum Origin)}
    (h : found.map f.read = found'.map f.read) : f.Fits found ↔ f.Fits found' := by
  cases found with
  | none =>
    cases found' with
    | none => exact Iff.rfl
    | some d => cases h
  | some d =>
    cases found' with
    | none => cases h
    | some d' =>
      have hread : f.read d = f.read d' := Option.some.inj h
      simp only [Leaf.Fits, Option.some.injEq, forall_eq', hread]

/-- Each value of settings that are loaded is the one that counts. -/
theorem holds_of_load (h : Sound r t env) {s : Settings} {src : Sources}
    (hload : load r t env = .ok (s, src)) :
    ∀ f ∈ leaves, f.Holds {} s (decisive f.keys (stack r t env)) := by
  intro f hf
  have hholds := settles_leaves.holds _ s ascending_joined (fun f hf => (at?_joined h hf).2)
    ((load_eq_ok h.files).1 hload).1 f hf
  rw [(at?_joined h hf).1] at hholds
  exact (holds_congr (read_decisive hf _)).1 hholds

/-- Settings are loaded if every value that counts can be read. -/
theorem exists_load (h : Sound r t env)
    (hfits : ∀ f ∈ leaves, f.Fits (decisive f.keys (stack r t env))) :
    ∃ s, load r t env = .ok (s, sourcesOf r t env) := by
  obtain ⟨s, hs⟩ := settles_leaves.reads _ ascending_joined (fun f hf => (at?_joined h hf).2)
    fun f hf => by
      rw [(at?_joined h hf).1]
      exact (fits_congr (read_decisive hf _)).2 (hfits f hf)
  exact ⟨s, (load_eq_ok h.files).2 ⟨hs, rfl⟩⟩

end

/-- What `load` makes of the layers `stack r t env`, if these are `Sound`. -/
structure LastWins (r : Request) (t : FileTree) (env : Environment) : Prop where
  /-- Each value is read from what counts for it, or is the default where nothing does. -/
  values : ∀ s src, load r t env = .ok (s, src) → src = sourcesOf r t env ∧
    ∀ f ∈ leaves, f.Holds {} s (decisive f.keys (stack r t env))
  fails : (∃ e, load r t env = .error e) ↔
    ∃ f ∈ leaves, ∃ d e, decisive f.keys (stack r t env) = some d ∧ f.read d = .error e
  /-- What counts stands in the highest layer, unless two tables stand for a word there. -/
  highest : ∀ keys, (keys ∈ choices → ¬ Joins keys (stack r t env)) →
    decisive keys (stack r t env) = topmost keys (stack r t env)
  /-- Other keys, and other layers below, make no difference. -/
  alone : ∀ r' t' env', Sound r' t' env' → ∀ s s' src src', load r t env = .ok (s, src) →
    load r' t' env' = .ok (s', src') → ∀ f ∈ leaves,
      decisive f.keys (stack r' t' env') = decisive f.keys (stack r t env) → f.get s' = f.get s
  determined : ∀ r' t' env', Sound r' t' env' →
    (∀ f ∈ leaves, decisive f.keys (stack r' t' env') = decisive f.keys (stack r t env)) →
      (load r' t' env').toOption.map Prod.fst = (load r t env).toOption.map Prod.fst
  /-- The layer of the variables has the value of each under its keys, and nothing else. -/
  environment : PrefixFree env →
    (∀ v ∈ env.vars, ∀ keys, keysOf v.1 = some keys →
      (environmentLayer env).at? keys = some (valueOf v)) ∧
    ∀ keys d, keys ≠ [] → (environmentLayer env).at? keys = some d →
      ∃ v ∈ env.vars, ∃ ks, keysOf v.1 = some ks ∧ Touches ks keys

theorem Leaf.Holds.unique {f : Leaf Settings} {start s s' : Settings}
    {found : Option (Datum Origin)} (h : f.Holds start s found) (h' : f.Holds start s' found) :
    f.get s' = f.get s := by
  cases found with
  | none => exact h'.trans h.symm
  | some d => exact Except.ok.inj (h'.symm.trans h)

/-- Settings that are loaded are loaded by every request for which the same counts. -/
theorem load_of_decisive {r r' : Request} {t t' : FileTree} {env env' : Environment}
    (h : Sound r t env) (h' : Sound r' t' env')
    (heq : ∀ f ∈ leaves, decisive f.keys (stack r' t' env') = decisive f.keys (stack r t env))
    {s : Settings} {src : Sources} (hload : load r t env = .ok (s, src)) :
    load r' t' env' = .ok (s, sourcesOf r' t' env') := by
  have hholds := holds_of_load h hload
  obtain ⟨s', hs'⟩ := exists_load h' fun f hf => (heq f hf).symm ▸ (hholds f hf).fits
  have hsame : s' = s := eq_of_leaves fun f hf => by
    have hholds' := holds_of_load h' hs' f hf
    rw [heq f hf] at hholds'
    exact (hholds f hf).unique hholds'
  rw [hs', hsame]

theorem load_lastWins (r : Request) (t : FileTree) (env : Environment) (h : Sound r t env) :
    LastWins r t env where
  values s src hload := ⟨((load_eq_ok h.files).1 hload).2, holds_of_load h hload⟩
  fails := by
    constructor
    · rintro ⟨e, he⟩
      by_contra hnone
      obtain ⟨s, hs⟩ := exists_load h fun f hf d hd => by
        cases hread : f.read d with
        | ok a => exact ⟨a, rfl⟩
        | error e => exact absurd ⟨f, hf, d, e, hd, hread⟩ hnone
      rw [hs] at he
      cases he
    · rintro ⟨f, hf, d, e, hd, hread⟩
      cases hload : load r t env with
      | error e => exact ⟨e, rfl⟩
      | ok out =>
        have hholds := holds_of_load h (hload : load r t env = .ok (out.1, out.2)) f hf
        rw [hd] at hholds
        cases hholds.symm.trans hread
  highest keys hkeys := decisive_eq_topmost hkeys
  alone r' t' env' h' s s' src src' hload hload' f hf heq := by
    have hholds' := holds_of_load h' hload' f hf
    rw [heq] at hholds'
    exact (holds_of_load h hload f hf).unique hholds'
  determined r' t' env' h' heq := by
    cases hload : load r t env with
    | ok out =>
      rw [load_of_decisive h h' heq (hload : load r t env = .ok (out.1, out.2))]
      rfl
    | error e =>
      cases hload' : load r' t' env' with
      | error e' => rfl
      | ok out' =>
        rw [load_of_decisive h' h (fun f hf => (heq f hf).symm)
          (hload' : load r' t' env' = .ok (out'.1, out'.2))] at hload
        cases hload
  environment hfree := by
    refine ⟨fun v hv keys hkeys => at?_environmentLayer hfree hv hkeys, fun keys d hne hd => ?_⟩
    by_contra hnone
    rw [at?_environmentLayer_none hne fun ks hks htouch => ?_] at hd
    · cases hd
    · obtain ⟨v, hv, hvkeys⟩ := List.mem_filterMap.1 hks
      exact hnone ⟨v, hv, ks, hvkeys, htouch⟩

/-! ## Two files -/

/-- A directory with two files. -/
def twoFiles (a b : String) : FileTree where
  entries := [(["a.json"], .file a.toUTF8), (["b.json"], .file b.toUTF8)]

/-- Asks for both files, the second of which weighs more. -/
def bothFiles : Request := { user := false, explicitFiles := ["/a.json", "/b.json"] }

theorem readText_twoFiles (a b : String) : (twoFiles a b).readText "/a.json" = .ok a ∧
    (twoFiles a b).readText "/b.json" = .ok b :=
  ⟨FileTree.readText_of_within 10 (by rfl), FileTree.readText_of_within 10 (by rfl)⟩

theorem fileLayer_eq_ok {t : FileTree} {path text : String} {d : Plain}
    (htext : t.readText path = .ok text) (hd : parse? (formatOf path) text = some d) :
    fileLayer t path = .ok (d.retag (.file path (formatOf path))) := by
  simp only [fileLayer, htext, hd]

section
variable {a b : String} {d e : Plain} (ha : Data.Json.read? a = some d)
  (hb : Data.Json.read? b = some e)

include ha hb

theorem fileLayer_twoFiles :
    fileLayer (twoFiles a b) "/a.json" = .ok (d.retag (.file "/a.json" .json)) ∧
      fileLayer (twoFiles a b) "/b.json" = .ok (e.retag (.file "/b.json" .json)) :=
  ⟨fileLayer_eq_ok (readText_twoFiles a b).1 ha, fileLayer_eq_ok (readText_twoFiles a b).2 hb⟩

theorem stack_twoFiles : stack bothFiles (twoFiles a b) {} =
    [d.retag (.file "/a.json" .json), e.retag (.file "/b.json" .json), .table .environment []] := by
  obtain ⟨hla, hlb⟩ := fileLayer_twoFiles ha hb
  rw [stack, show pathsOf bothFiles (twoFiles a b) {} = ["/a.json", "/b.json"] from rfl]
  simp only [layersOf, List.filterMap_cons, List.filterMap_nil, hla, hlb, Except.toOption]
  rfl

theorem readable_twoFiles : ∀ p ∈ pathsOf bothFiles (twoFiles a b) {},
    ∃ l, fileLayer (twoFiles a b) p = .ok l := by
  obtain ⟨hla, hlb⟩ := fileLayer_twoFiles ha hb
  rw [show pathsOf bothFiles (twoFiles a b) {} = ["/a.json", "/b.json"] from rfl]
  simp only [List.forall_mem_cons, List.not_mem_nil, false_implies, implies_true, and_true]
  exact ⟨⟨_, hla⟩, ⟨_, hlb⟩⟩

end

/-- A level that cannot be read, and a mode. -/
def lowerText : String := "\x7b\"log_level\":7,\"style\":\x7b\"mode\":\"all-occurrences\"\x7d\x7d"

theorem read_lowerText : Data.Json.read? lowerText = some (.table ()
    [("log_level", .scalar () (.unsigned 7)),
      ("style", .table () [("mode", Plain.ofText "all-occurrences")])]) := by
  cbv

def upperText : String := "\x7b\"log_level\":\"warn\"\x7d"

theorem read_upperText : Data.Json.read? upperText = some (.table ()
    [("log_level", Plain.ofText "warn")]) := by
  cbv

theorem load_lastWins_level : Sound bothFiles (twoFiles lowerText upperText) {} ∧
    LastWins bothFiles (twoFiles lowerText upperText) {} := by
  have hsound : Sound bothFiles (twoFiles lowerText upperText) {} := by
    refine ⟨readable_twoFiles read_lowerText read_upperText, ?_⟩
    rw [stack_twoFiles read_lowerText read_upperText]
    intro l hl keys hkeys d hd
    fin_cases hl <;> fin_cases hkeys <;> cases hd
    trivial
  exact ⟨hsound, load_lastWins _ _ _ hsound⟩

/-- A file that sets the mode by a table. -/
def allText : String := "\x7b\"style\":\x7b\"mode\":\x7b\"all-occurrences\":null\x7d\x7d\x7d"

def firstText : String := "\x7b\"style\":\x7b\"mode\":\x7b\"first-match\":null\x7d\x7d\x7d"

/-- A mode in a table, as data. -/
def modeData (mode : String) : Plain :=
  .table () [("style", .table () [("mode", .table () [(mode, Plain.null)])])]

theorem read_allText : Data.Json.read? allText = some (modeData "all-occurrences") := by
  cbv

theorem read_firstText : Data.Json.read? firstText = some (modeData "first-match") := by
  cbv

/-- Where two tables stand for the mode, the first key of both counts, not the one in the highest
layer. -/
theorem modes_joined :
    let t := twoFiles allText firstText
    Sound bothFiles t {} ∧
      (∃ d, topmost ["style", "mode"] (stack bothFiles t {}) = some d ∧
        modeReader d = .ok .firstMatch) ∧
      load bothFiles t {} =
        .ok ({ style := { mode := .allOccurrences } }, sourcesOf bothFiles t {}) := by
  have hstack := stack_twoFiles read_allText read_firstText
  have hreadable := readable_twoFiles read_allText read_firstText
  refine ⟨⟨hreadable, ?_⟩, ⟨_, by rw [hstack]; rfl, rfl⟩, ?_⟩
  · rw [hstack]
    intro l hl keys hkeys d hd
    fin_cases hl <;> fin_cases hkeys <;> cases hd <;> trivial
  · refine (load_eq_ok hreadable).2 ⟨?_, rfl⟩
    rw [joined, hstack]
    rfl

end BuildGate.Settings
