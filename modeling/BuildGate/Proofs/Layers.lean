import BuildGate.Proofs.AscendingData
import BuildGate.Proofs.Records
import BuildGate.Settings.Load

/-!
# Layers of settings

The settings are read from what is left when layers have been laid over each other: those of files,
and the layer of the environment, which is made of one layer for each variable. Under keys that lead
through tables in every layer stands what the layers have there, laid over each other, and that is
the value of the highest one unless it is a table over a table.

**Results.**
* `standing_eq_topmost`, `standing_of_topmost`: the values of several layers and the topmost one.
* `at?_laid`: what stands under keys when layers have been laid over each other.
* `layFiles_eq_ok`: files that can be read are laid over each other.
* `at?_environmentLayer`, `at?_environmentLayer_none`: what the variables put where.
* `load_eq_ok`: what is loaded is read from all layers.
-/
namespace BuildGate.Settings

open Data

/-! ## Values of several layers -/

section
variable {keys : List String} {layers : List (Datum Origin)}

/-- What `layers` have at `keys`, that of more weight last. -/
def definitions (keys : List String) (layers : List (Datum Origin)) : List (Datum Origin) :=
  layers.filterMap (·.at? keys)

/-- What stands at `keys` in the highest of `layers` that has something there. -/
def topmost (keys : List String) (layers : List (Datum Origin)) : Option (Datum Origin) :=
  (definitions keys layers).getLast?

/-- What `layers` have at `keys`, laid over each other. -/
def standing (keys : List String) (layers : List (Datum Origin)) : Option (Datum Origin) :=
  (definitions keys layers).foldl (fun below d => Datum.upon below (some d)) none

/-- The two highest of `layers` that have something at `keys` have tables there. -/
def Joins (keys : List String) (layers : List (Datum Origin)) : Prop :=
  ∃ front a b, definitions keys layers = front ++ [a, b] ∧ a.IsTable ∧ b.IsTable

theorem isTable_laidOver (a b : Datum Origin) : (a.laidOver b).IsTable ↔ b.IsTable := by
  cases b with
  | table => cases a <;> exact Iff.rfl
  | scalar => exact Iff.rfl
  | list => exact Iff.rfl

theorem tag_laidOver (a b : Datum Origin) : (a.laidOver b).tag = b.tag := by
  cases b with
  | table => cases a <;> rfl
  | scalar => rfl
  | list => rfl

/-- The values laid over each other are the last one, or else a table like the last one. -/
theorem foldl_upon (front : List (Datum Origin)) (b : Datum Origin) :
    ∃ d, (front ++ [b]).foldl (fun below d => Datum.upon below (some d)) none = some d ∧
      (d.IsTable ↔ b.IsTable) ∧ d.tag = b.tag ∧ (¬ b.IsTable → d = b) := by
  rw [List.foldl_append, List.foldl_cons, List.foldl_nil]
  cases front.foldl (fun below d => Datum.upon below (some d)) none with
  | none => exact ⟨b, rfl, Iff.rfl, rfl, fun _ => rfl⟩
  | some o =>
    exact ⟨o.laidOver b, rfl, isTable_laidOver o b, tag_laidOver o b, Datum.laidOver_of_not_table⟩

theorem standing_eq_topmost (h : ¬ Joins keys layers) : standing keys layers = topmost keys layers := by
  unfold standing topmost
  rcases List.eq_nil_or_concat (definitions keys layers) with hnil | ⟨front, b, hdefs⟩
  · rw [hnil]
    rfl
  · rw [List.concat_eq_append] at hdefs
    rw [hdefs, List.getLast?_concat]
    obtain ⟨d, hd, -, -, hvalue⟩ := foldl_upon front b
    by_cases hb : b.IsTable
    · rcases List.eq_nil_or_concat front with rfl | ⟨front, a, rfl⟩
      · rfl
      · rw [List.concat_eq_append] at hdefs ⊢
        have ha : ¬ a.IsTable := fun ha => h ⟨front, a, b, by simpa using hdefs, ha, hb⟩
        obtain ⟨x, hx, htable, -⟩ := foldl_upon front a
        rw [List.foldl_append, hx, List.foldl_cons, List.foldl_nil, Datum.upon_some,
          Datum.laidOver_onto (mt htable.1 ha)]
    · rw [hd, hvalue hb]

/-- The values laid over each other are there where the topmost one is, and differ from it only in
the entries of a table. -/
theorem standing_of_topmost (keys : List String) (layers : List (Datum Origin)) :
    (standing keys layers = topmost keys layers) ∨
      ∃ o es es', standing keys layers = some (.table o es) ∧
        topmost keys layers = some (.table o es') := by
  unfold standing topmost
  rcases List.eq_nil_or_concat (definitions keys layers) with hnil | ⟨front, b, hdefs⟩
  · rw [hnil]
    exact .inl rfl
  · rw [List.concat_eq_append] at hdefs
    rw [hdefs, List.getLast?_concat]
    obtain ⟨d, hd, htable, htag, hvalue⟩ := foldl_upon front b
    rw [hd]
    by_cases hb : b.IsTable
    · cases b with
      | table o es' =>
        cases d with
        | table _ es =>
          cases htag
          exact .inr ⟨_, es, es', rfl, rfl⟩
        | scalar => exact (htable.2 hb).elim
        | list => exact (htable.2 hb).elim
      | scalar => exact hb.elim
      | list => exact hb.elim
    · exact .inl (congrArg some (hvalue hb))

/-- Under keys that lead through tables in every layer stands, after all layers are laid over each
other, what they have there, laid over each other. -/
theorem at?_laid (hlayers : ∀ l ∈ layers, l.Ascending) (hleads : ∀ l ∈ layers, l.Leads keys)
    {base : Datum Origin} (hbase : base.Leads keys) :
    (layers.foldl Datum.laidOver base).at? keys =
        (definitions keys layers).foldl (fun below d => Datum.upon below (some d)) (base.at? keys) ∧
      (layers.foldl Datum.laidOver base).Leads keys := by
  induction layers generalizing base with
  | nil => exact ⟨rfl, hbase⟩
  | cons l layers ih =>
    rw [List.forall_mem_cons] at hlayers hleads
    have hstep := Datum.at?_laidOver hlayers.1 hbase hleads.1
    obtain ⟨hat, hlead⟩ := ih hlayers.2 hleads.2 (hbase.laidOver hlayers.1 hleads.1)
    refine ⟨?_, hlead⟩
    rw [List.foldl_cons, hat, hstep, definitions, definitions, List.filterMap_cons]
    cases l.at? keys with
    | none => rw [Datum.upon_none]
    | some d => rfl

theorem ascending_laid (hlayers : ∀ l ∈ layers, l.Ascending) {base : Datum Origin}
    (hbase : base.Ascending) : (layers.foldl Datum.laidOver base).Ascending := by
  induction layers generalizing base with
  | nil => exact hbase
  | cons l layers ih =>
    rw [List.forall_mem_cons] at hlayers
    exact ih hlayers.2 (hbase.laidOver l hlayers.1)

theorem isTable_laid (hlayers : ∀ l ∈ layers, l.IsTable) {base : Datum Origin}
    (hbase : base.IsTable) : (layers.foldl Datum.laidOver base).IsTable := by
  induction layers generalizing base with
  | nil => exact hbase
  | cons l layers ih =>
    rw [List.forall_mem_cons] at hlayers
    exact ih hlayers.2 ((isTable_laidOver base l).2 hlayers.1)

end

/-! ## The layers of a request -/

section
variable {r : Request} {t : FileTree} {env : Environment}

/-- The files that `load r t env` reads, those of more weight last. -/
def pathsOf (r : Request) (t : FileTree) (env : Environment) : List String :=
  (sourcesOf r t env).userFile.toList ++ (sourcesOf r t env).projectFiles ++
    (sourcesOf r t env).explicitFiles

/-- The layers of those of `paths` that can be read. -/
def layersOf (t : FileTree) (paths : List String) : List (Datum Origin) :=
  paths.filterMap fun p => (fileLayer t p).toOption

/-- The layers of `r` above the defaults: its files, and then the environment. -/
def stack (r : Request) (t : FileTree) (env : Environment) : List (Datum Origin) :=
  layersOf t (pathsOf r t env) ++ [environmentLayer env]

theorem ascending_parse? (f : Format) {text : String} {d : Plain} (h : parse? f text = some d) :
    d.Ascending ∧ d.IsTable := by
  cases f with
  | toml => exact Toml.ascending_read? h
  | yaml => exact Yaml.ascending_read? h
  | json => exact Json.ascending_read? h

theorem isTable_retag {d : Plain} (o : Origin) (h : d.IsTable) : (d.retag o).IsTable := by
  cases d with
  | table => trivial
  | scalar => exact h.elim
  | list => exact h.elim

theorem ascending_fileLayer {path : String} {l : Datum Origin} (h : fileLayer t path = .ok l) :
    l.Ascending ∧ l.IsTable := by
  unfold fileLayer at h
  split at h
  · cases h
  · cases h
  · split at h
    next hd =>
      cases h
      obtain ⟨hasc, htable⟩ := ascending_parse? _ hd
      exact ⟨hasc.retag _, isTable_retag _ htable⟩
    · cases h

theorem ascending_layersOf {paths : List String} :
    ∀ l ∈ layersOf t paths, l.Ascending ∧ l.IsTable := by
  intro l hl
  obtain ⟨p, -, hp⟩ := List.mem_filterMap.1 hl
  cases h : fileLayer t p with
  | error f =>
    rw [h] at hp
    cases hp
  | ok l' =>
    rw [h] at hp
    cases hp
    exact ascending_fileLayer h

/-- Files that can be read are laid over each other. -/
theorem layFiles_eq_ok {paths : List String} (h : ∀ p ∈ paths, ∃ l, fileLayer t p = .ok l) :
    layFiles t paths = .ok ((layersOf t paths).foldl Datum.laidOver (.table .builtin [])) := by
  unfold layFiles
  generalize Datum.table Origin.builtin [] = base
  induction paths generalizing base with
  | nil => rfl
  | cons p paths ih =>
    rw [List.forall_mem_cons] at h
    obtain ⟨l, hl⟩ := h.1
    rw [List.foldl_cons, hl, ih h.2]
    simp only [layersOf, List.filterMap_cons, hl, Except.toOption, List.foldl_cons]

end

/-! ## Variables -/

section
variable {keys ks : List String} {d x : Datum Origin} {env : Environment}

/-- One of `keys` and `ks` begins with the other: they lead to or through one place. -/
def Touches (keys ks : List String) : Prop := keys <+: ks ∨ ks <+: keys

theorem at?_nest (keys : List String) (d : Datum Origin) : (nest keys d).at? keys = some d := by
  induction keys with
  | nil => rfl
  | cons k keys ih =>
    change (Datum.table Origin.environment [(k, nest keys d)]).at? (k :: keys) = some d
    rw [Datum.at?, List.lookup_cons_self]
    exact ih

theorem ascending_nest (keys : List String) (hd : d.Ascending) : (nest keys d).Ascending := by
  induction keys with
  | nil => exact hd
  | cons k keys ih =>
    refine .table Origin.environment [(k, nest keys d)] (List.pairwise_singleton _ _) fun e he => ?_
    obtain rfl := List.mem_singleton.1 he
    exact ih

theorem touches_of_at?_nest (h : (nest keys d).at? ks = some x) : Touches keys ks := by
  induction keys generalizing ks with
  | nil => exact .inl List.nil_prefix
  | cons k keys ih =>
    cases ks with
    | nil => exact .inr List.nil_prefix
    | cons k' ks =>
      change (Datum.table Origin.environment [(k, nest keys d)]).at? (k' :: ks) = some x at h
      obtain ⟨y, hy, h⟩ := Option.bind_eq_some_iff.1 h
      by_cases hk : k' = k
      · subst hk
        rw [List.lookup_cons_self] at hy
        cases hy
        exact (ih h).imp (List.cons_prefix_cons.2 ⟨rfl, ·⟩) (List.cons_prefix_cons.2 ⟨rfl, ·⟩)
      · rw [Entries.lookup_cons_of_ne hk] at hy
        cases hy

theorem leads_nest (h : ¬ keys <+: ks) : (nest keys d).Leads ks := by
  induction keys generalizing ks with
  | nil => exact absurd List.nil_prefix h
  | cons k keys ih =>
    cases ks with
    | nil => trivial
    | cons k' ks =>
      intro y hy
      by_cases hk : k' = k
      · subst hk
        rw [List.lookup_cons_self] at hy
        cases hy
        exact ih fun hp => h (List.cons_prefix_cons.2 ⟨rfl, hp⟩)
      · rw [Entries.lookup_cons_of_ne hk] at hy
        cases hy

theorem splitDots_ne_nil (cs : List Char) : splitDots cs ≠ [] := by
  cases cs with
  | nil => exact List.cons_ne_nil _ _
  | cons c rest =>
    rw [splitDots]
    split
    · exact List.cons_ne_nil _ _
    · split <;> exact List.cons_ne_nil _ _

theorem keysOf_ne_nil {name : String} (h : keysOf name = some keys) : keys ≠ [] := by
  simp only [keysOf, Option.ite_none_right_eq_some, Option.ite_none_left_eq_some,
    Option.some.injEq] at h
  obtain ⟨-, -, rfl⟩ := h
  exact fun hnil => splitDots_ne_nil _ (List.map_eq_nil_iff.1 hnil)

/-- What the text of the variable `v` is read as. -/
def valueOf (v : String × String) : Datum Origin := (Inline.read v.2).retag .environment

/-- The layer that the variable `v` makes, if it sets a value. -/
def variableLayer (v : String × String) : Option (Datum Origin) :=
  (keysOf v.1).map fun keys => nest keys (valueOf v)

theorem environmentLayer_eq (env : Environment) : environmentLayer env =
    (env.vars.filterMap variableLayer).foldl Datum.laidOver (.table .environment []) := by
  unfold environmentLayer
  generalize Datum.table Origin.environment [] = base
  induction env.vars generalizing base with
  | nil => rfl
  | cons v vars ih =>
    obtain ⟨name, value⟩ := v
    rw [List.foldl_cons, ih, List.filterMap_cons]
    simp only [variableLayer, valueOf]
    cases keysOf name <;> rfl

theorem ascending_variableLayer :
    ∀ l ∈ env.vars.filterMap variableLayer, l.Ascending := by
  intro l hl
  obtain ⟨v, -, hv⟩ := List.mem_filterMap.1 hl
  obtain ⟨keys, -, rfl⟩ := Option.map_eq_some_iff.1 hv
  exact ascending_nest keys ((Inline.ascending_read v.2).retag _)

theorem ascending_environmentLayer (env : Environment) : (environmentLayer env).Ascending := by
  rw [environmentLayer_eq]
  exact ascending_laid ascending_variableLayer
    (.table Origin.environment [] Entries.ascending_nil fun _ h => absurd h List.not_mem_nil)

theorem isTable_environmentLayer (env : Environment) : (environmentLayer env).IsTable := by
  rw [environmentLayer_eq]
  refine isTable_laid (fun l hl => ?_) trivial
  obtain ⟨v, -, hv⟩ := List.mem_filterMap.1 hl
  obtain ⟨keys, hkeys, rfl⟩ := Option.map_eq_some_iff.1 hv
  cases keys with
  | nil => exact absurd rfl (keysOf_ne_nil hkeys)
  | cons k keys => trivial

theorem at?_empty (o : Origin) (hne : keys ≠ []) :
    (Datum.table o [] : Datum Origin).at? keys = none := by
  cases keys with
  | nil => exact absurd rfl hne
  | cons k keys => rfl

theorem leads_empty (o : Origin) (keys : List String) :
    (Datum.table o [] : Datum Origin).Leads keys := by
  cases keys with
  | nil => trivial
  | cons k keys => exact fun d hd => by cases hd

/-- The keys of no two variables touch. -/
def PrefixFree (env : Environment) : Prop :=
  (env.vars.filterMap fun v => keysOf v.1).Pairwise fun keys ks => ¬ Touches keys ks

theorem Touches.symm (h : Touches keys ks) : Touches ks keys := Or.symm h

/-- Layers of variables that do not touch the place of keys have nothing there. -/
theorem definitions_variables {vars : List (String × String)}
    (h : ∀ ks' ∈ vars.filterMap (fun v => keysOf v.1), ¬ Touches ks' ks) :
    definitions ks (vars.filterMap variableLayer) = [] ∧
      ∀ l ∈ vars.filterMap variableLayer, l.Leads ks := by
  have hlayer : ∀ l ∈ vars.filterMap variableLayer, l.at? ks = none ∧ l.Leads ks := by
    intro l hl
    obtain ⟨v, hv, hl⟩ := List.mem_filterMap.1 hl
    obtain ⟨keys, hkeys, rfl⟩ := Option.map_eq_some_iff.1 hl
    have hno := h keys (List.mem_filterMap.2 ⟨v, hv, hkeys⟩)
    refine ⟨?_, leads_nest fun hp => hno (.inl hp)⟩
    rw [Option.eq_none_iff_forall_ne_some]
    exact fun x hx => hno (touches_of_at?_nest hx)
  exact ⟨List.filterMap_eq_nil_iff.2 fun l hl => (hlayer l hl).1, fun l hl => (hlayer l hl).2⟩

/-- Nothing stands where no variable leads. -/
theorem at?_environmentLayer_none (hks : ks ≠ [])
    (h : ∀ keys ∈ env.vars.filterMap (fun v => keysOf v.1), ¬ Touches keys ks) :
    (environmentLayer env).at? ks = none := by
  obtain ⟨hnone, hleads⟩ := definitions_variables h
  obtain ⟨hat, -⟩ := at?_laid ascending_variableLayer hleads (leads_empty .environment ks)
  rw [environmentLayer_eq, hat, hnone, at?_empty _ hks]
  rfl

/-- The value of a variable stands under its keys, if no other one touches that place. -/
theorem at?_environmentLayer (h : PrefixFree env) {v : String × String} (hv : v ∈ env.vars)
    (hkeys : keysOf v.1 = some keys) : (environmentLayer env).at? keys = some (valueOf v) := by
  obtain ⟨front, back, hvars⟩ := List.append_of_mem hv
  have hlayer : variableLayer v = some (nest keys (valueOf v)) := by rw [variableLayer, hkeys]; rfl
  rw [PrefixFree, hvars, List.filterMap_append, List.filterMap_cons, hkeys,
    List.pairwise_append] at h
  obtain ⟨-, hback, hfront⟩ := h
  obtain ⟨hf, hfleads⟩ := definitions_variables fun ks' hks' =>
    hfront ks' hks' keys List.mem_cons_self
  obtain ⟨hb, hbleads⟩ := definitions_variables fun ks' hks' htouch =>
    (List.pairwise_cons.1 hback).1 ks' hks' htouch.symm
  have hall : env.vars.filterMap variableLayer =
      front.filterMap variableLayer ++ nest keys (valueOf v) :: back.filterMap variableLayer := by
    rw [hvars, List.filterMap_append, List.filterMap_cons, hlayer]
  have hleads : ∀ l ∈ env.vars.filterMap variableLayer, l.Leads keys := by
    rw [hall, List.forall_mem_append, List.forall_mem_cons]
    exact ⟨hfleads, Datum.leads_of_at? (at?_nest keys _), hbleads⟩
  have hdefs : definitions keys (env.vars.filterMap variableLayer) = [valueOf v] := by
    rw [hall, definitions, List.filterMap_append, List.filterMap_cons, at?_nest,
      show List.filterMap _ (front.filterMap variableLayer) = [] from hf,
      show List.filterMap _ (back.filterMap variableLayer) = [] from hb]
    rfl
  obtain ⟨hat, -⟩ := at?_laid ascending_variableLayer hleads (leads_empty .environment keys)
  rw [environmentLayer_eq, hat, hdefs, at?_empty _ (keysOf_ne_nil hkeys)]
  rfl

end

/-! ## The data that settings are read from -/

section
variable {r : Request} {t : FileTree} {env : Environment}

theorem ascending_stack : ∀ l ∈ stack r t env, l.Ascending ∧ l.IsTable := by
  rw [stack, List.forall_mem_append, List.forall_mem_singleton]
  exact ⟨ascending_layersOf, ascending_environmentLayer env, isTable_environmentLayer env⟩

/-- The layers of `stack` laid over each other. -/
def joined (r : Request) (t : FileTree) (env : Environment) : Datum Origin :=
  (stack r t env).foldl Datum.laidOver (.table .builtin [])

theorem ascending_joined : (joined r t env).Ascending :=
  ascending_laid (fun l hl => (ascending_stack l hl).1)
    (.table Origin.builtin [] Entries.ascending_nil fun _ h => absurd h List.not_mem_nil)

theorem load_eq_ok (h : ∀ p ∈ pathsOf r t env, ∃ l, fileLayer t p = .ok l) {s : Settings}
    {src : Sources} : load r t env = .ok (s, src) ↔
      Settings.read (joined r t env) = .ok s ∧ src = sourcesOf r t env := by
  have hload : load r t env = ((Settings.read (joined r t env)).mapError fun f => .faulty [f]).map
      (·, sourcesOf r t env) := by
    have hfiles := layFiles_eq_ok h
    simp only [load, readAll]
    rw [← pathsOf, hfiles, joined, stack, List.foldl_append]
    rfl
  rw [hload]
  cases Settings.read (joined r t env) with
  | error f => simp [Except.map, Except.mapError]
  | ok s' => simp [Except.map, Except.mapError, eq_comm]

end

end BuildGate.Settings
