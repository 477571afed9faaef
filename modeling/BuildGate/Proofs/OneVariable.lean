import BuildGate.Proofs.FoundFiles

/-!
# One variable more

Two environments, one of which has a variable more that sets a value. Where its keys lead through
tables the layers of both come to the same data, except that the value of the variable stands under
its keys in one of them; the tables above it are made where there are none. Hence the settings are
the same but for the value of one leaf, which is read from what stands there.

**Results.**
* `Datum.Swapped.over`, `Datum.Swapped.under`: laying data over and under keeps the one difference.
* `Settings.swapped_joined`: the layers with and without a variable.
* `Settings.Record.alters`, `Settings.alters_leaves`: what one value makes of the settings.
* `Settings.load_oneMore`, `Settings.value_of_load`: loading with a variable more.
-/
namespace BuildGate

namespace Data.Datum

variable {τ : Type} {x y v : Datum τ} {keys : List String}

/-- The entries of a table that may stand somewhere; what is none has no entries. -/
def entriesOf : Option (Datum τ) → Entries (Datum τ)
  | some (.table _ es) => es
  | _ => []

/-- The data is `x` under `keys`, and otherwise what stands below, if anything does. -/
def Swapped (x : Datum τ) : List String → Option (Datum τ) → Datum τ → Prop
  | [], _, d => d = x
  | k :: keys, was, d => ∃ t es e, d = .table t es ∧
      (∀ k' ≠ k, es.lookup k' = (entriesOf was).lookup k') ∧
      es.lookup k = some e ∧ Swapped x keys ((entriesOf was).lookup k) e

/-- Where `v` has been laid over something, `x` stands: `v` itself, or a table if `v` is one. -/
def Stands (v x : Datum τ) : Prop := x = v ∨ v.IsTable ∧ x.IsTable

theorem Stands.trans (h : Stands v x) (h' : Stands x y) : Stands v y := by
  obtain rfl | ⟨hv, hx⟩ := h
  · exact h'
  · obtain rfl | ⟨-, hy⟩ := h'
    · exact .inr ⟨hv, hx⟩
    · exact .inr ⟨hv, hy⟩

/-- `d` laid over what stands below, if anything does. -/
def onto (below : Option (Datum τ)) (d : Datum τ) : Datum τ := below.elim d (laidOver · d)

theorem upon_eq_onto (below : Option (Datum τ)) (d : Datum τ) :
    upon below (some d) = some (onto below d) := upon_elim below d

theorem onto_table (below : Option (Datum τ)) (t : τ) (es : Entries (Datum τ)) :
    onto below (.table t es) = .table t (overEntries (entriesOf below) es) ∨
      onto below (.table t es) = .table t es ∧ entriesOf below = [] := by
  cases below with
  | none => exact .inr ⟨rfl, rfl⟩
  | some d =>
    cases d with
    | table => exact .inl rfl
    | scalar => exact .inr ⟨rfl, rfl⟩
    | list => exact .inr ⟨rfl, rfl⟩

/-- Under a key of a table that was put over something stands what the two have there. -/
theorem lookup_onto (below : Option (Datum τ)) (t : τ) {es : Entries (Datum τ)}
    (hes : es.Ascending) : ∃ es', onto below (.table t es) = .table t es' ∧
      ∀ k, es'.lookup k = upon ((entriesOf below).lookup k) (es.lookup k) := by
  obtain h | ⟨h, hnone⟩ := onto_table below t es
  · exact ⟨_, h, fun k => lookup_overEntries hes _ k⟩
  · refine ⟨es, h, fun k => ?_⟩
    rw [hnone, List.lookup_nil, none_upon]

theorem stands_onto (below : Option (Datum τ)) (v : Datum τ) : Stands v (onto below v) := by
  by_cases hv : v.IsTable
  · cases v with
    | table t es =>
      obtain h | ⟨h, -⟩ := onto_table below t es
      all_goals
        rw [h]
        exact .inr ⟨trivial, trivial⟩
    | scalar => exact hv.elim
    | list => exact hv.elim
  · left
    cases below with
    | none => rfl
    | some d => exact laidOver_of_not_table hv

/-- Keys that lead through tables below other data do so in that data, if it hides nothing. -/
theorem Leads.of_laidOver {a b : Datum τ} (hb : b.Ascending) (h : (Datum.laidOver a b).Leads keys) :
    b.Leads keys := by
  induction keys generalizing a b with
  | nil => trivial
  | cons k keys ih =>
    cases hb with
    | scalar => exact h
    | list => exact h
    | table t es hes hvalues =>
      intro d hd
      obtain ⟨es', honto, hlookup⟩ := lookup_onto (some a) t hes
      change (onto (some a) (.table t es)).Leads (k :: keys) at h
      rw [honto] at h
      have hd' := hlookup k
      rw [hd, upon_eq_onto] at hd'
      have hnext := h _ hd'
      cases hlow : (entriesOf (some a)).lookup k with
      | none =>
        rw [hlow] at hnext
        exact hnext
      | some o =>
        rw [hlow] at hnext
        exact ih (hvalues _ (Entries.mem_of_lookup hd)) hnext

/-- Whether what may stand somewhere is in order and has tables where keys lead. -/
def Open (keys : List String) (was : Option (Datum τ)) : Prop :=
  ∀ d, was = some d → d.Ascending ∧ d.Leads keys

theorem Open.lookup {k : String} {was : Option (Datum τ)} (h : Open (k :: keys) was) :
    Open keys ((entriesOf was).lookup k) := by
  intro d hd
  cases was with
  | none => cases hd
  | some a =>
    obtain ⟨hasc, hleads⟩ := h a rfl
    cases hasc with
    | table t es _ hvalues => exact ⟨hvalues _ (Entries.mem_of_lookup hd), hleads d hd⟩
    | scalar => exact hleads.elim
    | list => exact hleads.elim

/-- The entries of what was put over something, of which the upper side is a table or nothing. -/
theorem lookup_entriesOf_upon (below : Option (Datum τ)) {above : Option (Datum τ)} {k : String}
    (h : Open (k :: keys) above) (key : String) :
    (entriesOf (upon below above)).lookup key =
      upon ((entriesOf below).lookup key) ((entriesOf above).lookup key) := by
  cases above with
  | none =>
    rw [upon_none]
    exact (upon_none _).symm
  | some d =>
    obtain ⟨hasc, hleads⟩ := h d rfl
    cases hasc with
    | table t es hes =>
      obtain ⟨es', hd, hlookup⟩ := lookup_onto below t hes
      rw [upon_eq_onto, hd]
      exact hlookup key
    | scalar => exact hleads.elim
    | list => exact hleads.elim

/-- The difference stays where both sides are laid over the same thing. -/
theorem Swapped.over {was : Option (Datum τ)} {d : Datum τ} (h : Swapped x keys was d)
    (hwas : Open keys was) (hd : d.Ascending) (below : Option (Datum τ)) :
    ∃ y, Stands x y ∧ Swapped y keys (upon below was) (onto below d) := by
  induction keys generalizing was d below with
  | nil =>
    obtain rfl := h
    exact ⟨_, stands_onto below _, rfl⟩
  | cons k keys ih =>
    obtain ⟨t, es, e, rfl, hoff, hat, hrest⟩ := h
    obtain _ | _ | ⟨_, _, hes, hvalues⟩ := hd
    obtain ⟨es', honto, hlookup⟩ := lookup_onto below t hes
    have hentries := lookup_entriesOf_upon below hwas
    obtain ⟨y, hy, hswapped⟩ := ih hrest hwas.lookup (hvalues _ (Entries.mem_of_lookup hat))
      ((entriesOf below).lookup k)
    refine ⟨y, hy, t, es', onto ((entriesOf below).lookup k) e, honto, fun k' hk' => ?_, ?_, ?_⟩
    · rw [hlookup, hentries, hoff k' hk']
    · rw [hlookup, hat, upon_eq_onto]
    · rwa [hentries]

/-- The difference stays where the same thing is laid over both sides, if it has nothing there. -/
theorem Swapped.under {was : Option (Datum τ)} {d above : Datum τ} (h : Swapped x keys was d)
    (habove : above.Ascending) (hleads : above.Leads keys) (hnone : above.at? keys = none) :
    Swapped x keys (upon was (some above)) (laidOver d above) := by
  induction keys generalizing was d above with
  | nil => cases hnone
  | cons k keys ih =>
    obtain ⟨t, es, e, rfl, hoff, hat, hrest⟩ := h
    have hopen : Open (k :: keys) (some above) := by
      rintro _ ⟨⟩
      exact ⟨habove, hleads⟩
    have hentries := lookup_entriesOf_upon was hopen
    cases habove with
    | scalar => exact hleads.elim
    | list => exact hleads.elim
    | table t' bs hbs hvalues =>
      change ∀ key, _ = upon _ (bs.lookup key) at hentries
      have hlookup := lookup_overEntries hbs es
      cases hb : bs.lookup k with
      | none =>
        refine ⟨t', _, e, laidOver_table t t' es bs, fun k' hk' => ?_, ?_, ?_⟩
        · rw [hlookup, hentries, hoff k' hk']
        · rw [hlookup, hat, hb, upon_none]
        · rwa [hentries, hb, upon_none]
      | some b =>
        rw [at?, hb, Option.bind_some] at hnone
        have hnext := ih hrest (hvalues _ (Entries.mem_of_lookup hb)) (hleads b hb) hnone
        refine ⟨t', _, laidOver e b, laidOver_table t t' es bs, fun k' hk' => ?_, ?_, ?_⟩
        · rw [hlookup, hentries, hoff k' hk']
        · rw [hlookup, hat, hb, upon_some]
        · rwa [hentries, hb]

end Data.Datum

namespace Settings

open Data
open Datum (Swapped Stands Open onto)

section
variable {keys : List String} {v : Datum Origin}

theorem swapped_nest (keys : List String) (v : Datum Origin) : Swapped v keys none (nest keys v) := by
  induction keys with
  | nil => rfl
  | cons k keys ih =>
    refine ⟨.environment, [(k, nest keys v)], nest keys v, rfl, fun k' hk' => ?_,
      List.lookup_cons_self, ih⟩
    rw [Entries.lookup_cons_of_ne hk']
    rfl

/-- Layers over both sides keep the difference if none has anything there. -/
theorem swapped_laid {layers : List (Datum Origin)} (hlayers : ∀ l ∈ layers, l.Ascending)
    (hleads : ∀ l ∈ layers, l.Leads keys) (hnone : ∀ l ∈ layers, l.at? keys = none)
    {x d d' : Datum Origin} (h : Swapped x keys (some d) d') :
    Swapped x keys (some (layers.foldl Datum.laidOver d)) (layers.foldl Datum.laidOver d') := by
  induction layers generalizing d d' with
  | nil => exact h
  | cons l layers ih =>
    rw [List.forall_mem_cons] at hlayers hleads hnone
    exact ih hlayers.2 hleads.2 hnone.2 (h.under hlayers.1 hleads.1 hnone.1)

end

/-! ## The layers with and without a variable -/

/-- The keys of no variable in `back` touch `keys`. -/
def Untouched (keys : List String) (back : List (String × String)) : Prop :=
  ∀ ks ∈ back.filterMap (fun v => keysOf v.1), ¬ Touches ks keys

/-- A variable more is not seen under other names. -/
theorem get?_oneMore [Account] (front back : List (String × String)) {name key : String} (value : String)
    (h : key ≠ name) : Environment.get? ⟨front ++ (name, value) :: back⟩ key =
      Environment.get? ⟨front ++ back⟩ key := by
  unfold Environment.get?
  rw [List.lookup_append, List.lookup_append, Entries.lookup_cons_of_ne h]

/-- The files are found by variables that set no value. -/
theorem sourcesOf_congr (r : Request) (t : FileTree) {env env' : Environment}
    (haccount : env'.account = env.account)
    (h : ∀ key, keysOf key = none → env'.get? key = env.get? key) :
    sourcesOf r t env' = sourcesOf r t env := by
  have huser : userDir? env' = userDir? env := by
    unfold userDir? Environment.nonempty?
    rw [h "HOME" (by decide), h "XDG_CONFIG_HOME" (by decide), haccount]
  simp only [sourcesOf, userFile?, huser]

section
variable [Account] (front : List (String × String)) {back : List (String × String)} {name : String}
  (value : String) {keys : List String} (hkeys : keysOf name = some keys)
  (hback : Untouched keys back)

include hkeys

include hback in
theorem swapped_environmentLayer : ∃ x, Stands (valueOf (name, value)) x ∧
    Swapped x keys (some (environmentLayer ⟨front ++ back⟩))
      (environmentLayer ⟨front ++ (name, value) :: back⟩) := by
  have hlayer : variableLayer (name, value) = some (nest keys (valueOf (name, value))) := by
    rw [variableLayer, hkeys]
    rfl
  simp only [environmentLayer_eq, List.filterMap_append, List.filterMap_cons, hlayer,
    List.foldl_append, List.foldl_cons]
  generalize (front.filterMap variableLayer).foldl Datum.laidOver (.table .environment []) = base
  obtain ⟨x, hx, hswapped⟩ := (swapped_nest keys (valueOf (name, value))).over
    (fun d hd => by cases hd) (ascending_nest keys ((Inline.ascending_read value).retag _)) (some base)
  obtain ⟨hnone, hleads⟩ := definitions_variables hback
  have hascending : ∀ l ∈ back.filterMap variableLayer, l.Ascending :=
    fun l hl => @ascending_variableLayer ⟨back⟩ l hl
  exact ⟨x, hx, swapped_laid hascending hleads (List.filterMap_eq_nil_iff.1 hnone) hswapped⟩

variable (back) in
theorem sourcesOf_oneMore (r : Request) (t : FileTree) :
    sourcesOf r t ⟨front ++ (name, value) :: back⟩ = sourcesOf r t ⟨front ++ back⟩ := by
  refine sourcesOf_congr r t rfl fun key hkey => get?_oneMore front back value ?_
  rintro rfl
  rw [hkey] at hkeys
  cases hkeys

include hback in
/-- What all layers come to, where the keys of the variable lead through tables. -/
theorem swapped_joined (r : Request) (t : FileTree)
    (hleads : (joined r t ⟨front ++ back⟩).Leads keys) :
    ∃ x, Stands (valueOf (name, value)) x ∧ Swapped x keys (some (joined r t ⟨front ++ back⟩))
      (joined r t ⟨front ++ (name, value) :: back⟩) := by
  have hpaths : pathsOf r t ⟨front ++ (name, value) :: back⟩ = pathsOf r t ⟨front ++ back⟩ := by
    unfold pathsOf
    rw [sourcesOf_oneMore front back value hkeys]
  unfold joined stack at hleads ⊢
  rw [hpaths]
  rw [List.foldl_append, List.foldl_cons, List.foldl_nil] at hleads
  simp only [List.foldl_append, List.foldl_cons, List.foldl_nil]
  generalize (layersOf t (pathsOf r t ⟨front ++ back⟩)).foldl Datum.laidOver _ = files at hleads ⊢
  obtain ⟨x, hx, hswapped⟩ := swapped_environmentLayer front value hkeys hback
  have hopen : Open keys (some (environmentLayer ⟨front ++ back⟩)) := by
    rintro _ ⟨⟩
    exact ⟨ascending_environmentLayer _, hleads.of_laidOver (ascending_environmentLayer _)⟩
  obtain ⟨y, hy, hover⟩ := hswapped.over hopen (ascending_environmentLayer _) (some files)
  exact ⟨y, hx.trans hy, hover⟩

end

/-! ## One value of a record -/

/-- A record was read from the data, or is `start` if there is none. -/
def WasRead {σ : Type} (read : Reader σ) (start : σ) : Option (Datum Origin) → σ → Prop
  | some d, s => read d = .ok s
  | none, s => s = start

/-- What another value under the keys of a leaf makes of a record: its leaf is read from it, and the
other ones of `leaves` are as they were. -/
structure Alters {σ : Type} (read : Reader σ) (start : σ) (leaves : List (Leaf σ)) : Prop where
  reads : ∀ l ∈ leaves, ∀ was d x s a, Open l.keys was → d.Ascending → Swapped x l.keys was d →
    WasRead read start was s → l.read x = .ok a → ∃ s', read d = .ok s' ∧ l.get s' = a ∧
      ∀ m ∈ leaves, m.keys ≠ l.keys → m.get s' = m.get s
  fits : ∀ l ∈ leaves, ∀ was d x s', d.Ascending → Swapped x l.keys was d → read d = .ok s' →
    l.read x = .ok (l.get s')

theorem alters_value {α : Type} (read : Reader α) (start : α) :
    Alters read start [⟨[], read, id⟩] where
  reads l hl was d x s a _ _ hswapped _ hread := by
    obtain rfl := List.mem_singleton.1 hl
    obtain rfl := hswapped
    refine ⟨a, hread, rfl, fun m hm hne => ?_⟩
    obtain rfl := List.mem_singleton.1 hm
    exact absurd rfl hne
  fits l hl was d x s' _ hswapped hread := by
    obtain rfl := List.mem_singleton.1 hl
    obtain rfl := hswapped
    exact hread

namespace Record

variable {σ : Type} {start : σ} {r : Record σ start}

/-- The parts of a record that was read, or is the one it starts as. -/
theorem taken_of_wasRead {k : String} {keys : List String} {was : Option (Datum Origin)} {s : σ}
    (hwas : Open (k :: keys) was) (h : WasRead r.read start was s) :
    ∀ p ∈ r.parts, p.Taken start s ((Datum.entriesOf was).lookup p.key) := by
  cases was with
  | none =>
    have hstart : s = start := h
    rw [hstart]
    exact fun p _ => rfl
  | some d =>
    obtain ⟨hasc, hleads⟩ := hwas d rfl
    cases hasc with
    | table t es hes => exact fromEntries_holds hes h
    | scalar => exact hleads.elim
    | list => exact hleads.elim

theorem wasRead_of_taken {p : Part σ start} {s : σ} {low : Option (Datum Origin)}
    (h : p.Taken start s low) : WasRead p.read (p.get start) low (p.get s) := by
  cases low with
  | none => exact h
  | some d => exact h

/-- A part that is taken from the same place comes to the same. -/
theorem get_of_taken {p : Part σ start} {s s' : σ} {low : Option (Datum Origin)}
    (h : p.Taken start s low) (h' : p.Taken start s' low) : p.get s' = p.get s := by
  cases low with
  | none => exact h'.trans h.symm
  | some d => exact Except.ok.inj (h'.symm.trans h)

/-- With other data under one key, from which its part is read, all other parts are read as they
were. -/
theorem fromEntries_oneKey {p : Part σ start} (hp : p ∈ r.parts) {es : Entries (Datum Origin)}
    (hes : es.Ascending) {e : Datum Origin} (hat : es.lookup p.key = some e) {b : p.Value}
    (hb : p.read e = .ok b) {s : σ}
    (hothers : ∀ q ∈ r.parts, q.key ≠ p.key → q.Taken start s (es.lookup q.key)) :
    ∃ s', Reader.fromEntries (r.parts.map Part.field) es start = .ok s' ∧ p.get s' = b ∧
      ∀ q ∈ r.parts, q.key ≠ p.key → q.get s' = q.get s := by
  have hreads : ∀ q ∈ r.parts, ∀ o, es.lookup q.key = some o → ∃ c, q.read o = .ok c := by
    intro q hq o ho
    by_cases hkey : q.key = p.key
    · obtain rfl := eq_of_key hq hp hkey
      rw [hat] at ho
      cases ho
      exact ⟨b, hb⟩
    · have hq' := hothers q hq hkey
      rw [ho] at hq'
      exact ⟨_, hq'⟩
  obtain ⟨s', hs'⟩ := fromEntries_reads hes hreads start
  have htaken := fromEntries_holds hes hs'
  refine ⟨s', hs', ?_, fun q hq hkey => get_of_taken (hothers q hq hkey) (htaken q hq)⟩
  have hnew := htaken p hp
  rw [hat] at hnew
  exact Except.ok.inj (hnew.symm.trans hb)

theorem alters (h : ∀ p ∈ r.parts, Alters p.read (p.get start) p.leaves) :
    Alters r.read start r.leaves where
  reads := by
    intro l hl was d x s a hopen hd hswapped hwas hread
    obtain ⟨p, hp, l', hl', rfl⟩ := mem_leaves.1 hl
    obtain ⟨t, es, e, rfl, hoff, hat, hrest⟩ := hswapped
    obtain _ | _ | ⟨_, _, hes, hvalues⟩ := hd
    have htaken := taken_of_wasRead hopen hwas
    obtain ⟨b, hb, hget, hothers⟩ := (h p hp).reads l' hl' _ e x (p.get s) a hopen.lookup
      (hvalues _ (Entries.mem_of_lookup hat)) hrest (wasRead_of_taken (htaken p hp)) hread
    obtain ⟨s', hs', hpart, hsame⟩ := fromEntries_oneKey hp hes hat hb
      fun q hq hkey => hoff q.key hkey ▸ htaken q hq
    refine ⟨s', hs', ?_, fun m hm hne => ?_⟩
    · rw [← hget, ← hpart]
      rfl
    · obtain ⟨q, hq, m', hm', rfl⟩ := mem_leaves.1 hm
      by_cases hkey : q.key = p.key
      · obtain rfl := eq_of_key hq hp hkey
        change m'.get (q.get s') = m'.get (q.get s)
        rw [hpart]
        exact hothers m' hm' fun heq => hne (by rw [Leaf.under, Leaf.under, heq])
      · exact congrArg m'.get (hsame q hq hkey)
  fits := by
    intro l hl was d x s' hd hswapped hread
    obtain ⟨p, hp, l', hl', rfl⟩ := mem_leaves.1 hl
    obtain ⟨t, es, e, rfl, -, hat, hrest⟩ := hswapped
    obtain _ | _ | ⟨_, _, hes, hvalues⟩ := hd
    have htaken := fromEntries_holds hes hread p hp
    rw [hat] at htaken
    exact (h p hp).fits l' hl' _ e x (p.get s') (hvalues _ (Entries.mem_of_lookup hat)) hrest htaken

/-- A record all of whose parts are values. -/
theorem alters_of_values (r : Record σ start)
    (h : ∀ p ∈ r.parts, p.leaves = [⟨[], p.read, id⟩]) : Alters r.read start r.leaves :=
  r.alters fun p hp => h p hp ▸ alters_value p.read _

end Record

theorem alters_coverage (start : CoverageSettings) :
    Alters (coverageRecord start).read start (coverageRecord start).leaves := by
  refine Record.alters ?_
  simp only [coverageRecord, List.forall_mem_cons, List.not_mem_nil, false_implies, implies_true,
    and_true]
  refine ⟨alters_value _ _, alters_value _ _, alters_value _ _, alters_value _ _, alters_value _ _,
    alters_value _ _, alters_value _ _, alters_value _ _, ?_⟩
  exact (toolRecord _).alters_of_values (by simp [toolRecord, Part.value])

theorem alters_leaves : Alters Settings.read {} leaves := by
  refine Record.alters (r := settingsRecord {}) ?_
  simp only [settingsRecord, List.forall_mem_cons, List.not_mem_nil, false_implies, implies_true,
    and_true]
  refine ⟨alters_value _ _, alters_value _ _, ?_, ?_, ?_, alters_coverage _⟩
  · exact (styleRecord _).alters_of_values (by simp [styleRecord, Part.value])
  · exact (lintRecord _).alters_of_values (by simp [lintRecord, Part.value])
  · exact (testRecord _).alters_of_values (by simp [testRecord, Part.value])

/-! ## Loading with a variable more -/

theorem readable_of_layFiles {t : FileTree} {paths : List String} {d : Datum Origin}
    (h : layFiles t paths = .ok d) : ∀ p ∈ paths, ∃ l, fileLayer t p = .ok l := by
  induction paths using List.reverseRecOn generalizing d with
  | nil => exact fun _ hp => absurd hp List.not_mem_nil
  | append_singleton paths path ih =>
    obtain ⟨below, layer, hbelow, hlayer, -⟩ := layFiles_concat h
    rw [List.forall_mem_append, List.forall_mem_singleton]
    exact ⟨ih hbelow, layer, hlayer⟩

theorem readable_of_load {r : Request} {t : FileTree} {env : Environment} {s : Settings}
    {src : Sources} (h : load r t env = .ok (s, src)) :
    ∀ p ∈ pathsOf r t env, ∃ l, fileLayer t p = .ok l := by
  obtain ⟨rfl, files, hfiles, -⟩ := exists_of_load h
  exact readable_of_layFiles hfiles

section
variable [Account] {r : Request} {t : FileTree} {front back : List (String × String)}
  {name value : String} {l : Leaf Settings}

/-- Settings that are loaded with a variable more have its value, read from what is left of it when
tables have been joined. -/
theorem value_of_load (hl : l ∈ leaves) (hkeys : keysOf name = some l.keys)
    (hback : Untouched l.keys back) (hleads : (joined r t ⟨front ++ back⟩).Leads l.keys)
    {s' : Settings} {src : Sources}
    (h : load r t ⟨front ++ (name, value) :: back⟩ = .ok (s', src)) :
    ∃ x, Stands (valueOf (name, value)) x ∧ l.read x = .ok (l.get s') := by
  obtain ⟨x, hx, hswapped⟩ := swapped_joined front value hkeys hback r t hleads
  have hread := ((load_eq_ok (readable_of_load h)).1 h).1
  exact ⟨x, hx, alters_leaves.fits l hl _ _ x s' ascending_joined hswapped hread⟩

/-- A variable more whose value is no table changes the value of its leaf, and nothing else. -/
theorem load_oneMore (hl : l ∈ leaves) (hkeys : keysOf name = some l.keys)
    (hback : Untouched l.keys back) (hleads : (joined r t ⟨front ++ back⟩).Leads l.keys)
    (hvalue : ¬ (valueOf (name, value)).IsTable) {s : Settings} {src : Sources}
    (h : load r t ⟨front ++ back⟩ = .ok (s, src)) {a : l.Value}
    (ha : l.read (valueOf (name, value)) = .ok a) :
    ∃ s', load r t ⟨front ++ (name, value) :: back⟩ = .ok (s', src) ∧ l.get s' = a ∧
      ∀ m ∈ leaves, m.keys ≠ l.keys → m.get s' = m.get s := by
  obtain ⟨x, hx, hswapped⟩ := swapped_joined front value hkeys hback r t hleads
  obtain rfl : x = valueOf (name, value) := hx.resolve_right fun hboth => hvalue hboth.1
  have hfiles := readable_of_load h
  obtain ⟨hread, rfl⟩ := (load_eq_ok hfiles).1 h
  obtain ⟨s', hs', hget, hothers⟩ := alters_leaves.reads l hl _ _ _ s a
    (by rintro _ ⟨⟩; exact ⟨ascending_joined, hleads⟩) ascending_joined hswapped hread ha
  have hsources := sourcesOf_oneMore front back value hkeys r t
  have hfiles' : ∀ p ∈ pathsOf r t ⟨front ++ (name, value) :: back⟩, ∃ l, fileLayer t p = .ok l := by
    unfold pathsOf at hfiles ⊢
    rwa [hsources]
  exact ⟨s', (load_eq_ok hfiles').2 ⟨hs', hsources.symm⟩, hget, hothers⟩

end

end Settings

end BuildGate
