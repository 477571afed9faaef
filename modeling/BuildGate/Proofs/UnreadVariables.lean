import BuildGate.Proofs.OneVariable

/-!
# Variables that no setting reads

A variable whose keys do not begin with one of the settings makes a layer like any other one. But what
stands there is never looked at, so the settings that are loaded are those without it, and where they
cannot be loaded they fail in the same way.

**Results.**
* `Entries.without_congr`: ascending tables that agree under all keys but one.
* `AgreeOff.laidOver`: such tables laid over each other.
* `read_congr`: what is read from two of them.
* `load_without`: settings do not depend on a variable under other keys.
-/
namespace BuildGate

/-- `env` without the variable `name`. -/
def Environment.without (env : Environment) (name : String) : Environment :=
  { env with vars := env.vars.filter (·.1 != name) }

namespace Data

namespace Entries

variable {α : Type} {es es' : Entries α} {k key : String} {v : α}

/-- The entries under other keys than `k`. -/
def without (k : String) (es : Entries α) : Entries α := es.filter (·.1 != k)

theorem lookup_without (h : key ≠ k) (es : Entries α) : (es.without k).lookup key = es.lookup key := by
  induction es with
  | nil => rfl
  | cons e es ih =>
    obtain ⟨k', v⟩ := e
    by_cases hk : k' = k
    · subst hk
      rw [without, List.filter_cons_of_neg (by simp), lookup_cons_of_ne h]
      exact ih
    · rw [without, List.filter_cons_of_pos (by simpa using hk), List.lookup_cons, List.lookup_cons]
      split
      · rfl
      · exact ih

theorem Ascending.mem_iff (h : es.Ascending) : (key, v) ∈ es ↔ es.lookup key = some v := by
  refine ⟨fun hmem => ?_, mem_of_lookup⟩
  obtain ⟨front, back, rfl⟩ := List.append_of_mem hmem
  refine List.lookup_eq_some_iff.2 ⟨front, back, rfl, fun e he => ?_⟩
  have hbefore := (List.pairwise_append.1 h).2.2 e he (key, v) List.mem_cons_self
  exact bne_iff_ne.2 (ne_of_gt hbefore)

/-- Ascending tables that agree under all keys but one are the same without it. -/
theorem without_congr (h : es.Ascending) (h' : es'.Ascending)
    (hsame : ∀ key, key ≠ k → es.lookup key = es'.lookup key) : es.without k = es'.without k := by
  have hasc : (es.without k).Ascending := h.filter _
  have hasc' : (es'.without k).Ascending := h'.filter _
  have hnodup : ∀ {xs : Entries α}, xs.Ascending → xs.Nodup :=
    fun hxs => List.Pairwise.imp (fun hlt heq => ne_of_lt hlt (congrArg Prod.fst heq)) hxs
  refine List.Perm.eq_of_pairwise (fun a b _ _ hlt hgt => absurd hgt (lt_asymm hlt)) hasc hasc'
    ((List.perm_ext_iff_of_nodup (hnodup hasc) (hnodup hasc')).2 ?_)
  rintro ⟨key, v⟩
  simp only [without, List.mem_filter, h.mem_iff, h'.mem_iff, bne_iff_ne]
  refine and_congr_left fun hne => ?_
  rw [hsame key hne]

end Entries

namespace Datum

variable {τ : Type} {k : String} {a a' b b' : Datum τ}

/-- `d` and `d'` are tables that differ at most in what stands under `k`. -/
def AgreeOff (k : String) (d d' : Datum τ) : Prop :=
  ∃ t es t' es', d = .table t es ∧ d' = .table t' es' ∧ Entries.Ascending es ∧
    Entries.Ascending es' ∧ ∀ key, key ≠ k → es.lookup key = es'.lookup key

theorem agreeOff_refl (k : String) (h : a.Ascending) (htable : a.IsTable) : AgreeOff k a a := by
  obtain _ | _ | ⟨t, es, hes, -⟩ := h
  · exact htable.elim
  · exact htable.elim
  · exact ⟨t, es, t, es, rfl, rfl, hes, hes, fun _ _ => rfl⟩

theorem ascending_laidOver_keys {old new : Entries (Datum τ)} (hold : Entries.Ascending old) :
    Entries.Ascending (overEntries old new) := by
  induction new generalizing old with
  | nil => exact hold
  | cons e new ih =>
    obtain ⟨key, d⟩ := e
    rw [overEntries_cons]
    exact ih (hold.put key _)

/-- What stands under other keys is laid over what stands there on both sides. -/
theorem AgreeOff.laidOver (h : AgreeOff k a a') (h' : AgreeOff k b b') :
    AgreeOff k (a.laidOver b) (a'.laidOver b') := by
  obtain ⟨t, old, t', old', rfl, rfl, hold, hold', hsame⟩ := h
  obtain ⟨u, new, u', new', rfl, rfl, hnew, hnew', hsame'⟩ := h'
  refine ⟨u, _, u', _, laidOver_table _ _ _ _, laidOver_table _ _ _ _, ascending_laidOver_keys hold,
    ascending_laidOver_keys hold', fun key hkey => ?_⟩
  rw [lookup_overEntries hnew, lookup_overEntries hnew', hsame key hkey, hsame' key hkey]

/-- A layer that has nothing under other keys makes no difference there. -/
theorem AgreeOff.laidOver_left (h : AgreeOff k a a') (u : τ) (v : Datum τ) :
    AgreeOff k (a.laidOver (.table u [(k, v)])) a' := by
  obtain ⟨t, es, t', es', rfl, rfl, hes, hes', hsame⟩ := h
  have hone : Entries.Ascending [(k, v)] := List.pairwise_singleton _ _
  refine ⟨u, _, t', es', laidOver_table _ _ _ _, rfl, ascending_laidOver_keys hes, hes',
    fun key hkey => ?_⟩
  rw [lookup_overEntries hone, Entries.lookup_cons_of_ne hkey, ← hsame key hkey]
  exact upon_none _

end Datum

end Data

namespace Settings

open Data
open Datum (AgreeOff)

variable {k : String}

/-! ## Reading -/

/-- `k` is the key of a setting, or of a section of settings. -/
def IsKey (k : String) : Prop := ∃ p ∈ (settingsRecord {}).parts, p.key = k

/-- Other keys of a table do not count. -/
theorem fromEntries_without {σ : Type} {fields : List (Reader.Field σ)}
    (h : fields.find? (·.key == k) = none) (es : Entries (Datum Origin)) (s : σ) :
    Reader.fromEntries fields (es.without k) s = Reader.fromEntries fields es s := by
  induction es generalizing s with
  | nil => rfl
  | cons e es ih =>
    obtain ⟨key, d⟩ := e
    by_cases hkey : key = k
    · subst hkey
      rw [Entries.without, List.filter_cons_of_neg (by simp), Reader.fromEntries, h]
      exact ih s
    · rw [Entries.without, List.filter_cons_of_pos (by simpa using hkey), Reader.fromEntries,
        Reader.fromEntries]
      split
      next f _ =>
        cases Reader.under key (f.set s d) with
        | error _ => rfl
        | ok s' => exact ih s'
      next => exact ih s

theorem read_congr (hk : ¬ IsKey k) {d d' : Datum Origin} (h : AgreeOff k d d') :
    Settings.read d = Settings.read d' := by
  obtain ⟨t, es, t', es', rfl, rfl, hes, hes', hsame⟩ := h
  have hnone : ((settingsRecord {}).parts.map Part.field).find? (·.key == k) = none := by
    rw [List.find?_eq_none, List.forall_mem_map]
    exact fun p hp heq => hk ⟨p, hp, beq_iff_eq.1 heq⟩
  rw [← settingsRecord_read]
  change Reader.fromEntries _ es _ = Reader.fromEntries _ es' _
  rw [← fromEntries_without hnone es, Entries.without_congr hes hes' hsame,
    fromEntries_without hnone es']

/-! ## Loading -/

section
variable {name : String} {keys : List String} (hkeys : keysOf name = some (k :: keys))
include hkeys

theorem agreeOff_variables (vars : List (String × String)) {d d' : Datum Origin}
    (h : AgreeOff k d d') :
    AgreeOff k ((vars.filterMap variableLayer).foldl Datum.laidOver d)
      (((vars.filter (·.1 != name)).filterMap variableLayer).foldl Datum.laidOver d') := by
  induction vars generalizing d d' with
  | nil => exact h
  | cons v vars ih =>
    by_cases hname : v.1 = name
    · have hlayer : variableLayer v = some (.table .environment [(k, nest keys (valueOf v))]) := by
        rw [variableLayer, hname, hkeys]
        rfl
      rw [List.filter_cons_of_neg (by simpa using hname), List.filterMap_cons, hlayer,
        List.foldl_cons]
      exact ih (h.laidOver_left _ _)
    · rw [List.filter_cons_of_pos (by simpa using hname), List.filterMap_cons, List.filterMap_cons]
      cases hlayer : variableLayer v with
      | none => exact ih h
      | some l =>
        obtain ⟨ks, hks, rfl⟩ := Option.map_eq_some_iff.1 hlayer
        have hasc : (nest ks (valueOf v)).Ascending :=
          ascending_nest ks ((Inline.ascending_read v.2).retag _)
        have htable : (nest ks (valueOf v)).IsTable := by
          cases ks with
          | nil => exact absurd rfl (keysOf_ne_nil hks)
          | cons => trivial
        exact ih (h.laidOver (Datum.agreeOff_refl k hasc htable))

theorem agreeOff_environmentLayer (env : Environment) :
    AgreeOff k (environmentLayer env) (environmentLayer (env.without name)) := by
  rw [environmentLayer_eq, environmentLayer_eq]
  refine agreeOff_variables hkeys env.vars (Datum.agreeOff_refl k ?_ trivial)
  exact .table Origin.environment [] Entries.ascending_nil fun _ h => absurd h List.not_mem_nil

/-- Settings do not depend on a variable under keys that are not theirs. -/
theorem load_without (hk : ¬ IsKey k) (r : Request) (t : FileTree) (env : Environment) :
    load r t (env.without name) = load r t env := by
  have hother : ∀ key, keysOf key = none → (env.without name).get? key = env.get? key := by
    refine fun key hkey => Entries.lookup_without ?_ env.vars
    rintro rfl
    rw [hkey] at hkeys
    cases hkeys
  have haccount : (env.without name).account = env.account := rfl
  simp only [load, readAll, sourcesOf_congr r t haccount hother]
  cases hfiles : layFiles t ((sourcesOf r t env).userFile.toList ++ (sourcesOf r t env).projectFiles ++
      (sourcesOf r t env).explicitFiles) with
  | error faults => rfl
  | ok files =>
    rw [layFiles_eq_ok (readable_of_layFiles hfiles)] at hfiles
    have hasc : files.Ascending := by
      rw [← Except.ok.inj hfiles]
      exact ascending_laid (fun l hl => (ascending_layersOf l hl).1)
        (.table Origin.builtin [] Entries.ascending_nil fun _ h => absurd h List.not_mem_nil)
    have htable : files.IsTable := by
      rw [← Except.ok.inj hfiles]
      exact isTable_laid (fun l hl => (ascending_layersOf l hl).2) trivial
    have hagree := (Datum.agreeOff_refl k hasc htable).laidOver (agreeOff_environmentLayer hkeys env)
    dsimp only
    rw [read_congr hk hagree]

end

end Settings

end BuildGate
