import BuildGate.Data.Basic
import Mathlib.Data.List.Pairwise
import Mathlib.Data.String.Basic

/-!
# Tables laid over each other

What stands under keys when data is laid over other data: what the upper one has there, over what
the lower one has there. This holds as long as the keys lead through tables on both sides, so that
neither hides a part of the other. A value without entries hides whatever was below it, even where
the keys lead nowhere.

**Results.**
* `Entries.Ascending.put`: putting a value keeps the keys of a table in order.
* `Datum.Ascending.laidOver`, `Datum.Leads.laidOver`: what laying over keeps.
* `Datum.at?_laidOver`: what stands under keys afterwards.
* `Datum.at?_laidOver_value`: an upper value that is no table stays.
* `Datum.at?_retag`, `Datum.Ascending.retag`: tags make no difference.
* `Plain.ascending_ofEntries`: entries put one after the other are in order.
-/
namespace BuildGate.Data

namespace Entries

variable {α : Type} {key k : String} {value v : α} {es : Entries α}

/-- The keys of `es` stand in order, each of them once. -/
def Ascending (es : Entries α) : Prop := es.Pairwise fun a b => a.1 < b.1

theorem ascending_nil : Ascending ([] : Entries α) := List.Pairwise.nil

theorem mem_put {e : String × α} (h : e ∈ put key value es) : e = (key, value) ∨ e ∈ es := by
  induction es with
  | nil => exact .inl (List.mem_singleton.1 h)
  | cons x rest ih =>
    unfold put at h
    split at h
    · exact List.mem_cons.1 h
    · split at h
      · exact (List.mem_cons.1 h).imp_right (List.mem_cons_of_mem x)
      · obtain rfl | h := List.mem_cons.1 h
        · exact .inr List.mem_cons_self
        · exact (ih h).imp_right (List.mem_cons_of_mem x)

theorem Ascending.put (h : Ascending es) (key : String) (value : α) :
    Ascending (Entries.put key value es) := by
  induction es with
  | nil => exact List.pairwise_singleton _ _
  | cons x rest ih =>
    obtain ⟨a, b⟩ := x
    obtain ⟨hhead, hrest⟩ := List.pairwise_cons.1 h
    unfold Entries.put
    split
    next hlt =>
      refine List.pairwise_cons.2 ⟨fun e he => ?_, h⟩
      obtain rfl | he := List.mem_cons.1 he
      · exact hlt
      · exact lt_trans hlt (hhead e he)
    next hnlt =>
      split
      next heq => exact List.pairwise_cons.2 ⟨fun e he => heq ▸ hhead e he, hrest⟩
      next hne =>
        refine List.pairwise_cons.2 ⟨fun e he => ?_, ih hrest⟩
        obtain rfl | he := mem_put he
        · exact lt_of_le_of_ne (not_lt.1 hnlt) (Ne.symm hne)
        · exact hhead e he

theorem mem_of_lookup (h : es.lookup k = some v) : (k, v) ∈ es := by
  obtain ⟨front, back, rfl, -⟩ := List.lookup_eq_some_iff.1 h
  exact List.mem_append_right _ List.mem_cons_self

theorem Ascending.lookup_tail (h : Ascending ((k, v) :: es)) : es.lookup k = none := by
  rw [List.lookup_eq_none_iff]
  intro e he
  exact bne_iff_ne.2 (ne_of_lt ((List.pairwise_cons.1 h).1 e he))

theorem lookup_cons_of_ne (h : k ≠ key) : ((key, value) :: es).lookup k = es.lookup k := by
  rw [List.lookup_cons, beq_false_of_ne h]

end Entries

namespace Datum

variable {τ : Type} {a b d : Datum τ} {keys : List String}

/-- What stands under `keys`, from one table to the next. -/
def at? : List String → Datum τ → Option (Datum τ)
  | [], d => some d
  | k :: keys, .table _ es => (es.lookup k).bind (at? keys)
  | _ :: _, _ => none

/-- The `keys` lead through tables, as far as they lead. -/
def Leads : List String → Datum τ → Prop
  | [], _ => True
  | k :: keys, .table _ es => ∀ d, es.lookup k = some d → Leads keys d
  | _ :: _, _ => False

/-- The tables in the data are ascending by key; those in lists do not count. -/
inductive Ascending : Datum τ → Prop
  | scalar (t : τ) (v : Scalar) : Ascending (.scalar t v)
  | list (t : τ) (items : List (Datum τ)) : Ascending (.list t items)
  | table (t : τ) (es : Entries (Datum τ)) (keys : Entries.Ascending es)
    (values : ∀ e ∈ es, Ascending e.2) : Ascending (.table t es)

def IsTable : Datum τ → Prop
  | table _ _ => True
  | _ => False

/-- Lays what stands in the layer above, if anything, over what stands there below. -/
def upon : Option (Datum τ) → Option (Datum τ) → Option (Datum τ)
  | below, none => below
  | none, some d => some d
  | some o, some d => some (laidOver o d)

@[simp] theorem upon_none (below : Option (Datum τ)) : upon below none = below := by
  cases below <;> rfl

@[simp] theorem none_upon (d : Option (Datum τ)) : upon none d = d := by
  cases d <;> rfl

theorem upon_some (o d : Datum τ) : upon (some o) (some d) = some (laidOver o d) := rfl

theorem leads_of_at? (h : d.at? keys = some a) : Leads keys d := by
  induction keys generalizing d with
  | nil => trivial
  | cons k keys ih =>
    cases d with
    | table t es =>
      intro x hx
      rw [at?, hx] at h
      exact ih h
    | scalar => cases h
    | list => cases h

theorem leads_iff : Leads keys d ↔
    ∀ front k back, keys = front ++ k :: back → ∀ x, d.at? front = some x → x.IsTable := by
  induction keys generalizing d with
  | nil => simp [Leads]
  | cons k keys ih =>
    cases d with
    | table t es =>
      simp only [Leads, ih]
      constructor
      · rintro h (_ | ⟨k', front⟩) last back hkeys x hx
        · cases hx
          trivial
        · obtain ⟨rfl, hrest⟩ := List.cons_eq_cons.1 hkeys
          obtain ⟨y, hy, hx⟩ := Option.bind_eq_some_iff.1 hx
          exact h y hy front last back hrest x hx
      · rintro h y hy front last back rfl x hx
        exact h (k :: front) last back rfl x (by rw [at?, hy]; exact hx)
    | scalar t v => exact ⟨False.elim, fun h => h [] k keys rfl _ rfl⟩
    | list t items => exact ⟨False.elim, fun h => h [] k keys rfl _ rfl⟩

/-! ## Laying tables over each other -/

theorem laidOver_of_not_table (h : ¬ b.IsTable) : laidOver a b = b := by
  cases b with
  | table => exact absurd trivial h
  | scalar => rfl
  | list => rfl

theorem laidOver_table (t t' : τ) (old new : Entries (Datum τ)) :
    laidOver (.table t old) (.table t' new) = .table t' (overEntries old new) := rfl

theorem laidOver_onto (h : ¬ a.IsTable) : laidOver a b = b := by
  cases b with
  | table =>
    cases a with
    | table => exact absurd trivial h
    | scalar => rfl
    | list => rfl
  | scalar => rfl
  | list => rfl

theorem overEntries_cons (old new : Entries (Datum τ)) (k : String) (d : Datum τ) :
    overEntries old ((k, d) :: new) =
      overEntries (Entries.put k (((old.lookup k).elim d) (laidOver · d)) old) new := by
  rw [overEntries]
  cases old.lookup k <;> rfl

theorem upon_elim (o : Option (Datum τ)) (d : Datum τ) :
    upon o (some d) = some (o.elim d (laidOver · d)) := by
  cases o <;> rfl

theorem lookup_overEntries {new : Entries (Datum τ)} (hnew : Entries.Ascending new)
    (old : Entries (Datum τ)) (k : String) :
    (overEntries old new).lookup k = upon (old.lookup k) (new.lookup k) := by
  induction new generalizing old with
  | nil => rfl
  | cons e new ih =>
    obtain ⟨key, d⟩ := e
    rw [overEntries_cons, ih (List.pairwise_cons.1 hnew).2, Entries.lookup_put]
    by_cases h : k = key
    · subst h
      rw [if_pos rfl, hnew.lookup_tail, List.lookup_cons_self, upon_elim]
      rfl
    · rw [if_neg h, Entries.lookup_cons_of_ne h]

/-- Under keys that lead through tables on both sides stands what the upper side has there, over what
the lower one has. -/
theorem at?_laidOver (hb : b.Ascending) (ha : Leads keys a) (hkeys : Leads keys b) :
    (laidOver a b).at? keys = upon (a.at? keys) (b.at? keys) := by
  induction keys generalizing a b with
  | nil => rfl
  | cons k keys ih =>
    cases a with
    | table t old =>
      cases b with
      | table t' new =>
        obtain _ | _ | ⟨_, _, hnew, hvalues⟩ := hb
        rw [laidOver_table, at?, at?, at?, lookup_overEntries hnew]
        cases hold : old.lookup k with
        | none => simp
        | some o =>
          cases hnew' : new.lookup k with
          | none => simp
          | some d =>
            exact ih (hvalues _ (Entries.mem_of_lookup hnew')) (ha o hold) (hkeys d hnew')
      | scalar => exact hkeys.elim
      | list => exact hkeys.elim
    | scalar => exact ha.elim
    | list => exact ha.elim

/-- An upper value that is no table stays where it is, whatever is below. -/
theorem at?_laidOver_value {v : Datum τ} (hb : b.Ascending) (h : b.at? keys = some v)
    (hv : ¬ v.IsTable) : (laidOver a b).at? keys = some v := by
  induction keys generalizing a b with
  | nil =>
    cases h
    rw [laidOver_of_not_table hv, at?]
  | cons k keys ih =>
    by_cases ha : a.IsTable
    · cases a with
      | table t old =>
        cases b with
        | table t' new =>
          obtain _ | _ | ⟨_, _, hnew, hvalues⟩ := hb
          rw [at?] at h
          obtain ⟨d, hd, h⟩ := Option.bind_eq_some_iff.1 h
          rw [laidOver_table, at?, lookup_overEntries hnew, hd, upon_elim, Option.bind_some]
          cases old.lookup k with
          | none => exact h
          | some o => exact ih (hvalues _ (Entries.mem_of_lookup hd)) h
        | scalar => cases h
        | list => cases h
      | scalar => exact ha.elim
      | list => exact ha.elim
    · rw [laidOver_onto ha, h]

/-! ## What laying over keeps -/

theorem Leads.laidOver (hb : b.Ascending) (ha : Leads keys a) (hkeys : Leads keys b) :
    Leads keys (laidOver a b) := by
  induction keys generalizing a b with
  | nil => trivial
  | cons k keys ih =>
    cases a with
    | table t old =>
      cases b with
      | table t' new =>
        obtain _ | _ | ⟨_, _, hnew, hvalues⟩ := hb
        intro d hd
        rw [lookup_overEntries hnew] at hd
        cases hold : old.lookup k with
        | none =>
          rw [hold, none_upon] at hd
          exact hkeys d hd
        | some o =>
          cases hnew' : new.lookup k with
          | none =>
            rw [hnew', upon_none] at hd
            exact ha d hd
          | some n =>
            rw [hold, hnew', upon_some] at hd
            cases hd
            exact ih (hvalues _ (Entries.mem_of_lookup hnew')) (ha o hold) (hkeys n hnew')
      | scalar => exact hkeys.elim
      | list => exact hkeys.elim
    | scalar => exact ha.elim
    | list => exact ha.elim

mutual

theorem Ascending.laidOver {a : Datum τ} (ha : a.Ascending) :
    ∀ b : Datum τ, b.Ascending → (laidOver a b).Ascending
  | .scalar t v, _ => .scalar t v
  | .list t items, _ => .list t items
  | .table t new, hb => by
    obtain _ | _ | ⟨_, _, hnew, hvalues⟩ := hb
    cases a with
    | table t' old =>
      obtain _ | _ | ⟨_, _, hold, holds⟩ := ha
      obtain ⟨hkeys, hall⟩ := ascending_overEntries hold holds new hvalues
      exact .table t _ hkeys hall
    | scalar => exact .table t new hnew hvalues
    | list => exact .table t new hnew hvalues

theorem ascending_overEntries {old : Entries (Datum τ)} (hold : Entries.Ascending old)
    (holds : ∀ e ∈ old, Ascending e.2) :
    ∀ new : Entries (Datum τ), (∀ e ∈ new, Ascending e.2) →
      Entries.Ascending (overEntries old new) ∧ ∀ e ∈ overEntries old new, Ascending e.2
  | [], _ => ⟨hold, holds⟩
  | (k, d) :: new, hnew => by
    rw [List.forall_mem_cons] at hnew
    have hput : ∀ x : Datum τ, x.Ascending → ∀ e ∈ Entries.put k x old, Ascending e.2 := by
      intro x hx e he
      obtain rfl | he := Entries.mem_put he
      · exact hx
      · exact holds e he
    have hvalue : (((old.lookup k).elim d) (Datum.laidOver · d)).Ascending := by
      cases ho : old.lookup k with
      | none => exact hnew.1
      | some o => exact Ascending.laidOver (holds _ (Entries.mem_of_lookup ho)) d hnew.1
    rw [overEntries_cons]
    exact ascending_overEntries (hold.put k _) (hput _ hvalue) new hnew.2

end

/-! ## Tags -/

section
variable {σ : Type}

theorem retagEntries_eq (t : τ) (es : Entries (Datum σ)) :
    retagEntries t es = es.map fun e => (e.1, e.2.retag t) := by
  induction es with
  | nil => rfl
  | cons e es ih => rw [retagEntries, ih, List.map_cons]

theorem lookup_retagEntries (t : τ) (es : Entries (Datum σ)) (k : String) :
    (retagEntries t es).lookup k = (es.lookup k).map (retag t) := by
  induction es with
  | nil => rfl
  | cons e es ih =>
    obtain ⟨key, d⟩ := e
    rw [retagEntries, List.lookup_cons, List.lookup_cons, ih]
    cases k == key <;> rfl

theorem at?_retag (t : τ) (keys : List String) (d : Datum σ) :
    (d.retag t).at? keys = (d.at? keys).map (retag t) := by
  induction keys generalizing d with
  | nil => rfl
  | cons k keys ih =>
    cases d with
    | table t' es =>
      rw [retag, at?, at?, lookup_retagEntries]
      cases es.lookup k with
      | none => rfl
      | some x => exact ih x
    | scalar => rfl
    | list => rfl

theorem Ascending.retag (t : τ) {d : Datum σ} (h : d.Ascending) : (d.retag t).Ascending := by
  induction h with
  | scalar _ v => exact .scalar t v
  | list _ items => exact .list t _
  | table _ es keys values ih =>
    rw [Datum.retag, retagEntries_eq]
    refine .table t _ (List.pairwise_map.2 keys) fun e he => ?_
    obtain ⟨x, hx, rfl⟩ := List.mem_map.1 he
    exact ih x hx

end

end Datum

namespace Plain

theorem ascending_ofEntries {es : Entries Plain} (h : ∀ e ∈ es, e.2.Ascending) :
    (ofEntries es).Ascending := by
  have hfold : ∀ (es acc : Entries Plain), (∀ e ∈ es, e.2.Ascending) → acc.Ascending →
      (∀ e ∈ acc, e.2.Ascending) →
      (es.foldl (fun acc e => Entries.put e.1 e.2 acc) acc).Ascending ∧
        ∀ e ∈ es.foldl (fun acc e => Entries.put e.1 e.2 acc) acc, e.2.Ascending := by
    intro es
    induction es with
    | nil => exact fun _ _ hacc hvalues => ⟨hacc, hvalues⟩
    | cons e es ih =>
      intro acc hes hacc hvalues
      rw [List.forall_mem_cons] at hes
      refine ih _ hes.2 (hacc.put e.1 e.2) fun x hx => ?_
      obtain rfl | hx := Entries.mem_put hx
      · exact hes.1
      · exact hvalues x hx
  obtain ⟨hkeys, hvalues⟩ := hfold es [] h Entries.ascending_nil fun _ he => absurd he List.not_mem_nil
  exact .table () _ hkeys hvalues

end Plain

end BuildGate.Data
