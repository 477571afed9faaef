import BuildGate.Data.Inline
import BuildGate.Data.Json
import BuildGate.Data.Toml.Document
import BuildGate.Data.Yaml.Reader
import BuildGate.Proofs.Tables

/-!
# Data that a text holds

In whatever format, a text is read as data whose tables are ascending by key, and a file as a table.
JSON, YAML and lines collect the entries of a table before they put them under their keys. TOML fills
its tables statement by statement, and each statement keeps them in order.

**Results.**
* `Reading.Gives`: a property of every value that a reading gives.
* `Json.ascending_read?`, `Toml.ascending_read?`, `Yaml.ascending_read?`: the tables of a file.
* `Inline.ascending_read`: those of a line.
-/
namespace BuildGate.Data

/-! ## What a reading gives -/

namespace Reading

variable {α β : Type} {r : Reading α} {f : α → Reading β} {P : α → Prop} {Q : β → Prop}

/-- `P` holds of every value that `r` gives. -/
def Gives (r : Reading α) (P : α → Prop) : Prop := ∀ cs a rest, r cs = some (a, rest) → P a

theorem gives_pure {a : α} (h : P a) : Gives (pure a) P := by
  intro cs x rest hx
  cases hx
  exact h

theorem gives_refuse : Gives (refuse : Reading α) P := fun _ _ _ h => by cases h

theorem Gives.bind (hr : Gives r P) (hf : ∀ a, P a → Gives (f a) Q) : Gives (r >>= f) Q := by
  intro cs b rest h
  obtain ⟨⟨a, rest'⟩, ha, hb⟩ := Option.bind_eq_some_iff.1 h
  exact hf a (hr cs a rest' ha) rest' b rest hb

/-- A property of what the second of two readings gives may need nothing from the first. -/
theorem Gives.after (hf : ∀ a, Gives (f a) Q) : Gives (r >>= f) Q :=
  Gives.bind (fun _ _ _ _ => trivial : Gives r fun _ => True) fun a _ => hf a

/-- What is read first in some case makes no difference. -/
theorem Gives.guarded {c : Prop} [Decidable c] {first : Reading PUnit} {next : PUnit → Reading β}
    (h : Gives (next ⟨⟩) Q) : Gives (if c then first >>= next else next ⟨⟩) Q := by
  split
  · exact .after fun _ => h
  · exact h

theorem gives_optional (h : Gives r P) : Gives (Reading.optional r) fun a => ∀ x, a = some x → P x := by
  intro cs a rest ha x hx
  unfold Reading.optional at ha
  split at ha
  next hr =>
    cases ha
    cases hx
    exact h _ _ _ hr
  next =>
    cases ha
    cases hx

theorem Gives.whole (h : Gives r P) {s : String} {a : α} (ha : whole r s = some a) : P a := by
  unfold Reading.whole at ha
  split at ha
  next x hx =>
    cases ha
    exact h _ _ _ hx
  next => cases ha

end Reading

open Reading

/-- The tables in every value of `es` are ascending. -/
def AscendingValues (es : Entries Plain) : Prop := ∀ e ∈ es, e.2.Ascending

theorem ascendingValues_nil : AscendingValues [] := fun _ h => absurd h List.not_mem_nil

theorem ascendingValues_cons {k : String} {d : Plain} {es : Entries Plain} (hd : d.Ascending)
    (h : AscendingValues es) : AscendingValues ((k, d) :: es) :=
  List.forall_mem_cons.2 ⟨hd, h⟩

/-! ## JSON -/

namespace Json

/-- The values and the entries that are read with the same fuel. -/
theorem ascending_parts (fuel : Nat) : (∀ depth, Gives (value depth fuel) Datum.Ascending) ∧
    ∀ depth, Gives (members depth fuel) AscendingValues := by
  induction fuel with
  | zero =>
    exact ⟨fun depth => by rw [value]; exact gives_refuse,
      fun depth => by rw [members]; exact gives_refuse⟩
  | succ fuel ih =>
    obtain ⟨hvalue, hmembers⟩ := ih
    constructor
    · intro depth
      rw [value]
      refine .after fun _ => .after fun c => ?_
      split
      · exact .after fun s => gives_pure (.scalar () _)
      · refine .after fun _ => .guarded (.after fun _ => .after fun b => ?_)
        split
        · exact gives_pure (.list () _)
        · exact .after fun ds => gives_pure (.list () _)
      · refine .after fun _ => .guarded (.after fun _ => .after fun b => ?_)
        split
        · exact gives_pure (Plain.ascending_ofEntries ascendingValues_nil)
        · exact .bind (hmembers _) fun es hes => gives_pure (Plain.ascending_ofEntries hes)
      · exact .after fun _ => gives_pure (.scalar () _)
      · exact .after fun _ => gives_pure (.scalar () _)
      · exact .after fun _ => gives_pure (.scalar () _)
      · exact .after fun v => gives_pure (.scalar () _)
    · intro depth
      rw [members]
      refine .after fun _ => .after fun key => .after fun _ => .after fun _ => ?_
      refine .bind (hvalue depth) fun d hd => .after fun _ => .after fun b => ?_
      split
      · exact .bind (hmembers depth) fun es hes => gives_pure (ascendingValues_cons hd hes)
      · exact .after fun _ => gives_pure (ascendingValues_cons hd ascendingValues_nil)

theorem ascending_read? {text : String} {d : Plain} (h : read? text = some d) :
    d.Ascending ∧ d.IsTable := by
  have hdocument : ∀ fuel, Gives (document fuel) Datum.Ascending := fun fuel =>
    .bind ((ascending_parts fuel).1 _) fun d hd => .after fun _ => gives_pure hd
  unfold read? at h
  split at h
  next t entries hwhole =>
    cases h
    exact ⟨(hdocument _).whole hwhole, trivial⟩
  next => cases h

end Json

/-! ## Lines -/

namespace Inline

theorem ascending_parts (fuel : Nat) : Gives (value fuel) Datum.Ascending ∧
    Gives (core fuel) Datum.Ascending ∧ Gives (members fuel) AscendingValues := by
  induction fuel with
  | zero =>
    exact ⟨by rw [value]; exact gives_refuse, by rw [core]; exact gives_refuse,
      by rw [members]; exact gives_refuse⟩
  | succ fuel ih =>
    obtain ⟨hvalue, hcore, hmembers⟩ := ih
    refine ⟨?_, ?_, ?_⟩
    · rw [value]
      exact .after fun _ => .bind hcore fun d hd => .after fun _ => gives_pure hd
    · rw [core]
      refine .after fun b => ?_
      split
      · exact gives_pure (.scalar () _)
      · refine .after fun b => ?_
        split
        · exact gives_pure (.scalar () _)
        · refine .after fun c => ?_
          split
          · exact .after fun _ => .bind hmembers fun es hes =>
              gives_pure (Plain.ascending_ofEntries hes)
          · exact .after fun _ => .after fun ds => gives_pure (.list () _)
          · exact .after fun s => gives_pure (.scalar () _)
          · exact .after fun _ => .after fun _ => .after fun _ => gives_pure (.scalar () _)
          · exact .after fun w => gives_pure (.scalar () _)
    · rw [members]
      refine .after fun b => ?_
      split
      · exact gives_pure ascendingValues_nil
      · refine .after fun _ => .after fun key => .after fun _ => .after fun _ => ?_
        refine .bind hvalue fun d hd => .after fun b => ?_
        split
        · exact .bind hmembers fun es hes => gives_pure (ascendingValues_cons hd hes)
        · exact .after fun _ => gives_pure (ascendingValues_cons hd ascendingValues_nil)

theorem ascending_read (line : String) : (read line).Ascending := by
  rw [read]
  cases h : read? line with
  | none => exact .scalar () _
  | some d => exact (ascending_parts _).1.whole h

end Inline

/-! ## YAML -/

namespace Yaml

theorem ascending_underTag (tag : Option String) {d : Plain} (h : d.Ascending) :
    (underTag tag d).Ascending := by
  unfold underTag
  split
  · exact Plain.ascending_ofEntries (ascendingValues_cons h ascendingValues_nil)
  · exact h

theorem forall_mem_mapM {α β : Type} {f : α → Option β} {P : β → Prop}
    (hf : ∀ a b, f a = some b → P b) {as : List α} {bs : List β} (h : as.mapM f = some bs) :
    ∀ b ∈ bs, P b := by
  induction as generalizing bs with
  | nil =>
    cases h
    exact fun b hb => absurd hb List.not_mem_nil
  | cons a as ih =>
    rw [List.mapM_cons] at h
    obtain ⟨b, hb, h⟩ := Option.bind_eq_some_iff.1 h
    obtain ⟨rest, hrest, h⟩ := Option.bind_eq_some_iff.1 h
    cases h
    exact List.forall_mem_cons.2 ⟨hf a b hb, ih hrest⟩

theorem ascending_ofScalar (depth : Nat) (tag : Option String) (s : String) (isPlain : Bool)
    {d : Plain} (h : plain? depth (.scalar tag s isPlain) = some d) : d.Ascending := by
  rw [plain?] at h
  split at h
  · obtain ⟨v, -, hd⟩ := Option.bind_eq_some_iff.1 h
    cases hd
    exact Plain.ascending_ofEntries (ascendingValues_cons (.scalar () v) ascendingValues_nil)
  · obtain ⟨v, -, hd⟩ := Option.bind_eq_some_iff.1 h
    cases hd
    exact .scalar () v

theorem ascending_plain? (depth : Nat) (n : Node) {d : Plain} (h : plain? depth n = some d) :
    d.Ascending := by
  induction depth generalizing n d with
  | zero =>
    cases n with
    | scalar tag s isPlain => exact ascending_ofScalar 0 tag s isPlain h
    | list => simp [plain?] at h
    | table => simp [plain?] at h
  | succ depth ih =>
    cases n with
    | scalar tag s isPlain => exact ascending_ofScalar _ tag s isPlain h
    | list tag items =>
      rw [plain?] at h
      obtain ⟨ds, -, hd⟩ := Option.bind_eq_some_iff.1 h
      cases hd
      exact ascending_underTag tag (.list () ds)
    | table tag entries =>
      rw [plain?] at h
      obtain ⟨es, hes, hd⟩ := Option.bind_eq_some_iff.1 h
      cases hd
      refine ascending_underTag tag (Plain.ascending_ofEntries (forall_mem_mapM ?_ hes))
      intro e x hx
      rw [plain?.member?] at hx
      obtain ⟨k, -, hx⟩ := Option.bind_eq_some_iff.1 hx
      obtain ⟨v, hv, hx⟩ := Option.bind_eq_some_iff.1 hx
      cases hx
      exact ih e.2 hv

theorem ascending_read? {text : String} {d : Plain} (h : read? text = some d) :
    d.Ascending ∧ d.IsTable := by
  obtain ⟨ts, -, h⟩ := Option.bind_eq_some_iff.1 h
  obtain ⟨n, -, h⟩ := Option.bind_eq_some_iff.1 h
  split at h
  · cases h
    exact ⟨Plain.ascending_ofEntries ascendingValues_nil, trivial⟩
  · cases h
    exact ⟨Plain.ascending_ofEntries ascendingValues_nil, trivial⟩
  · refine ⟨ascending_plain? _ _ h, ?_⟩
    rw [nestLimit, plain?] at h
    obtain ⟨es, -, h⟩ := Option.bind_eq_some_iff.1 h
    cases h
    trivial
  · cases h

end Yaml

/-! ## TOML -/

namespace Toml

/-- The tables of a node are ascending by key while it is filled. -/
inductive Ordered : Node → Prop
  | value (d : Plain) (h : d.Ascending) : Ordered (.value d)
  | table (headed dotted : Bool) (es : Entries Node) (keys : es.Ascending)
    (nodes : ∀ e ∈ es, Ordered e.2) : Ordered (.table headed dotted es)
  | tables (elements : List (Entries Node)) : Ordered (.tables elements)

/-- The table `es` is in order, and so is every node in it. -/
structure OrderedTable (es : Entries Node) : Prop where
  keys : es.Ascending
  nodes : ∀ e ∈ es, Ordered e.2

theorem orderedTable_nil : OrderedTable [] :=
  ⟨Entries.ascending_nil, fun _ h => absurd h List.not_mem_nil⟩

theorem OrderedTable.put {es : Entries Node} (h : OrderedTable es) (key : String) {n : Node}
    (hn : Ordered n) : OrderedTable (es.put key n) := by
  refine ⟨h.keys.put key n, fun e he => ?_⟩
  obtain rfl | he := Entries.mem_put he
  · exact hn
  · exact h.nodes e he

/-- A change that keeps a table in order keeps the tables on the way to it in order. -/
theorem orderedTable_atPath {dotted : Bool} {f : Bool → Entries Node → Option (Entries Node)}
    (hf : ∀ here es es', OrderedTable es → f here es = some es' → OrderedTable es')
    (path : List String) {here : Bool} {es es' : Entries Node} (hes : OrderedTable es)
    (h : atPath dotted f path here es = some es') : OrderedTable es' := by
  induction path generalizing here es es' with
  | nil => exact hf here es es' hes h
  | cons k path ih =>
    rw [atPath] at h
    split at h
    · obtain ⟨sub, hsub, h⟩ := Option.bind_eq_some_iff.1 h
      cases h
      obtain ⟨hkeys, hnodes⟩ := ih orderedTable_nil hsub
      exact hes.put k (.table _ _ sub hkeys hnodes)
    · cases h
    next headed d sub hk =>
      split at h
      · cases h
      · obtain ⟨sub', hsub, h⟩ := Option.bind_eq_some_iff.1 h
        cases h
        obtain _ | ⟨_, _, _, hkeys, hnodes⟩ | _ := hes.nodes _ (Entries.mem_of_lookup hk)
        obtain ⟨hkeys', hnodes'⟩ := ih ⟨hkeys, hnodes⟩ hsub
        exact hes.put k (.table headed d sub' hkeys' hnodes')
    next ts hk =>
      split at h
      · cases h
      · obtain ⟨last, -, h⟩ := Option.bind_eq_some_iff.1 h
        cases h
        exact hes.put k (.tables _)

theorem orderedTable_addEntry {path : List String} {key : String} {d : Plain}
    {es es' : Entries Node} (hd : d.Ascending) (hes : OrderedTable es)
    (h : addEntry path key d es = some es') : OrderedTable es' := by
  refine orderedTable_atPath (fun here es es' hes h => ?_) path hes h
  split at h
  · cases h
  · split at h
    · cases h
    · cases h
      exact hes.put key (.value d hd)

theorem orderedTable_openTable {path : List String} {key : String} {es es' : Entries Node}
    (hes : OrderedTable es) (h : openTable path key es = some es') : OrderedTable es' := by
  refine orderedTable_atPath (fun here es es' hes h => ?_) path hes h
  split at h
  · cases h
    exact hes.put key (.table _ _ _ orderedTable_nil.keys orderedTable_nil.nodes)
  next sub hk =>
    cases h
    obtain _ | ⟨_, _, _, hkeys, hnodes⟩ | _ := hes.nodes _ (Entries.mem_of_lookup hk)
    exact hes.put key (.table _ _ sub hkeys hnodes)
  · cases h

theorem orderedTable_openElement {path : List String} {key : String} {es es' : Entries Node}
    (hes : OrderedTable es) (h : openElement path key es = some es') : OrderedTable es' := by
  refine orderedTable_atPath (fun here es es' hes h => ?_) path hes h
  split at h
  · cases h
    exact hes.put key (.tables _)
  · cases h
    exact hes.put key (.tables _)
  · cases h

theorem plainEntries_eq (es : Entries Node) :
    plainEntries es = es.map fun e => (e.1, e.2.plain) := by
  induction es with
  | nil => rfl
  | cons e es ih => rw [plainEntries, ih, List.map_cons]

theorem Ordered.plain {n : Node} (h : Ordered n) : n.plain.Ascending := by
  induction h with
  | value d h => exact h
  | table headed dotted es keys nodes ih =>
    rw [Node.plain, plainEntries_eq]
    refine .table () _ (List.pairwise_map.2 keys) fun e he => ?_
    obtain ⟨x, hx, rfl⟩ := List.mem_map.1 he
    exact ih x hx
  | tables elements => exact .list () _

theorem OrderedTable.plain {es : Entries Node} (h : OrderedTable es) :
    (Datum.table () (plainEntries es) : Plain).Ascending :=
  (Ordered.table true true es h.keys h.nodes).plain

theorem gives_date : Gives date Datum.Ascending :=
  .after fun _ => .after fun _ => .after fun _ => gives_pure
    (Plain.ascending_ofEntries (ascendingValues_cons (.scalar () _) ascendingValues_nil))

theorem ascending_parts (fuel : Nat) : (∀ depth, Gives (value depth fuel) Datum.Ascending) ∧
    ∀ depth es, OrderedTable es → Gives (members depth es fuel) OrderedTable := by
  induction fuel with
  | zero =>
    exact ⟨fun depth => by rw [value]; exact gives_refuse,
      fun depth es _ => by rw [members]; exact gives_refuse⟩
  | succ fuel ih =>
    obtain ⟨hvalue, hmembers⟩ := ih
    constructor
    · intro depth
      rw [value]
      refine .after fun c => ?_
      split
      · exact .after fun _ => gives_pure (.scalar () _)
      · exact .after fun _ => gives_pure (.scalar () _)
      · exact .after fun _ => gives_pure (.scalar () _)
      · exact .after fun _ => gives_pure (.scalar () _)
      · exact .after fun _ => .guarded (.after fun ds => gives_pure (.list () ds))
      · refine .after fun _ => .guarded (.after fun _ => .after fun b => ?_)
        split
        · exact gives_pure (Plain.ascending_ofEntries ascendingValues_nil)
        · exact .bind (hmembers _ [] orderedTable_nil) fun es hes => gives_pure hes.plain
      · refine .bind (gives_optional gives_date) fun d hd => ?_
        split
        · exact gives_pure (hd _ rfl)
        · exact .after fun v => gives_pure (.scalar () v)
    · intro depth es hes
      rw [members]
      refine .after fun key => .after fun _ => .after fun _ => .bind (hvalue depth) fun d hd => ?_
      refine .after fun _ => ?_
      split
      · exact gives_refuse
      next es' hes' =>
        have hnext := orderedTable_addEntry hd hes hes'
        refine .after fun b => ?_
        split
        · exact hmembers depth es' hnext
        · exact .after fun _ => gives_pure hnext

theorem gives_statements (opened : List String) {es : Entries Node} (hes : OrderedTable es)
    (fuel : Nat) : Gives (statements opened es fuel) OrderedTable := by
  induction fuel generalizing opened es with
  | zero => rw [statements]; exact gives_refuse
  | succ fuel ih =>
    rw [statements]
    refine .after fun _ => .after fun c => ?_
    split
    · exact gives_pure hes
    · exact .after fun _ => .after fun _ => ih opened hes
    · exact .after fun _ => ih opened hes
    · exact .after fun _ => ih opened hes
    · refine .after fun isElement => .guarded (.after fun key => .after fun _ => .after fun _ => ?_)
      split
      next es' hes' =>
        refine ih _ ?_
        cases isElement with
        | false => exact orderedTable_openTable hes hes'
        | true => exact orderedTable_openElement hes hes'
      · exact gives_refuse
    · refine .after fun key => .after fun _ => .after fun _ => ?_
      refine .bind ((ascending_parts _).1 _) fun d hd => .after fun _ => ?_
      split
      next es' hes' =>
        refine ih opened (orderedTable_atPath (fun _ es es' hes h => ?_) opened hes hes')
        exact orderedTable_addEntry hd hes h
      · exact gives_refuse

theorem ascending_read? {text : String} {d : Plain} (h : read? text = some d) :
    d.Ascending ∧ d.IsTable := by
  have hdocument : ∀ fuel, Gives (document fuel) OrderedTable := fun fuel =>
    .after fun _ => gives_statements [] orderedTable_nil fuel
  obtain ⟨es, hes, rfl⟩ := Option.map_eq_some_iff.1 h
  exact ⟨((hdocument _).whole hes).plain, trivial⟩

end Toml

end BuildGate.Data
