import BuildGate.Data.Double

/-!
# Data

What a configuration file holds, whatever its format: scalars, lists and tables. The tables are
ascending by key. Every node carries a tag, which is used to remember where it was written.

**Results.**
* `Entries.lookup_put`: what is put under a key is found there, and other keys keep what they had.
-/
namespace BuildGate.Data

/-- What stands under the keys of a table. -/
abbrev Entries (α : Type) := List (String × α)

namespace Entries

/-- Puts `value` under `key` of an ascending table, in place of one that is there. -/
def put {α : Type} (key : String) (value : α) : Entries α → Entries α
  | [] => [(key, value)]
  | (k, v) :: rest =>
    if key < k then (key, value) :: (k, v) :: rest
    else if key = k then (key, value) :: rest
    else (k, v) :: put key value rest

theorem lookup_put {α : Type} (key k : String) (value : α) (es : Entries α) :
    (put key value es).lookup k = if k = key then some value else es.lookup k := by
  have first (v : α) (r : Entries α) :
      ((key, v) :: r).lookup k = if k = key then some v else r.lookup k := by
    by_cases h : k = key
    · simp [h]
    · have h' : (k == key) = false := by simpa using h
      simp [List.lookup_cons, h, h']
  induction es with
  | nil => simp [put, first]
  | cons e rest ih =>
    obtain ⟨a, v⟩ := e
    unfold put
    split
    · rw [first]
    · split
      · rename_i h
        subst h
        rw [first, first]
        split <;> rfl
      · rename_i _ hne
        by_cases h : k = a
        · subst h
          simp [Ne.symm hne]
        · have h' : (k == a) = false := by simpa using h
          simp [List.lookup_cons, h', ih]

end Entries

/-- A value without parts. Integers are kept as the format that wrote them sees them. -/
inductive Scalar where
  | null
  | bool (value : Bool)
  /-- An integer of a format whose integers of 64 bits have no sign unless they are negative. -/
  | unsigned (value : Nat)
  | signed (value : Int)
  /-- An integer that takes more than 64 bits. -/
  | wide (value : Int)
  | float (value : Double)
  | char (value : Char)
  | text (value : String)
  deriving Repr, DecidableEq

/-- Data with a tag of `τ` on every node. -/
inductive Datum (τ : Type) where
  | scalar (tag : τ) (value : Scalar)
  | list (tag : τ) (items : List (Datum τ))
  | table (tag : τ) (entries : List (String × Datum τ))
  deriving Repr, Inhabited

namespace Datum

def tag {τ : Type} : Datum τ → τ
  | scalar t _ => t
  | list t _ => t
  | table t _ => t

mutual

/-- The data with the tag `t` on every node. -/
def retag {σ τ : Type} (t : τ) : Datum σ → Datum τ
  | scalar _ v => scalar t v
  | list _ items => list t (retagItems t items)
  | table _ entries => table t (retagEntries t entries)

def retagItems {σ τ : Type} (t : τ) : List (Datum σ) → List (Datum τ)
  | [] => []
  | d :: rest => retag t d :: retagItems t rest

def retagEntries {σ τ : Type} (t : τ) : List (String × Datum σ) → List (String × Datum τ)
  | [] => []
  | (k, d) :: rest => (k, retag t d) :: retagEntries t rest

end

mutual

/-- Lays data over `below`: tables are joined (`overEntries`), and everything else is replaced. -/
def laidOver {τ : Type} (below : Datum τ) : Datum τ → Datum τ
  | table t entries =>
    match below with
    | table _ old => table t (overEntries old entries)
    | _ => table t entries
  | d => d

def overEntries {τ : Type} (old : List (String × Datum τ)) :
    List (String × Datum τ) → List (String × Datum τ)
  | [] => old
  | (k, d) :: rest =>
    match old.lookup k with
    | some o => overEntries (Entries.put k (laidOver o d) old) rest
    | none => overEntries (Entries.put k d old) rest

end

end Datum

/-- Data without tags, as a file holds it. -/
abbrev Plain := Datum Unit

namespace Plain

def null : Plain := .scalar () .null

def ofBool (b : Bool) : Plain := .scalar () (.bool b)

def ofText (s : String) : Plain := .scalar () (.text s)

def ofList (items : List Plain) : Plain := .list () items

/-- A table of `entries`, of which the last one under a key counts. -/
def ofEntries (entries : List (String × Plain)) : Plain :=
  .table () (entries.foldl (fun es (k, d) => Entries.put k d es) [])

end Plain

end BuildGate.Data
