import BuildGate.Proofs.LinkedWalks
import BuildGate.Proofs.Selection
import Mathlib.Data.List.Sort

/-!
# Roots are passed as they are

A root is escaped before it is put in front of a pattern. A part of it that has operators is not looked
up but matched against the names in its directory, all but one of which it does not match. So an
expansion passes the root in one way only, and goes on behind it as it would have from there.

**Results.**
* `nodup_children`, `children_eq`: the names in a directory, each once and in one order.
* `pathsFrom_passed`: a part that stands for one text leads on to its path and nowhere else.
* `expand_rooted`: the expansion of a pattern below a root is that of the pattern from the root on.
-/
namespace BuildGate

open FileTree

/-! ## Names in a directory -/

namespace FileTree

variable {t : FileTree}

/-- The name of `loc` in the directory `dir`, if it lies there. -/
def nameIn (dir loc : Location) : Option String :=
  match loc.getLast? with
  | some name => if loc.dropLast = dir then some name else none
  | none => none

theorem eq_of_nameIn {dir loc : Location} {name : String} (h : nameIn dir loc = some name) :
    loc = dir ++ [name] := by
  rcases List.eq_nil_or_concat loc with rfl | ⟨init, n, rfl⟩
  · cases h
  · rw [List.concat_eq_append] at h ⊢
    simp only [nameIn, List.getLast?_concat, List.dropLast_concat] at h
    split at h
    next heq => rw [heq, Option.some_inj.1 h]
    next => cases h

theorem nodup_children (wf : t.WellFormed) (dir : Location) : (t.children dir).Nodup := by
  have hnames : t.children dir =
      ((t.entries.map (·.1)).filterMap (nameIn dir)).mergeSort (· ≤ ·) := by
    rw [List.filterMap_map]
    rfl
  rw [hnames, (List.mergeSort_perm _ _).nodup_iff]
  refine List.Nodup.filterMap (fun a b name ha hb => ?_) wf.once
  rw [eq_of_nameIn ha, eq_of_nameIn hb]

theorem pairwise_children (t : FileTree) (loc : Location) :
    (t.children loc).Pairwise (· ≤ ·) := by
  have hsorted : ∀ names : List String,
      (names.mergeSort (· ≤ ·)).Pairwise fun a b => decide (a ≤ b) = true :=
    List.pairwise_mergeSort (fun a b c => by simpa using String.le_trans)
      fun a b => by simpa using String.le_total a b
  exact (hsorted _).imp of_decide_eq_true

/-- Directories in which the same names stand list them alike. -/
theorem children_eq {t₁ t₂ : FileTree} (wf₁ : t₁.WellFormed) (wf₂ : t₂.WellFormed)
    {loc₁ loc₂ : Location}
    (h : ∀ name, (t₁.get? (loc₁ ++ [name])).isSome = (t₂.get? (loc₂ ++ [name])).isSome) :
    t₁.children loc₁ = t₂.children loc₂ := by
  have hperm : (t₁.children loc₁).Perm (t₂.children loc₂) :=
    (List.perm_ext_iff_of_nodup (nodup_children wf₁ loc₁) (nodup_children wf₂ loc₂)).2 fun name => by
      rw [mem_children, mem_children, h]
  exact hperm.eq_of_pairwise' (pairwise_children t₁ loc₁) (pairwise_children t₂ loc₂)

end FileTree

/-! ## Parts of a root -/

theorem flatMap_once {α β : Type} {xs : List α} (hxs : xs.Nodup) {x : α} (hx : x ∈ xs)
    {f : α → List β} (h : ∀ y ∈ xs, y ≠ x → f y = []) : xs.flatMap f = f x := by
  obtain ⟨front, back, rfl⟩ := List.append_of_mem hx
  rw [List.nodup_middle, List.nodup_cons, List.mem_append, not_or] at hxs
  have hnone : ∀ ys : List α, ys ⊆ front ++ x :: back → x ∉ ys → ys.flatMap f = [] := by
    intro ys hys hno
    rw [List.flatMap_eq_nil_iff]
    exact fun y hy => h y (hys hy) fun heq => hno (heq ▸ hy)
  rw [List.flatMap_append, List.flatMap_cons,
    hnone front (List.subset_append_left _ _) hxs.1.1,
    hnone back (fun y hy => by simp [hy]) hxs.1.2, List.nil_append, List.append_nil]

namespace Glob.Include

variable {t : FileTree} {ts : List Include} {more : List (List Include)} {path seg : String}

/-- A component that stands for one text leads on to its path and nowhere else, if something is there. -/
theorem pathsFrom_passed (wf : t.WellFormed) (hs : StandsFor ts seg) (hmore : more ≠ [])
    (habs : Path.isAbsolute path = true) (hseg : '/' ∉ seg.toList) {r : Location}
    (hr : t.resolve (Path.join path seg) = .ok r) :
    ∃ k ≤ 1, ∀ fuel, pathsFrom t (fuel + k) (ts :: more) path =
      pathsFrom t fuel more (Path.join path seg) := by
  obtain ⟨hentry, dir, hdir, hg, hname⟩ := resolve_front habs hseg hr
  have hisDir : t.isDir path = true := isDir_iff.2 ⟨dir, hdir, hg⟩
  rcases hs.cases with hl | hf
  · refine ⟨0, Nat.zero_le _, fun fuel => ?_⟩
    rw [Nat.add_zero, pathsFrom_literal hl hmore habs, String.ofList_toList, if_pos]
    by_cases h : seg = "." ∨ seg = ".."
    · exact .inl ⟨h, hisDir⟩
    · exact .inr ⟨h, hentry⟩
  · refine ⟨1, Nat.le_refl _, fun fuel => ?_⟩
    have hnul : '\x00' ∉ seg.toList := by
      have hno := ((resolveWith_iff (Path.isAbsolute_join habs seg)).1 hr).1
      rw [Path.join_relative (Path.isAbsolute_of_no_slash hseg)] at hno
      exact fun hmem => hno (by simp [hmem])
    have hisName : IsName seg := ⟨⟨hf.ne_empty, hf.ne_here, hf.ne_up, hseg⟩, hnul⟩
    have hspecials : specialsOf ts = [] := by
      unfold specialsOf
      split
      next hdot => exact List.filter_eq_nil_iff.2 fun name hname => by simp [hf.special hdot name hname]
      next => rfl
    have hnames : namesIn t path = t.children dir := by rw [namesIn, hdir]
    rw [pathsFrom, below_wild hf.wild, hspecials, List.flatMap_nil, List.nil_append, Place.isDir_at,
      if_pos hisDir, List.flatMap_map, Place.path_at, hnames,
      flatMap_once (nodup_children wf dir) (mem_children.2 (hname hisName))]
    · rw [inDir_absolute habs, visit_name hf.not_recursive habs hisName, if_pos ((hf.accepts_iff seg).2 rfl),
        if_neg hmore]
    · intro name hmem hne
      obtain ⟨e, he⟩ := Option.isSome_iff_exists.1 (mem_children.1 hmem)
      rw [inDir_absolute habs, visit_name hf.not_recursive habs (wf.isName he name (by simp)).1, if_neg]
      exact fun ha => hne ((hf.accepts_iff name).1 ha)

/-- So the components of a root are passed one after the other. -/
theorem pathsFrom_passed_all (wf : t.WellFormed) {tss : List (List Include)} {segs : List String}
    (hs : List.Forall₂ StandsFor tss segs) (hmore : more ≠ []) (habs : Path.isAbsolute path = true)
    (hsegs : ∀ s ∈ segs, '/' ∉ s.toList) {r : Location}
    (hr : t.resolve (Path.joinAll path segs) = .ok r) :
    ∃ k ≤ segs.length, ∀ fuel, pathsFrom t (fuel + k) (tss ++ more) path =
      pathsFrom t fuel more (Path.joinAll path segs) := by
  induction hs generalizing path with
  | nil => exact ⟨0, Nat.le_refl _, fun fuel => rfl⟩
  | @cons ts seg tss segs h hs ih =>
    rw [List.forall_mem_cons] at hsegs
    have habs' := Path.isAbsolute_join habs seg
    obtain ⟨dir, hdir⟩ := resolve_front_all habs' hsegs.2 hr
    have hnext : tss ++ more ≠ [] := by simp [hmore]
    obtain ⟨k, hk, hfirst⟩ := pathsFrom_passed wf h hnext habs hsegs.1 hdir
    obtain ⟨k', hk', hrest⟩ := ih habs' hsegs.2 hr
    refine ⟨k' + k, ?_, fun fuel => ?_⟩
    · rw [List.length_cons]
      omega
    · rw [← Nat.add_assoc, List.cons_append, hfirst, hrest]
      rfl

/-- What an entry below a root leads to is what its components lead to from there, with fuel for every
entry of the tree. -/
theorem expand_rooted (wf : t.WellFormed) {root : String} (hmore : more ≠ []) {r : Location}
    (hr : t.resolve (rootPath root) = .ok r) : ∃ fuel, t.entries.length < fuel ∧
      Selector.expand t ⟨"/", (rootPieces root).map (·.map literalToken) ++ more, false⟩ =
        pathsFrom t fuel more (rootPath root) := by
  obtain ⟨k, hk, hpassed⟩ := pathsFrom_passed_all wf (standsFor_rootPieces root) hmore (by decide)
    (no_slash_rootPieces root) hr
  obtain ⟨fuel, hfuel⟩ := Nat.exists_eq_add_of_le' (show k ≤
    ((rootPieces root).map (·.map literalToken) ++ more).length +
      (maxLinks + 1) * (t.entries.length + 1) + 1 by
    rw [List.length_map] at hk
    rw [List.length_append, List.length_map]
    omega)
  refine ⟨fuel, ?_, ?_⟩
  · have hlinks : (maxLinks + 1) * (t.entries.length + 1) = 41 * (t.entries.length + 1) := rfl
    rw [List.length_append, List.length_map, hlinks] at hfuel
    rw [List.length_map] at hk
    omega
  · rw [← rootPath] at hpassed
    rw [← hpassed, ← hfuel]
    rfl

end Glob.Include

end BuildGate
