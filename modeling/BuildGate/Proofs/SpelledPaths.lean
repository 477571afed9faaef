import BuildGate.Proofs.Expansion

/-!
# Patterns that spell a path

A pattern without operators leads to the path it spells if something is there, and else to nothing.
Its parts are looked up one after the other, the special names among them.

**Results.**
* `pathsFrom_spelled`: where such components lead from a place.
* `expand_spelled`: where such a pattern leads.
-/
namespace BuildGate

open FileTree

namespace Glob.Include

variable {t : FileTree} {fuel : Nat} {path seg : String}

/-- The last component gives the path it comes to. -/
theorem pathsFrom_literal_last {ts : List Include} {cs : List Char} (hl : literal? ts = some cs)
    (habs : Path.isAbsolute path = true) :
    pathsFrom t (fuel + 1) [ts] path =
      if (String.ofList cs = "." ∨ String.ofList cs = "..") ∧ t.isDir path = true ∨
          ¬ (String.ofList cs = "." ∨ String.ofList cs = "..") ∧
            t.hasEntry (Path.join path (String.ofList cs)) = true
      then [Path.join path (String.ofList cs)] else [] := by
  rw [pathsFrom, below]
  simp only [hl, Place.path_at, Place.isDir_at, isHere_absolute habs, List.isEmpty_nil, if_true,
    Bool.false_eq_true, if_false]
  split
  · rw [List.flatMap_singleton, visit]
    rfl
  · rfl

/-- A part of a path that resolves is looked up with success. -/
theorem lookUp_of_resolve (lf : t.LinkFree) (habs : Path.isAbsolute path = true)
    (hseg : '/' ∉ seg.toList) {loc : Location} (h : t.resolve (Path.join path seg) = .ok loc) :
    (seg = "." ∨ seg = "..") ∧ t.isDir path = true ∨
      ¬ (seg = "." ∨ seg = "..") ∧ t.hasEntry (Path.join path seg) = true := by
  by_cases hspecial : seg = "." ∨ seg = ".."
  · obtain ⟨⟨dir, hdir, hstep⟩, -⟩ := (resolve_join lf habs hseg).1 h
    exact .inl ⟨hspecial, isDir_iff.2 ⟨dir, hdir, stepTo_dir hstep⟩⟩
  · have hentry : t.resolveWith false (Path.join path seg) = .ok loc :=
      (resolve_join lf habs hseg).2 ((resolve_join lf habs hseg).1 h)
    exact .inr ⟨hspecial, hasEntry_iff.2 ⟨loc, hentry⟩⟩

/-- Components that spell a path that resolves lead to it and nowhere else. -/
theorem pathsFrom_spelled (lf : t.LinkFree) {segs : List String} (hne : segs ≠ [])
    (hsegs : ∀ s ∈ segs, '/' ∉ s.toList) (habs : Path.isAbsolute path = true) {loc : Location}
    (h : t.resolve (Path.joinAll path segs) = .ok loc) :
    pathsFrom t (fuel + 1) (segs.map fun s => s.toList.map .char) path =
      [Path.joinAll path segs] := by
  induction segs generalizing path with
  | nil => exact absurd rfl hne
  | cons seg segs ih =>
    rw [List.forall_mem_cons] at hsegs
    have habs' := Path.isAbsolute_join habs seg
    obtain ⟨dir, hdir, -⟩ := resolve_of_joinAll lf habs' hsegs.2 h
    have hlookUp := lookUp_of_resolve lf habs hsegs.1 hdir
    rw [← @String.ofList_toList seg] at hlookUp
    rw [List.map_cons]
    by_cases hrest : segs = []
    · subst hrest
      rw [List.map_nil, pathsFrom_literal_last (literal?_chars _) habs, if_pos hlookUp,
        String.ofList_toList]
      rfl
    · rw [pathsFrom_literal (literal?_chars _) (by simpa using hrest) habs, if_pos hlookUp,
        String.ofList_toList, ih hrest hsegs.2 habs' h]
      rfl

theorem expand_spelled (lf : t.LinkFree) {segs : List String} (hne : segs ≠ [])
    (hsegs : ∀ s ∈ segs, '/' ∉ s.toList) {loc : Location}
    (h : t.resolve (Path.joinAll "/" segs) = .ok loc) :
    Selector.expand t ⟨"/", segs.map fun s => s.toList.map .char, false⟩ =
      [Path.joinAll "/" segs] :=
  pathsFrom_spelled lf hne hsegs (show Path.isAbsolute "/" = true by decide) h

end Glob.Include

end BuildGate
