import BuildGate.Proofs.PathTexts
import Mathlib.Data.List.DropRight
import Mathlib.Data.List.Induction

/-!
# Parents of paths

The parent of an absolute path is the text of its parts up to the last one that counts. It has the
components of the path but the last, so the paths above a path are told apart by how many components
they lack.

**Results.**
* `parent?_absolute`: the components of a parent.
* `parent?_join`: the parent of a name in a directory has the components of the directory.
* `ancestor?_components`: what stands between a path and one above it.
-/
namespace BuildGate.Path

/-! ## Trimming -/

theorem trimEnd_concat_none {ps : List Part} {p : Part} (h : p.2 = none) :
    trimEnd (ps ++ [p]) = trimEnd ps :=
  List.rdropWhile_concat_pos (fun q : Part => q.2.isNone) ps p (by simp [h])

theorem trimEnd_concat_some {ps : List Part} {p : Part} {c : Component} (h : p.2 = some c) :
    trimEnd (ps ++ [p]) = ps ++ [p] :=
  List.rdropWhile_concat_neg (fun q : Part => q.2.isNone) ps p (by simp [h])

theorem trimEnd_isPrefix (ps : List Part) : trimEnd ps <+: ps :=
  List.rdropWhile_prefix (fun q : Part => q.2.isNone) ps

/-- Nothing is left of parts that do not count; otherwise the last one that is left counts. -/
theorem trimEnd_cases (ps : List Part) :
    (trimEnd ps = [] ∧ ps.filterMap (·.2) = []) ∨
      ∃ init p c, trimEnd ps = init ++ [p] ∧ init ++ [p] <+: ps ∧
        ps.filterMap (·.2) = init.filterMap (·.2) ++ [c] := by
  induction ps using List.reverseRecOn with
  | nil => exact .inl ⟨rfl, rfl⟩
  | append_singleton ps p ih =>
    cases hp : p.2 with
    | none =>
      rw [trimEnd_concat_none hp, List.filterMap_append]
      simp only [List.filterMap_cons, hp, List.filterMap_nil, List.append_nil]
      rcases ih with ih | ⟨init, q, c, htrim, hinit, hcount⟩
      · exact .inl ih
      · exact .inr ⟨init, q, c, htrim, hinit.trans (List.prefix_append _ _), hcount⟩
    | some c =>
      refine .inr ⟨ps, p, c, trimEnd_concat_some hp, List.prefix_rfl, ?_⟩
      simp [hp]

theorem filterMap_trimEnd (ps : List Part) :
    (trimEnd ps).filterMap (·.2) = ps.filterMap (·.2) := by
  induction ps using List.reverseRecOn with
  | nil => rfl
  | append_singleton ps p ih =>
    cases hp : p.2 with
    | none => rw [trimEnd_concat_none hp, ih]; simp [hp]
    | some c => rw [trimEnd_concat_some hp]

/-! ## Parents -/

/-- `ps` are the parts of texts without slashes. -/
def FromSegments (ps : List Part) : Prop := ∃ segs : List String, (∀ s ∈ segs, '/' ∉ s.toList) ∧
  ps = segs.map partOf

theorem components_ofParts {ps : List Part} (h : FromSegments ps) :
    components ("/" ++ ofParts ps) = .root :: ps.filterMap (·.2) := by
  obtain ⟨segs, hsegs, rfl⟩ := h
  have hsplit : "/" ++ "/".intercalate segs = "" ++ "/" ++ "/".intercalate segs := by simp
  rw [ofParts_map_partOf, components_absolute (isAbsolute_append (by decide)), hsplit, segments_append,
    segments_of_no_slash (s := "") (by simp), List.filterMap_map]
  by_cases hne : segs = []
  · subst hne
    rw [String.intercalate_nil, segments_of_no_slash (s := "") (by simp)]
    simp
  · rw [segments_intercalate hne hsegs]
    simp
    rfl

theorem fromSegments_parts {p : String} (habs : isAbsolute p = true) : FromSegments (parts p) := by
  refine ⟨(segments p).tail, fun s hs => ?_, by simp [parts, habs]⟩
  obtain ⟨cs, hcs, rfl⟩ := List.mem_map.1 (List.mem_of_mem_tail hs)
  rw [String.toList_ofList]
  exact no_slash_of_mem_splitSlash hcs

theorem FromSegments.of_isPrefix {ps qs : List Part} (h : FromSegments qs) (hp : ps <+: qs) :
    FromSegments ps := by
  obtain ⟨segs, hsegs, rfl⟩ := h
  refine ⟨segs.take ps.length, fun s hs => hsegs s (List.mem_of_mem_take hs), ?_⟩
  rw [List.map_take]
  exact List.prefix_iff_eq_take.1 hp

/-- The parent of an absolute path lacks its last component; only the root has no parent. -/
theorem parent?_absolute {p : String} (habs : isAbsolute p = true) :
    (components p = [.root] ∧ parent? p = none) ∨
      ∃ q c, parent? p = some q ∧ isAbsolute q = true ∧ components p = components q ++ [c] := by
  rcases trimEnd_cases (parts p) with ⟨htrim, hcount⟩ | ⟨init, x, c, htrim, hinit, hcount⟩
  · refine .inl ⟨by rw [components_eq_parts habs, hcount], ?_⟩
    simp [parent?, htrim]
  · have hparent : parent? p = some ("/" ++ ofParts (trimEnd init)) := by
      unfold parent?
      rw [htrim]
      split
      · rename_i h
        exact absurd h (by simp)
      · simp [habs]
    have hfrom : FromSegments (trimEnd init) := (fromSegments_parts habs).of_isPrefix
      (((trimEnd_isPrefix init).trans (List.prefix_append _ _)).trans hinit)
    refine .inr ⟨_, c, hparent, isAbsolute_append (by decide), ?_⟩
    rw [components_ofParts hfrom, filterMap_trimEnd, components_eq_parts habs, hcount]
    rfl

/-- A name in a directory has a parent that names the directory. -/
theorem parent?_join {dir n : String} (habs : isAbsolute dir = true) (hn : IsPart n) :
    ∃ q, parent? (join dir n) = some q ∧ components q = components dir := by
  have hcomps := components_join_name habs hn
  rcases parent?_absolute (isAbsolute_join habs n) with ⟨h, -⟩ | ⟨q, c, hq, -, h⟩
  · rw [hcomps, components_absolute habs] at h
    simp at h
  · rw [hcomps] at h
    exact ⟨q, hq, (List.append_inj_left' h rfl).symm⟩

/-! ## Directories above a path -/

/-- The path that stands `k` parents above `p`. -/
def ancestor? : Nat → String → Option String
  | 0, p => some p
  | k + 1, p => (parent? p).bind (ancestor? k)

/-- A path above another one lacks a component for each parent. -/
theorem ancestor?_components {k : Nat} {p q : String} (habs : isAbsolute p = true)
    (h : ancestor? k p = some q) :
    isAbsolute q = true ∧ ∃ below, components p = components q ++ below ∧ below.length = k := by
  induction k generalizing p with
  | zero =>
    cases h
    exact ⟨habs, [], by simp, rfl⟩
  | succ k ih =>
    obtain ⟨above, habove, h⟩ := Option.bind_eq_some_iff.1 h
    rcases parent?_absolute habs with ⟨-, hnone⟩ | ⟨q', c, hq, habs', hcomps⟩
    · rw [hnone] at habove
      cases habove
    · rw [hq] at habove
      cases habove
      obtain ⟨habsq, below, hbelow, hlength⟩ := ih habs' h
      refine ⟨habsq, below ++ [c], ?_, by simp [hlength]⟩
      rw [hcomps, hbelow, List.append_assoc]

theorem startsWith_ancestor {k : Nat} {p q : String} (habs : isAbsolute p = true)
    (h : ancestor? k p = some q) : startsWith p q = true := by
  obtain ⟨-, below, hbelow, -⟩ := ancestor?_components habs h
  rw [startsWith, List.isPrefixOf_iff_prefix]
  exact ⟨below, hbelow.symm⟩

/-- A path that stands above another one is not the same. -/
theorem not_same_ancestor {k : Nat} {p q : String} (habs : isAbsolute p = true)
    (h : ancestor? k p = some q) (hk : k ≠ 0) : same q p = false := by
  obtain ⟨-, below, hbelow, hlength⟩ := ancestor?_components habs h
  rw [same, beq_eq_false_iff_ne]
  intro heq
  rw [← heq] at hbelow
  have := congrArg List.length hbelow
  rw [List.length_append] at this
  omega

theorem ancestor?_lt {k : Nat} {p q : String} (habs : isAbsolute p = true)
    (h : ancestor? k p = some q) : k < (components p).length := by
  obtain ⟨habsq, below, hbelow, hlength⟩ := ancestor?_components habs h
  rw [hbelow, components_absolute habsq, List.length_append, List.length_cons]
  omega

end BuildGate.Path
