import BuildGate.FileSet
import BuildGate.Proofs.RootedPatterns
import Mathlib.Data.List.DropRight
import Mathlib.Data.List.Induction
import Mathlib.Data.List.Nodup

/-!
# What remains of a path below a base

A path that was made by joining names to a base is given back as those names when the base is taken
off again, also when the base was written differently: only components are compared.

**Results.**
* `joinAll_names`: names joined one by one are joined as one text.
* `components_names`: the components of names are these names.
* `stripPrefix?_join`: what remains of a base with names behind it.
* `mem_distinctPaths`, `nodup_distinctPaths`: what keeping the first of each path does.
-/
namespace BuildGate

namespace Path

open Glob.Include

/-! ## Names behind a base -/

theorem isAbsolute_names {names : List String} (h : ∀ n ∈ names, IsPart n) :
    isAbsolute ("/".intercalate names) = false := by
  cases names with
  | nil => rfl
  | cons n rest =>
    have hn := h n List.mem_cons_self
    rw [Bool.eq_false_iff]
    intro habs
    obtain ⟨cs, hcs⟩ := (isAbsolute_iff _).1 habs
    have hsegs : segments ("/".intercalate (n :: rest)) = n :: rest :=
      segments_intercalate (by simp) fun m hm => (h m hm).no_slash
    rw [segments, hcs] at hsegs
    simp only [splitSlash, if_true, List.map_cons, List.cons.injEq] at hsegs
    exact hn.ne_empty hsegs.1.symm

theorem join_join {base n : String} (hn : IsPart n) {path : String} (hp : isAbsolute path = false) :
    join (join base n) path = join base (n ++ "/" ++ path) := by
  have hrel : isAbsolute (n ++ "/" ++ path) = false := by
    rw [Bool.eq_false_iff]
    intro habs
    obtain ⟨cs, hcs⟩ := (isAbsolute_iff _).1 habs
    obtain ⟨c, rest, hc⟩ := List.exists_cons_of_ne_nil (l := n.toList) (by simpa using hn.ne_empty)
    have hslash : c = '/' := by
      rw [String.append_assoc, String.toList_append, hc] at hcs
      exact (List.cons.inj hcs).1
    exact hn.no_slash (by rw [hc, hslash]; exact List.mem_cons_self)
  rw [join_relative hp, join_relative (isAbsolute_of_no_slash hn.no_slash),
    separator_append _ hn.ne_empty hn.no_slash, join_relative hrel]
  simp only [String.append_assoc]

theorem joinAll_names {base : String} {names : List String} (hne : names ≠ [])
    (h : ∀ n ∈ names, IsPart n) : joinAll base names = join base ("/".intercalate names) := by
  induction names generalizing base with
  | nil => exact absurd rfl hne
  | cons n rest ih =>
    have hn := h n List.mem_cons_self
    have hrest : ∀ m ∈ rest, IsPart m := fun m hm => h m (List.mem_cons_of_mem _ hm)
    by_cases hr : rest = []
    · subst hr
      rw [String.intercalate_singleton]
      rfl
    · rw [joinAll_cons, ih hr hrest, join_join hn (isAbsolute_names hrest),
        String.intercalate_cons_of_ne_nil hr]

theorem components_names {names : List String} (h : ∀ n ∈ names, IsPart n) :
    components ("/".intercalate names) = names.map .name := by
  cases names with
  | nil => rfl
  | cons n rest =>
    have hsegs : segments ("/".intercalate (n :: rest)) = n :: rest :=
      segments_intercalate (by simp) fun m hm => (h m hm).no_slash
    have hparts : parts ("/".intercalate (n :: rest)) = (n :: rest).map partOf := by
      unfold parts
      rw [isAbsolute_names h, if_neg (by simp), hsegs]
      split
      · rename_i heq
        exact absurd (List.cons.inj heq).1 (h n List.mem_cons_self).ne_here
      · rfl
    rw [components, isAbsolute_names h, hparts, List.filterMap_map]
    exact filterMap_componentOf h

theorem names_inj {a b : List String} (ha : ∀ n ∈ a, IsPart n) (hb : ∀ n ∈ b, IsPart n)
    (h : components ("/".intercalate a) = components ("/".intercalate b)) : a = b := by
  rw [components_names ha, components_names hb] at h
  exact (List.map_inj_right fun x y hxy => Component.name.inj hxy).1 h

/-! ## Taking off a base -/

theorem trimStart_dropCounted (front rest : List Part) :
    trimStart (dropCounted (front.filterMap (·.2)).length (front ++ rest)) = trimStart rest := by
  induction front with
  | nil => rw [List.filterMap_nil, List.length_nil, dropCounted, List.nil_append]
  | cons p front ih =>
    obtain ⟨text, component⟩ := p
    cases component with
    | none =>
      rw [List.filterMap_cons_none rfl]
      cases hk : (front.filterMap (·.2)).length with
      | zero =>
        rw [hk, dropCounted] at ih
        rw [dropCounted]
        exact ih
      | succ k =>
        rw [hk] at ih
        rw [List.cons_append, dropCounted]
        exact ih
    | some c =>
      rw [List.filterMap_cons_some (f := fun p : Part => p.2) (b := c) rfl, List.length_cons,
        List.cons_append, dropCounted]
      exact ih

theorem trim_names {names : List String} (h : ∀ n ∈ names, IsPart n) :
    trimEnd (trimStart (names.map partOf)) = names.map partOf := by
  have hcounts : ∀ p ∈ names.map partOf, ¬ p.2.isNone = true := fun p hp => by
    obtain ⟨n, hn, rfl⟩ := List.mem_map.1 hp
    have hc := componentOf_name (h n hn)
    rw [componentOf] at hc
    simp [hc]
  have hstart : trimStart (names.map partOf) = names.map partOf :=
    List.dropWhile_eq_self_iff.2 fun _ => hcounts _ (List.getElem_mem _)
  rw [hstart]
  exact List.rdropWhile_eq_self_iff.2 fun hne => hcounts _ (List.getLast_mem hne)

/-- Names behind a base are what remains of the path, however the base is written. -/
theorem stripPrefix?_join {root base : String} (hroot : isAbsolute root = true)
    (hbase : isAbsolute base = true) (hsame : components base = components root)
    {names : List String} (hne : names ≠ []) (h : ∀ n ∈ names, IsPart n) :
    stripPrefix? root (join base ("/".intercalate names)) = some ("/".intercalate names) := by
  have hrel := isAbsolute_names h
  have hsegs : segments ("/".intercalate names) = names :=
    segments_intercalate hne fun n hn => (h n hn).no_slash
  have hbasene : base ≠ "" := by rintro rfl; cases hbase
  -- Behind the root stand the pieces of the base and then the names.
  obtain ⟨front, hfront, hcount⟩ : ∃ front : List String,
      parts (join base ("/".intercalate names)) = (front ++ names).map partOf ∧
        components base = .root :: front.filterMap componentOf := by
    refine ⟨(rootPieces base).map String.ofList, ?_, ?_⟩
    · have hjoin : segments (join base ("/".intercalate names)) =
          "" :: ((rootPieces base).map String.ofList ++ names) := by
        rw [segments, splitSlash_join hbasene hrel, pieces_absolute hbase, List.map_append]
        change _ ++ segments ("/".intercalate names) = _
        rw [hsegs]
        rfl
      rw [parts, isAbsolute_join hbase, if_pos rfl, hjoin, List.tail_cons]
    · rw [components_absolute hbase, segments, ← filterMap_pieces componentOf componentOf_empty,
        pieces_absolute hbase]
      simp
  have hbelow : (components root).isPrefixOf
      (components (join base ("/".intercalate names))) = true := by
    rw [List.isPrefixOf_iff_prefix, components_join hbase hrel, hsame]
    exact List.prefix_append _ _
  have hlength : (components root).length - 1 = ((front.map partOf).filterMap (·.2)).length := by
    rw [← hsame, hcount, List.filterMap_map]
    rfl
  obtain ⟨c, cs, hcs⟩ : ∃ c cs, components root = c :: cs := by
    rw [← hsame, hcount]
    exact ⟨_, _, rfl⟩
  unfold stripPrefix?
  rw [if_pos hbelow]
  simp only [hcs, hroot, if_true]
  rw [← hcs, hlength, hfront, List.map_append, trimStart_dropCounted, trim_names h,
    ofParts_map_partOf]

end Path

/-! ## Keeping the first of each path -/

namespace FileSet

/-- The paths kept so far, the last one first, with their components. -/
theorem distinctPaths_fold (paths : List String) :
    ∃ kept : List String, distinctPaths paths = kept.reverse ∧ (kept.map Path.components).Nodup ∧
      (∀ p ∈ kept, p ∈ paths) ∧ ∀ p ∈ paths, Path.components p ∈ kept.map Path.components := by
  unfold distinctPaths
  suffices h : ∃ kept : List String, paths.foldl _ ([], []) = (kept.map Path.components, kept) ∧
      (kept.map Path.components).Nodup ∧ (∀ p ∈ kept, p ∈ paths) ∧
      ∀ p ∈ paths, Path.components p ∈ kept.map Path.components by
    obtain ⟨kept, hfold, hrest⟩ := h
    exact ⟨kept, by rw [hfold], hrest⟩
  induction paths using List.reverseRecOn with
  | nil => exact ⟨[], rfl, List.nodup_nil, by simp, by simp⟩
  | append_singleton paths p ih =>
    obtain ⟨kept, hfold, hnodup, hfrom, hall⟩ := ih
    rw [List.foldl_append, hfold, List.foldl_cons, List.foldl_nil]
    by_cases hp : Path.components p ∈ kept.map Path.components
    · refine ⟨kept, by simp only [List.contains_iff_mem.2 hp, if_true], hnodup, ?_, ?_⟩
      · exact fun q hq => List.mem_append_left _ (hfrom q hq)
      · intro q hq
        rcases List.mem_append.1 hq with hq | hq
        · exact hall q hq
        · rwa [List.mem_singleton.1 hq]
    · refine ⟨p :: kept, ?_, List.nodup_cons.2 ⟨hp, hnodup⟩, ?_, ?_⟩
      · simp only [if_neg (mt List.contains_iff_mem.1 hp)]
        rfl
      · intro q hq
        rcases List.mem_cons.1 hq with rfl | hq
        · simp
        · exact List.mem_append_left _ (hfrom q hq)
      · intro q hq
        rcases List.mem_append.1 hq with hq | hq
        · exact List.mem_cons_of_mem _ (hall q hq)
        · rw [List.mem_singleton.1 hq]
          exact List.mem_cons_self

theorem nodup_distinctPaths (paths : List String) : (distinctPaths paths).Nodup := by
  obtain ⟨kept, h, hnodup, -⟩ := distinctPaths_fold paths
  rw [h, List.nodup_reverse]
  exact hnodup.of_map

theorem distinctPaths_eq_nil {paths : List String} : distinctPaths paths = [] ↔ paths = [] := by
  obtain ⟨kept, h, -, hfrom, hall⟩ := distinctPaths_fold paths
  rw [h, List.reverse_eq_nil_iff]
  constructor
  · rintro rfl
    exact List.eq_nil_iff_forall_not_mem.2 fun p hp => by simpa using hall p hp
  · rintro rfl
    exact List.eq_nil_iff_forall_not_mem.2 fun p hp => by simpa using hfrom p hp

/-- Where no path has two texts, none is dropped. -/
theorem mem_distinctPaths {paths : List String}
    (hinj : ∀ a ∈ paths, ∀ b ∈ paths, Path.components a = Path.components b → a = b) {p : String} :
    p ∈ distinctPaths paths ↔ p ∈ paths := by
  obtain ⟨kept, h, -, hfrom, hall⟩ := distinctPaths_fold paths
  rw [h, List.mem_reverse]
  constructor
  · exact hfrom p
  · intro hp
    obtain ⟨q, hq, heq⟩ := List.mem_map.1 (hall p hp)
    rwa [← hinj q (hfrom q hq) p hp heq]

end FileSet

end BuildGate
