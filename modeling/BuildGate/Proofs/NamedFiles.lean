import BuildGate.Proofs.ParentPaths
import BuildGate.Proofs.RootTexts

/-!
# Files by the names behind a root

An entry may lead to a file under a text with parts that do not count. What is listed is the text
behind the root, and where that is names with slashes between them, the file is there under these
names too: a path leads where the parts lead that count.

**Results.**
* `components_of_stripPrefix?`: the path of which names remain below a root.
* `resolve_names`: where the names of a path lead.
* `isFile_of_mem_candidates`: the file of names that are listed.
-/
namespace BuildGate

namespace Path

/-! ## What remains below a root -/

theorem filterMap_trimStart (ps : List Part) :
    (trimStart ps).filterMap (·.2) = ps.filterMap (·.2) := by
  induction ps with
  | nil => rfl
  | cons p ps ih =>
    rw [trimStart, List.dropWhile_cons]
    split
    next hp =>
      rw [List.filterMap_cons_none (Option.isNone_iff_eq_none.1 hp)]
      exact ih
    · rfl

theorem trimStart_subset (ps : List Part) : trimStart ps ⊆ ps := (List.dropWhile_sublist _).subset

theorem filterMap_dropCounted (n : Nat) (ps : List Part) :
    (dropCounted n ps).filterMap (·.2) = (ps.filterMap (·.2)).drop n := by
  fun_induction dropCounted n ps with
  | case1 ps => rfl
  | case2 n => simp
  | case3 n p ps hp ih =>
    obtain ⟨c, hc⟩ := Option.isSome_iff_exists.1 hp
    rw [ih, List.filterMap_cons_some hc, List.drop_succ_cons]
  | case4 n p ps hp ih =>
    rw [ih, List.filterMap_cons_none (by simpa using hp)]

theorem dropCounted_subset (n : Nat) (ps : List Part) : dropCounted n ps ⊆ ps := by
  fun_induction dropCounted n ps with
  | case1 ps => exact List.Subset.refl _
  | case2 n => exact List.Subset.refl _
  | case3 n p ps hp ih => exact List.subset_cons_of_subset _ ih
  | case4 n p ps hp ih => exact List.subset_cons_of_subset _ ih

/-- What remains of a path below a root are the last parts of it. -/
theorem exists_parts_of_stripPrefix? {root path rest : String} (hroot : isAbsolute root = true)
    (habs : isAbsolute path = true) (h : stripPrefix? root path = some rest) :
    ∃ segs, rest = "/".intercalate segs ∧ (∀ s ∈ segs, '/' ∉ s.toList) ∧
      components path = components root ++ segs.filterMap componentOf := by
  obtain ⟨cs, hcs⟩ : ∃ cs, components root = .root :: cs := ⟨_, components_absolute hroot⟩
  unfold stripPrefix? at h
  by_cases hprefix : (components root).isPrefixOf (components path) = true
  · rw [if_pos hprefix] at h
    simp only [hcs, hroot, if_true, List.length_cons, Nat.add_sub_cancel, Option.some_inj] at h
    generalize hps : trimEnd (trimStart (dropCounted cs.length (parts path))) = ps at h
    have hcount : ps.filterMap (·.2) = ((parts path).filterMap (·.2)).drop cs.length := by
      rw [← hps, filterMap_trimEnd, filterMap_trimStart, filterMap_dropCounted]
    have hsub : ps ⊆ parts path := by
      rw [← hps]
      exact fun p hp => dropCounted_subset _ _ (trimStart_subset _ ((trimEnd_isPrefix _).subset hp))
    have hsegs : ∀ p ∈ ps, '/' ∉ p.1.toList ∧ p.2 = componentOf p.1 := by
      intro p hp
      have hp := hsub hp
      rw [parts, if_pos habs] at hp
      obtain ⟨s, hs, rfl⟩ := List.mem_map.1 hp
      obtain ⟨q, hq, rfl⟩ := List.mem_map.1 (List.mem_of_mem_tail hs)
      refine ⟨?_, rfl⟩
      change '/' ∉ (String.ofList q).toList
      rw [String.toList_ofList]
      exact no_slash_of_mem_splitSlash hq
    refine ⟨ps.map (·.1), by rw [← h, ofParts], List.forall_mem_map.2 fun p hp => (hsegs p hp).1, ?_⟩
    have hsame : (ps.map (·.1)).filterMap componentOf = ps.filterMap (·.2) := by
      rw [List.filterMap_map]
      exact List.filterMap_congr fun p hp => (hsegs p hp).2.symm
    obtain ⟨more, hmore⟩ := List.isPrefixOf_iff_prefix.1 hprefix
    rw [components_eq_parts habs, hcs, List.cons_append, List.cons.injEq] at hmore
    rw [hsame, hcount, ← hmore.2, List.drop_left, components_eq_parts habs, hcs, ← hmore.2,
      List.cons_append]
  · rw [if_neg hprefix] at h
    cases h

/-- A path of which names remain below a root has them behind it. -/
theorem components_of_stripPrefix? {root path : String} (hroot : isAbsolute root = true)
    (habs : isAbsolute path = true) {names : List String} (hne : names ≠ [])
    (hnames : ∀ n ∈ names, IsPart n)
    (h : stripPrefix? root path = some ("/".intercalate names)) :
    components path = components root ++ names.map .name := by
  obtain ⟨segs, hsegs, hslash, hpath⟩ := exists_parts_of_stripPrefix? hroot habs h
  have hsplit := segments_intercalate hne fun n hn => (hnames n hn).no_slash
  have hsame : segs = names := by
    by_cases hnil : segs = []
    · rw [hsegs, hnil, String.intercalate_nil, segments_of_no_slash (by simp)] at hsplit
      exact absurd rfl (hnames "" (hsplit ▸ List.mem_singleton_self _)).ne_empty
    · rw [← hsplit, hsegs, segments_intercalate hnil hslash]
  rw [hpath, hsame, filterMap_componentOf hnames]

end Path

namespace FileTree

variable {t : FileTree}

/-! ## Where names lead -/

/-- A path leads where the names in it lead, if nothing else in it counts. -/
theorem resolve_names (lf : t.LinkFree) {segs names : List String} {base short : String}
    (hbase : Path.isAbsolute base = true) (hshort : Path.isAbsolute short = true)
    (hsegs : ∀ s ∈ segs, '/' ∉ s.toList) (hsame : segs.filterMap Path.componentOf = names.map .name)
    (hleads : ∀ loc, t.resolve base = .ok loc → t.resolve short = .ok loc)
    (hsize : short.utf8ByteSize + (Path.separator short).utf8ByteSize ≤
      base.utf8ByteSize + (Path.separator base).utf8ByteSize)
    {r : Location} (h : t.resolve (Path.joinAll base segs) = .ok r) :
    t.resolve (Path.joinAll short names) = .ok r ∧ ∀ n ∈ names, '\x00' ∉ n.toList := by
  induction segs generalizing base short names with
  | nil =>
    obtain rfl : names = [] := by simpa using hsame.symm
    exact ⟨hleads r h, by simp⟩
  | cons seg segs ih =>
    rw [List.forall_mem_cons] at hsegs
    have hslash := hsegs.1
    have hbase' := Path.isAbsolute_join hbase seg
    have hjoin := Path.join_relative (Path.isAbsolute_of_no_slash hslash) base
    cases hc : Path.componentOf seg with
    | none =>
      have hhere : stepFor seg = .here := by
        rcases Path.componentOf_eq_none hc with rfl | rfl <;> rfl
      rw [List.filterMap_cons_none hc] at hsame
      refine ih hbase' hshort hsegs.2 hsame (fun loc hloc => ?_) ?_ h
      · obtain ⟨⟨dir, hdir, hstep⟩, -⟩ := (resolve_join lf hbase hslash).1 hloc
        rw [hhere] at hstep
        rw [(stepTo_here.1 hstep).2]
        exact hleads dir hdir
      · rw [hjoin, String.utf8ByteSize_append, String.utf8ByteSize_append]
        omega
    | some c =>
      rw [List.filterMap_cons_some hc] at hsame
      cases names with
      | nil => cases hsame
      | cons n names =>
        -- The part counts, so it is the next of the names.
        obtain ⟨rfl, hrest⟩ := List.cons.inj hsame
        obtain ⟨rfl, hne⟩ := Path.componentOf_eq_name hc
        have hjoin' := Path.join_relative (Path.isAbsolute_of_no_slash hslash) short
        have hsep : ∀ s : String, Path.separator (s ++ Path.separator s ++ seg) = "/" := fun s =>
          Path.separator_append _ hne hslash
        obtain ⟨loc, hloc, -⟩ := resolve_of_joinAll lf hbase' hsegs.2 h
        obtain ⟨-, hnul, -⟩ := (resolve_join lf hbase hslash).1 hloc
        have hleads' : ∀ loc, t.resolve (Path.join base seg) = .ok loc →
            t.resolve (Path.join short seg) = .ok loc := by
          intro loc hloc
          obtain ⟨⟨dir, hdir, hstep⟩, hnul, hlong⟩ := (resolve_join lf hbase hslash).1 hloc
          refine (resolve_join lf hshort hslash).2 ⟨⟨dir, hleads dir hdir, hstep⟩, hnul, ?_⟩
          simp only [hjoin, hjoin', String.utf8ByteSize_append] at hlong ⊢
          omega
        have hsize' : (Path.join short seg).utf8ByteSize +
            (Path.separator (Path.join short seg)).utf8ByteSize ≤ (Path.join base seg).utf8ByteSize +
              (Path.separator (Path.join base seg)).utf8ByteSize := by
          simp only [hjoin, hjoin', hsep, String.utf8ByteSize_append]
          omega
        obtain ⟨hresolve, hnuls⟩ :=
          ih hbase' (Path.isAbsolute_join hshort seg) hsegs.2 hrest hleads' hsize' h
        exact ⟨hresolve, List.forall_mem_cons.2 ⟨hnul, hnuls⟩⟩

end FileTree

open Glob.Include FileTree

namespace FileSet

variable {t : FileTree} {root : String}

/-- The files that a relative entry leads to lie behind the root. -/
theorem exists_of_mem_leadsTo (wf : t.WellFormed) (habs : Path.isAbsolute root = true) {entry : String}
    (hrel : Path.isAbsolute entry = false) {x : String} (hx : x ∈ leadsTo t root entry)
    (hfile : t.isFile x = true) :
    ∃ segs, x = Path.joinAll (rootPath root) segs ∧ ∀ s ∈ segs, '/' ∉ s.toList := by
  have hkind := goesOn_partsBehind (isAbsolute_rootPath root)
  have hroot : PartsBehind (rootPath root) (rootText root) :=
    ⟨[], by rw [rootText_absolute habs]; rfl, by simp⟩
  exact hkind x (oneFurther_of_mem_leadsTo wf hkind hroot hrel hx hfile)

/-- A file that relative entries lead to under the names behind the root is there under these names. -/
theorem isFile_of_mem_candidates (wf : t.WellFormed) (lf : t.LinkFree)
    (habs : Path.isAbsolute root = true) {entries : List String}
    (hrel : ∀ e ∈ selecting entries, Path.isAbsolute e = false) {names : List String}
    (hne : names ≠ []) (hnames : ∀ n ∈ names, Path.IsPart n)
    (h : "/".intercalate names ∈ candidates t root entries) :
    t.isFile (Path.joinAll (rootPath root) names) = true ∧ ∀ n ∈ names, IsName n := by
  obtain ⟨entry, hentry, h⟩ := List.mem_flatMap.1 h
  obtain ⟨x, hx, hrelative⟩ := List.mem_map.1 h
  obtain ⟨hx, hfile⟩ := List.mem_filter.1 hx
  obtain ⟨segs, rfl, hsegs⟩ := exists_of_mem_leadsTo wf habs (hrel entry hentry) hx hfile
  have hroot := isAbsolute_rootPath root
  have hpath := Path.isAbsolute_joinAll hroot segs
  have hstrip : Path.stripPrefix? root (Path.joinAll (rootPath root) segs) =
      some ("/".intercalate names) := by
    rw [relativeTo] at hrelative
    cases hs : Path.stripPrefix? root (Path.joinAll (rootPath root) segs) with
    | none =>
      -- A path that does not lie below the root is left as it is.
      rw [hs, Option.getD_none] at hrelative
      rw [hrelative, Path.isAbsolute_names hnames] at hpath
      cases hpath
    | some rest => rw [hs, Option.getD_some] at hrelative; rw [hrelative]
  have hsame : segs.filterMap Path.componentOf = names.map .name := by
    have hcomponents := Path.components_of_stripPrefix? habs hpath hne hnames hstrip
    rw [Path.components_joinAll hroot hsegs, components_rootPath habs] at hcomponents
    exact List.append_cancel_left hcomponents
  obtain ⟨loc, bytes, hr, hg⟩ := isFile_iff.1 hfile
  obtain ⟨hresolve, hnul⟩ := resolve_names lf hroot hroot hsegs hsame (fun _ h => h) (Nat.le_refl _) hr
  exact ⟨isFile_iff.2 ⟨loc, bytes, hresolve, hg⟩, fun n hn => ⟨hnames n hn, hnul n hn⟩⟩

end FileSet

end BuildGate
