import BuildGate.Proofs.ComponentMatches
import BuildGate.Proofs.DirectSteps
import BuildGate.Proofs.ParentPaths
import BuildGate.Proofs.RootTexts

/-!
# What is left of a path behind a base

Behind a base whose components are those of a root, a path is left with its parts from the first one
that counts. What is dropped besides are empty parts and `.`, so behind the root, or behind any other
text whose steps go the same way, the rest leads to the file to which the path led.

**Results.**
* `stripPrefix?_join_relative`: what is left of a path behind such a base.
* `Left`, `left_counted`: its characters and its steps.
* `isFile_join_left`: where it leads behind the root.
* `last_counts`: the last part of a path to a file counts.
-/
namespace BuildGate

open FileTree Glob.Include

/-! ## What is left of a path -/

namespace Path

/-- The parts behind a base follow those of the base. -/
theorem exists_parts_join {base q : String} (hne : base ≠ "") (hq : isAbsolute q = false) :
    ∃ front, parts (join base q) = front ++ (segments q).map partOf ∧
      components base = (if isAbsolute base then [Component.root] else []) ++ front.filterMap (·.2) := by
  have habs := isAbsolute_join_of_ne hne hq
  have hsegs : segments (join base q) = (pieces base.toList).map String.ofList ++ segments q := by
    rw [segments, splitSlash_join hne hq, List.map_append]
    rfl
  have hcount := filterMap_pieces componentOf componentOf_empty base.toList
  cases hbase : isAbsolute base with
  | true =>
    rw [hbase] at habs
    rw [pieces_absolute hbase] at hsegs hcount
    refine ⟨((rootPieces base).map String.ofList).map partOf, ?_, ?_⟩
    · rw [parts, if_pos habs, hsegs, List.map_cons, List.cons_append, List.tail_cons, List.map_append]
    · rw [components_absolute hbase, segments, ← hcount, List.map_cons,
        List.filterMap_cons_none (by exact componentOf_empty), if_pos rfl,
        List.filterMap_map (f := partOf)]
      rfl
  | false =>
    rw [hbase] at habs
    obtain ⟨p, rest, -, hpieces, more, hmore⟩ := pieces_relative hne hbase
    rw [hpieces, List.map_cons, List.cons_append] at hsegs
    refine ⟨(String.ofList p, if String.ofList p = "." then some .here else componentOf (String.ofList p))
      :: (rest.map String.ofList).map partOf, ?_, ?_⟩
    · rw [parts_relative habs hsegs, List.map_append, ← List.cons_append]
    · have hrest : (rest.map String.ofList).filterMap componentOf = more.filterMap componentOf := by
        rw [hpieces, List.map_cons, show (splitSlash base.toList).map String.ofList = segments base from
          rfl, hmore] at hcount
        cases hp : componentOf (String.ofList p) with
        | none => rwa [List.filterMap_cons_none hp, List.filterMap_cons_none hp] at hcount
        | some c =>
          rw [List.filterMap_cons_some hp, List.filterMap_cons_some hp] at hcount
          exact (List.cons.inj hcount).2
      have htail : ∀ segs : List String, (segs.map partOf).filterMap (·.2) = segs.filterMap componentOf :=
        fun segs => List.filterMap_map
      rw [components, hbase, parts_relative hbase hmore, List.filterMap_cons, List.filterMap_cons, htail,
        htail, hrest]

/-- Those of `segs` from the first on that stands for a component. -/
def counted (segs : List String) : List String := segs.dropWhile fun s => (componentOf s).isNone

theorem counted_concat (init : List String) {l : String} {c : Component} (hl : componentOf l = some c) :
    ∃ init' first mid, counted (init ++ [l]) = init' ++ [l] ∧ init' <:+ init ∧
      counted (init ++ [l]) = first :: mid ∧ (componentOf first).isSome := by
  induction init with
  | nil =>
    have h : counted [l] = [l] := List.dropWhile_cons_of_neg (by simp [hl])
    exact ⟨[], l, [], h, List.suffix_refl _, h, by rw [hl]; rfl⟩
  | cons s init ih =>
    by_cases hs : (componentOf s).isNone = true
    · obtain ⟨init', first, mid, hconcat, hinit, hfirst, hcounts⟩ := ih
      have h : counted (s :: init ++ [l]) = counted (init ++ [l]) := List.dropWhile_cons_of_pos hs
      rw [h]
      exact ⟨init', first, mid, hconcat, hinit.trans (List.suffix_cons s init), hfirst, hcounts⟩
    · have h : counted (s :: init ++ [l]) = s :: init ++ [l] := List.dropWhile_cons_of_neg hs
      exact ⟨s :: init, s, init ++ [l], h, List.suffix_refl _, h,
        by simpa [Option.isSome_iff_ne_none] using hs⟩

/-- What is left of a path behind a base whose components are those of the root, if its last part
counts. -/
theorem stripPrefix?_join_relative {root base q : String} (hne : base ≠ "")
    (hsame : components base = components root) (habs : isAbsolute base = isAbsolute root)
    (hcs : components root ≠ []) (hq : isAbsolute q = false) {init : List String} {l : String}
    (hlast : segments q = init ++ [l]) {c : Component} (hl : componentOf l = some c) :
    stripPrefix? root (join base q) = some ("/".intercalate (counted (segments q))) := by
  obtain ⟨front, hparts, hcount⟩ := exists_parts_join hne hq
  have hprefix : (components root).isPrefixOf (components (join base q)) = true := by
    rw [List.isPrefixOf_iff_prefix, components_join_of_ne hne hq, hsame]
    exact List.prefix_append ..
  have hlength : (if isAbsolute root then (components root).length - 1 else (components root).length) =
      (front.filterMap (·.2)).length := by
    rw [← hsame, hcount, habs]
    cases isAbsolute root <;> simp
  have hstart : trimStart ((segments q).map partOf) = (counted (segments q)).map partOf :=
    List.dropWhile_map
  have hend : trimEnd ((counted (segments q)).map partOf) = (counted (segments q)).map partOf := by
    obtain ⟨init', -, -, hconcat, -⟩ := counted_concat init hl
    rw [hlast, hconcat, List.map_append]
    exact trimEnd_concat_some hl
  obtain ⟨d, ds, hds⟩ := List.exists_cons_of_ne_nil hcs
  unfold stripPrefix?
  rw [if_pos hprefix]
  simp only [hds]
  rw [← hds, hlength, hparts, trimStart_dropCounted, hstart, hend, ofParts_map_partOf]

/-- The path `f` is left as the last part of `q` that counts. -/
structure Left (q f : String) : Prop where
  relative : isAbsolute f = false
  nonempty : f ≠ ""
  chars : f.toList <:+ q.toList
  steps : ∃ front, stepsOf q = front ++ stepsOf f ∧ ∀ s ∈ front, s = .here

theorem stepsOf_of_last {p : String} {init : List String} {l : String}
    (hlast : segments p = init ++ [l]) (hl : l ≠ "") : stepsOf p = (segments p).filterMap stepOf := by
  have hend : p.toList.getLast? ≠ some '/' := by
    intro hend
    obtain ⟨cs, hcs⟩ := List.getLast?_eq_some_iff.1 hend
    have hsegs : segments p = (splitSlash cs).map String.ofList ++ [""] := by
      have hsplit : splitSlash p.toList = splitSlash cs ++ [[]] := by
        rw [hcs]
        exact splitSlash_append cs []
      rw [segments, hsplit, List.map_append]
      rfl
    exact hl (List.append_inj_right' (hlast.symm.trans hsegs) rfl |> List.singleton_inj.1)
  rw [stepsOf, if_neg hend, List.append_nil]

/-- The counted parts of a path are its end. -/
theorem suffix_counted {q : String} (hne : counted (segments q) ≠ []) :
    ("/".intercalate (counted (segments q))).toList <:+ q.toList := by
  have hcut : (segments q).takeWhile (fun s => (componentOf s).isNone) ++ counted (segments q) =
      segments q := List.takeWhile_append_dropWhile ..
  conv_rhs => rw [← intercalate_segments q, ← hcut]
  generalize (segments q).takeWhile (fun s => (componentOf s).isNone) = front
  by_cases hfront : front = []
  · subst hfront
    exact List.suffix_refl _
  · rw [String.intercalate_append_of_ne_nil hfront hne, String.toList_append]
    exact List.suffix_append ..

theorem left_counted {q : String} {init : List String} {l : String}
    (hlast : segments q = init ++ [l]) {c : Component} (hl : componentOf l = some c) :
    Left q ("/".intercalate (counted (segments q))) := by
  have hempty : ∀ s, (componentOf s).isSome → s ≠ "" := by
    rintro s hs rfl
    cases hs
  have hlne := hempty l (by rw [hl]; rfl)
  obtain ⟨init', first, mid, hconcat, -, hfirst, hcounts⟩ := counted_concat init hl
  rw [← hlast] at hconcat hfirst
  have hcut : segments q =
      (segments q).takeWhile (fun s => (componentOf s).isNone) ++ counted (segments q) :=
    (List.takeWhile_append_dropWhile ..).symm
  have hslash : ∀ s ∈ segments q, '/' ∉ s.toList := by
    intro s hs
    obtain ⟨p, hp, rfl⟩ := List.mem_map.1 hs
    rw [String.toList_ofList]
    exact no_slash_of_mem_splitSlash hp
  have hsegs : segments ("/".intercalate (counted (segments q))) = counted (segments q) :=
    segments_intercalate (by rw [hfirst]; exact List.cons_ne_nil _ _) fun s hs =>
      hslash s ((List.dropWhile_sublist _).subset hs)
  have hchars := suffix_counted (q := q) (by rw [hfirst]; exact List.cons_ne_nil _ _)
  generalize hf : "/".intercalate (counted (segments q)) = f at hsegs hchars
  refine ⟨?_, ?_, hchars, ?_⟩
  · rw [Bool.eq_false_iff]
    intro habs
    obtain ⟨cs, hcs⟩ := (isAbsolute_iff f).1 habs
    rw [hfirst, segments, hcs] at hsegs
    simp only [splitSlash, if_true, List.map_cons, List.cons.injEq] at hsegs
    exact hempty first hcounts hsegs.1.symm
  · rintro rfl
    rw [hfirst, segments_of_no_slash (by simp)] at hsegs
    exact hempty first hcounts (List.cons.inj hsegs).1.symm
  · refine ⟨((segments q).takeWhile fun s => (componentOf s).isNone).filterMap stepOf, ?_, ?_⟩
    · rw [stepsOf_of_last hlast hlne, stepsOf_of_last (hsegs.trans hconcat) hlne, hsegs,
        ← List.filterMap_append, ← hcut]
    · intro s hs
      obtain ⟨seg, hseg, hstep⟩ := List.mem_filterMap.1 hs
      have hnone := List.mem_takeWhile_imp hseg
      rcases componentOf_eq_none (Option.isNone_iff_eq_none.1 hnone) with rfl | rfl
      · cases hstep
      · exact (Option.some_inj.1 hstep).symm

/-- A character is one of a text's if it is one of a part's. -/
theorem mem_toList_iff {c : Char} (hc : c ≠ '/') (path : String) :
    c ∈ path.toList ↔ ∃ s ∈ segments path, c ∈ s.toList := by
  have h : ∀ cs : List Char, c ∈ cs ↔ ∃ p ∈ splitSlash cs, c ∈ p := by
    intro cs
    induction cs with
    | nil => simp [splitSlash]
    | cons d cs ih =>
      obtain ⟨p, ps, hps⟩ := List.exists_cons_of_ne_nil (splitSlash_ne_nil cs)
      rw [List.mem_cons, ih, splitSlash, hps]
      split
      next hd => simp [hd, hc]
      next hd => simp [or_assoc]
  rw [h, segments]
  simp

theorem mem_toList_rootText {root : String} (h : Settled root) {c : Char} (hc : c ≠ '/') :
    c ∈ (rootText root).toList ↔ c ∈ root.toList := by
  have hiff : ∀ path : String, c ∈ path.toList ↔
      (segments path).filterMap (fun s => if c ∈ s.toList then some s else none) ≠ [] := by
    intro path
    rw [mem_toList_iff hc, Ne, List.filterMap_eq_nil_iff]
    simp
  rw [hiff, hiff, filterMap_rootText h _ (if_neg (by simp))]

end Path

/-! ## Behind the root -/

namespace FileTree

theorem stepsOf_join_relative (base : String) {q : String} (hne : q ≠ "")
    (hq : Path.isAbsolute q = false) :
    stepsOf (Path.join base q) = (Path.segments base).filterMap stepOf ++ stepsOf q := by
  have hlast : (Path.join base q).toList.getLast? = q.toList.getLast? := by
    have hchars : q.toList ≠ [] := mt String.toList_eq_nil_iff.1 hne
    rw [Path.join_relative hq, String.toList_append, List.getLast?_append,
      List.getLast?_eq_some_getLast hchars, Option.some_or]
  rw [stepsOf, stepsOf, Path.filterMap_segments_join stepOf (by rfl) base hq, hlast, List.append_assoc]

/-- A file behind one base is there behind another one with the same steps but those that stay, under
what is left of its path. -/
theorem isFile_join_left {t : FileTree} {root base q f : String} (hx : t.isFile (Path.join base q) = true)
    (hq : Path.isAbsolute q = false) (hne : q ≠ "") (hf : Path.Left q f)
    (habs : Path.isAbsolute (Path.join root f) = Path.isAbsolute (Path.join base q))
    (hsteps : ((Path.segments root).filterMap stepOf).filter (· ≠ .here) =
      ((Path.segments base).filterMap stepOf).filter (· ≠ .here))
    (hnul : '\x00' ∉ root.toList) (hsize : (Path.join root f).utf8ByteSize ≤ maxPath) :
    t.isFile (Path.join root f) = true := by
  have hlast := getLast?_of_isFile hx
  have hsplit := stepsOf_join_relative base hne hq
  have hsplit' := stepsOf_join_relative root hf.nonempty hf.relative
  obtain ⟨front, hfront, hhere⟩ := hf.steps
  have hend : (stepsOf f).getLast? ≠ some .here := by
    rw [hsplit, hfront, List.getLast?_append, List.getLast?_append,
      List.getLast?_eq_some_getLast (stepsOf_ne_nil hf.nonempty), Option.some_or, Option.some_or] at hlast
    rwa [List.getLast?_eq_some_getLast (stepsOf_ne_nil hf.nonempty)]
  have hend' : (stepsOf (Path.join root f)).getLast? ≠ some .here := by
    rw [hsplit', List.getLast?_append, List.getLast?_eq_some_getLast (stepsOf_ne_nil hf.nonempty),
      Option.some_or]
    rwa [List.getLast?_eq_some_getLast (stepsOf_ne_nil hf.nonempty)] at hend
  have hstay : front.filter (· ≠ .here) = [] :=
    List.filter_eq_nil_iff.2 fun s hs => by simp [hhere s hs]
  have hnulx := no_nul_of_isFile hx
  refine isFile_of_direct hx habs ?_ ?_ ?_ hsize
  · rw [direct_of_getLast? hend', direct_of_getLast? (getLast?_of_isFile hx), hsplit', hsplit, hfront,
      List.filter_append, List.filter_append, List.filter_append, hsteps, hstay, List.nil_append]
  · rw [Path.join_relative hq] at hnulx
    have hsep : '\x00' ∉ (Path.separator root).toList := by
      unfold Path.separator
      split <;> decide
    rw [Path.join_relative hf.relative]
    simp only [String.toList_append, List.mem_append, not_or] at hnulx ⊢
    exact ⟨⟨hnul, hsep⟩, fun hmem => hnulx.2 (hf.chars.subset hmem)⟩
  · intro hempty
    rw [Path.join_relative hf.relative] at hempty
    have hboth : (root = "" ∧ Path.separator root = "") ∧ f = "" := by simpa using hempty
    exact hf.nonempty hboth.2

/-- The last part of a path to a file counts. -/
theorem last_counts {p : String} (hne : p ≠ "") (h : (stepsOf p).getLast? ≠ some .here) :
    ∃ init l c, Path.segments p = init ++ [l] ∧ Path.componentOf l = some c := by
  obtain ⟨init, l, hlast⟩ := (List.eq_nil_or_concat (Path.segments p)).resolve_left (Path.segments_ne_nil p)
  rw [List.concat_eq_append] at hlast
  refine ⟨init, l, ?_⟩
  cases hl : Path.componentOf l with
  | some c => exact ⟨c, hlast, rfl⟩
  | none =>
    refine absurd ?_ h
    rcases Path.componentOf_eq_none hl with rfl | rfl
    · have hslash : p.toList.getLast? = some '/' := by
        by_contra hslash
        obtain ⟨q, hq, hqne⟩ := Path.getLast?_splitSlash (mt String.toList_eq_nil_iff.1 hne) hslash
        have hpart := congrArg List.getLast? hlast
        rw [Path.segments, List.getLast?_map, hq, List.getLast?_concat] at hpart
        exact hqne (by simpa using congrArg String.toList (Option.some_inj.1 hpart))
      rw [stepsOf, if_pos hslash, List.getLast?_concat]
    · rw [Path.stepsOf_of_last hlast (by decide), hlast, List.filterMap_append, List.getLast?_append]
      rfl

theorem last_counts_behind {t : FileTree} {base q : String} (hbase : base ≠ "")
    (hq : Path.isAbsolute q = false) (h : t.isFile (Path.join base q) = true) :
    q ≠ "" ∧ ∃ init l c, Path.segments q = init ++ [l] ∧ Path.componentOf l = some c := by
  have hlast := getLast?_of_isFile h
  have hne : q ≠ "" := by
    rintro rfl
    rw [stepsOf, if_pos (getLast?_join_empty hbase), List.getLast?_concat] at hlast
    exact hlast rfl
  refine ⟨hne, last_counts hne ?_⟩
  rwa [stepsOf_join_relative base hne hq, List.getLast?_append,
    List.getLast?_eq_some_getLast (stepsOf_ne_nil hne), Option.some_or,
    ← List.getLast?_eq_some_getLast] at hlast

end FileTree

end BuildGate
