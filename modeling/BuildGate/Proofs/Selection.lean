import BuildGate.Proofs.BoundedWalk
import BuildGate.Proofs.Expansion
import BuildGate.Proofs.RelativePaths
import Mathlib.Data.List.Forall2
import Mathlib.Data.List.Perm.Subperm

/-!
# Files at any depth below a directory of a project

The pattern of an entry that goes down literally to a directory and on from there with `**` and one
more component selects the files at any depth below that directory whose names the component matches.
How the root is written makes no difference, nor do operators in it.

**Results.**
* `rootPath`, `components_rootPath`: the text under which the expansion comes to the root.
* `length_le`: no location is deeper than there are entries.
* `mem_expand_recursive`: the files that such a pattern leads to.
* `selected_recursive`: the same for an entry, with paths relative to the root.
-/
namespace BuildGate

open FileTree

namespace Path

theorem components_joinAll {base : String} (hb : isAbsolute base = true) {segs : List String}
    (h : ∀ s ∈ segs, '/' ∉ s.toList) :
    components (joinAll base segs) = components base ++ segs.filterMap componentOf := by
  induction segs generalizing base with
  | nil => simp
  | cons seg segs ih =>
    have hseg := h seg List.mem_cons_self
    rw [joinAll_cons, ih (isAbsolute_join hb seg) fun s hs => h s (List.mem_cons_of_mem _ hs),
      components_join hb (isAbsolute_of_no_slash hseg), segments_of_no_slash hseg,
      List.append_assoc, ← List.filterMap_append]
    rfl

end Path

namespace FileTree

theorem resolve_joinAll_names {t : FileTree} (lf : t.LinkFree) (wf : t.WellFormed)
    {names : List String} {base : String} (habs : Path.isAbsolute base = true)
    (h : ∀ n ∈ names, IsName n) {r : Location} (hr : t.resolve (Path.joinAll base names) = .ok r) :
    ∃ loc, t.resolve base = .ok loc ∧ r = loc ++ names := by
  induction names generalizing base with
  | nil => exact ⟨r, hr, by simp⟩
  | cons n names ih =>
    obtain ⟨loc, hloc, rfl⟩ := ih (Path.isAbsolute_join habs n)
      (fun m hm => h m (List.mem_cons_of_mem _ hm)) hr
    obtain ⟨dir, hdir, -, -, rfl, -⟩ :=
      (resolve_join_name lf wf habs (h n List.mem_cons_self)).1 hloc
    exact ⟨dir, hdir, by simp⟩

/-- The path to an entry leads to it. -/
theorem resolve_joinAll {t : FileTree} (wf : t.WellFormed) {names : Location} {e : Entry}
    (hne : names ≠ []) (h : t.get? names = some e) (hp : Entry.IsPlace e)
    (hlong : (pathOf names).utf8ByteSize ≤ maxPath) :
    t.resolve (Path.joinAll "/" names) = .ok names := by
  have hnames : ∀ n ∈ names, Path.IsPart n := fun n hn => (wf.isName h n hn).1.toIsPart
  have hpath : Path.joinAll "/" names = pathOf names := by
    rw [Path.joinAll_names hne hnames, Path.join_relative (Path.isAbsolute_names hnames)]
    rfl
  rw [hpath, resolve, resolveWith_pathOf wf true h hp, if_neg (Nat.not_lt.2 hlong)]

/-- Everything on the way to a file is a directory. -/
theorem get?_of_isFile {t : FileTree} (wf : t.WellFormed) (lf : t.LinkFree) {front back : Location}
    (hback : back ≠ []) (hnames : ∀ n ∈ front ++ back, IsName n)
    (h : t.isFile (Path.joinAll "/" (front ++ back)) = true) : t.get? front = some .dir := by
  obtain ⟨loc, bytes, hr, hg⟩ := isFile_iff.1 h
  obtain ⟨dir, hdir, rfl⟩ := resolve_joinAll_names lf wf (by decide) hnames hr
  have hroot : t.resolve "/" = .ok [] := resolve_of_within 10 (by rfl)
  rw [hroot] at hdir
  cases hdir
  exact wf.get?_prefix hg ⟨back, rfl⟩ (by simpa using hback)

/-- Everything on the way to an entry is an entry of its own. -/
theorem length_le {t : FileTree} (wf : t.WellFormed) {loc : Location} {e : Entry}
    (h : t.get? loc = some e) : loc.length ≤ t.entries.length := by
  have hsub : (List.range loc.length).map (fun i => loc.take (i + 1)) ⊆ t.entries.map (·.1) := by
    intro l hl
    obtain ⟨i, hi, rfl⟩ := List.mem_map.1 hl
    have hi := List.mem_range.1 hi
    have hne : loc.take (i + 1) ≠ [] := by
      intro hnil
      have := congrArg List.length hnil
      simp only [List.length_take, List.length_nil] at this
      omega
    obtain ⟨e', he'⟩ : ∃ e', t.get? (loc.take (i + 1)) = some e' := by
      by_cases heq : loc.take (i + 1) = loc
      · exact ⟨e, by rw [heq, h]⟩
      · exact ⟨.dir, wf.get?_prefix h (List.take_prefix _ _) heq⟩
    exact List.mem_map.2 ⟨_, mem_of_get? hne he', rfl⟩
  have hnodup : ((List.range loc.length).map fun i => loc.take (i + 1)).Nodup := by
    refine List.Nodup.map_on ?_ List.nodup_range
    intro i hi j hj hij
    have := congrArg List.length hij
    have := List.mem_range.1 hi
    have := List.mem_range.1 hj
    simp only [List.length_take] at *
    omega
  have := (List.subperm_of_subset hnodup hsub).length_le
  simpa using this

end FileTree

namespace Glob.Include

/-- The text under which an expansion comes to an absolute root: its pieces one after the other. -/
def rootPath (root : String) : String := Path.joinAll "/" ((rootPieces root).map String.ofList)

theorem isAbsolute_rootPath (root : String) : Path.isAbsolute (rootPath root) = true :=
  Path.isAbsolute_joinAll (by decide) _

theorem no_slash_rootPieces (root : String) :
    ∀ s ∈ (rootPieces root).map String.ofList, '/' ∉ s.toList := by
  intro s hs
  obtain ⟨p, hp, rfl⟩ := List.mem_map.1 hs
  rw [String.toList_ofList]
  exact Path.no_slash_of_mem_splitSlash (pieces_subset (List.mem_of_mem_tail hp))

theorem components_rootPath {root : String} (habs : Path.isAbsolute root = true) :
    Path.components (rootPath root) = Path.components root := by
  have hroot : Path.components "/" = [.root] := by decide
  rw [rootPath, Path.components_joinAll (by decide) (no_slash_rootPieces root), hroot,
    Path.components_absolute habs, Path.segments,
    ← filterMap_pieces Path.componentOf Path.componentOf_empty, pieces_absolute habs]
  simp

theorem standsFor_rootPieces (root : String) :
    List.Forall₂ StandsFor ((rootPieces root).map (·.map literalToken))
      ((rootPieces root).map String.ofList) := by
  induction rootPieces root with
  | nil => exact .nil
  | cons p ps ih =>
    refine .cons ?_ ih
    have := StandsFor.escaped (String.ofList p)
    rwa [String.toList_ofList] at this

/-- The regular files that `**` and one component lead to, below a directory of the root that is
named literally. -/
theorem mem_expand_recursive {t : FileTree} (wf : t.WellFormed) (lf : t.LinkFree) (root : String)
    {tss : List (List Include)} {segs : List String} (hs : List.Forall₂ StandsFor tss segs)
    (hsegs : ∀ s ∈ segs, '/' ∉ s.toList) {ts : List Include} (hts : isRecursive ts = false)
    {x : String} (hx : t.isFile x = true) :
    x ∈ Selector.expand t
        ⟨"/", (rootPieces root).map (·.map literalToken) ++ (tss ++ [[.recursive], ts]), false⟩ ↔
      ∃ names n, x = Path.joinAll (rootPath root) (segs ++ (names ++ [n])) ∧
        (∀ m ∈ names, IsName m) ∧ IsName n ∧ accepts ts n.toList = true := by
  have hall : List.Forall₂ StandsFor ((rootPieces root).map (·.map literalToken) ++ tss)
      ((rootPieces root).map String.ofList ++ segs) :=
    List.rel_append (standsFor_rootPieces root) hs
  have hbase : Path.joinAll "/" ((rootPieces root).map String.ofList ++ segs) =
      Path.joinAll (rootPath root) segs := Path.joinAll_append _ _ _
  have habs : Path.isAbsolute (Path.joinAll (rootPath root) segs) = true :=
    Path.isAbsolute_joinAll (isAbsolute_rootPath root) segs
  have hslash : Path.isAbsolute "/" = true := by decide
  rw [Selector.expand, ← List.append_assoc]
  change x ∈ pathsFrom t _ _ "/" ↔ _
  constructor
  · intro h
    obtain ⟨fuel, h⟩ := pathsFrom_standsFor_all wf hall (by simp) (by decide) h
    rw [hbase] at h
    obtain ⟨names, n, rfl, hrest⟩ := pathsFrom_recursive wf hts habs h
    exact ⟨names, n, (Path.joinAll_append _ _ _).symm, hrest⟩
  · rintro ⟨names, n, rfl, hnames, hn, ha⟩
    obtain ⟨r, bytes, hr, hg⟩ := isFile_iff.1 hx
    have hbehind : ∀ m ∈ names ++ [n], IsName m := by
      rw [List.forall_mem_append, List.forall_mem_singleton]
      exact ⟨hnames, hn⟩
    rw [Path.joinAll_append] at hr ⊢
    obtain ⟨dir, hdir, -⟩ := resolve_of_joinAll lf habs (fun s hs => (hbehind s hs).no_slash) hr
    -- The names are fewer than the entries, and each component of the rest takes one level at most.
    have hdepth : names.length < t.entries.length := by
      obtain ⟨loc, -, rfl⟩ := resolve_joinAll_names lf wf habs hbehind hr
      have := length_le wf hg
      simp only [List.length_append, List.length_singleton] at this
      omega
    have hall' : ∀ s ∈ (rootPieces root).map String.ofList ++ segs, '/' ∉ s.toList :=
      List.forall_mem_append.2 ⟨no_slash_rootPieces root, hsegs⟩
    rw [← hbase] at hdir
    obtain ⟨k, hk, hmem⟩ := mem_pathsFrom_standsFor_all wf lf hall
      (List.cons_ne_nil [.recursive] [ts]) hslash hall' hdir
    rw [hbase] at hmem
    have hlength : ((rootPieces root).map String.ofList ++ segs).length ≤
        ((rootPieces root).map (·.map literalToken) ++ tss ++ [[.recursive], ts]).length := by
      have := hs.length_eq
      simp only [List.length_append, List.length_map]
      omega
    have hentries : t.entries.length + 1 ≤ (maxLinks + 1) * (t.entries.length + 1) :=
      Nat.le_mul_of_pos_left _ (by decide)
    generalize hD : ((rootPieces root).map (·.map literalToken) ++ tss ++
      [[.recursive], ts]).length + (maxLinks + 1) * (t.entries.length + 1) + 1 = depth
    obtain ⟨fuel, rfl⟩ := Nat.exists_eq_add_of_le' (show k ≤ depth by omega)
    exact hmem fuel _ (mem_pathsFrom_recursive wf lf hts habs hnames hn ha hr (by omega))

end Glob.Include

open Glob.Include

namespace FileSet

/-- The files that an entry of that form selects, relative to the root. -/
theorem selected_recursive {t : FileTree} (wf : t.WellFormed) (lf : t.LinkFree) {root entry : String}
    (habs : Path.isAbsolute root = true) {tss : List (List Glob.Include)} {segs : List String}
    (hs : List.Forall₂ StandsFor tss segs) (hsegs : ∀ s ∈ segs, Path.IsPart s)
    {ts : List Glob.Include}
    (hts : isRecursive ts = false)
    (hread : Selector.read (rootedPattern root entry) =
      .ok ⟨"/", (rootPieces root).map (·.map literalToken) ++ (tss ++ [[.recursive], ts]), false⟩) :
    ∃ files, selected t root entry = .ok files ∧ ∀ f, f ∈ files ↔
      ∃ names n, f = "/".intercalate (segs ++ (names ++ [n])) ∧ (∀ m ∈ names, IsName m) ∧
        IsName n ∧ accepts ts n.toList = true ∧ t.isFile (Path.join (rootPath root) f) = true := by
  refine ⟨_, by rw [selected, hread], fun f => ?_⟩
  have habs' := isAbsolute_rootPath root
  have hparts : ∀ {names : List String} {n : String}, (∀ m ∈ names, IsName m) → IsName n →
      ∀ s ∈ segs ++ (names ++ [n]), Path.IsPart s := by
    intro names n hnames hn
    rw [List.forall_mem_append, List.forall_mem_append, List.forall_mem_singleton]
    exact ⟨hsegs, fun m hm => (hnames m hm).toIsPart, hn.toIsPart⟩
  rw [List.mem_map]
  constructor
  · rintro ⟨x, hx, rfl⟩
    obtain ⟨hx, hfile⟩ := List.mem_filter.1 hx
    obtain ⟨names, n, rfl, hnames, hn, ha⟩ := (mem_expand_recursive wf lf root hs
      (fun s hs => (hsegs s hs).no_slash) hts hfile).1 hx
    rw [Path.joinAll_names (by simp) (hparts hnames hn)] at hfile ⊢
    rw [Path.stripPrefix?_join habs habs' (components_rootPath habs) (by simp) (hparts hnames hn),
      Option.getD_some]
    exact ⟨names, n, rfl, hnames, hn, ha, hfile⟩
  · rintro ⟨names, n, rfl, hnames, hn, ha, hfile⟩
    refine ⟨Path.join (rootPath root) ("/".intercalate (segs ++ (names ++ [n]))),
      List.mem_filter.2 ⟨?_, hfile⟩, ?_⟩
    · rw [← Path.joinAll_names (by simp) (hparts hnames hn)] at hfile ⊢
      exact (mem_expand_recursive wf lf root hs (fun s hs => (hsegs s hs).no_slash) hts hfile).2
        ⟨names, n, rfl, hnames, hn, ha⟩
    · rw [Path.stripPrefix?_join habs habs' (components_rootPath habs) (by simp)
        (hparts hnames hn), Option.getD_some]

/-- A set with one entry, which selects. -/
theorem read_single {entry : String} (h : negated? entry = none) :
    FileSet.read [entry] = .ok ⟨[entry], []⟩ := by
  have hexcludes : readExcludes [entry] = .ok [] := by
    simp only [readExcludes, h]
  have hincludes : ([entry].filter fun e => (negated? e).isNone) = [entry] := by simp [h]
  rw [FileSet.read, hexcludes, hincludes]
  rfl

theorem expand_single (t : FileTree) (root entry : String) :
    FileSet.expand ⟨[entry], []⟩ t root = (selected t root entry).map distinctPaths := by
  unfold expand selectedAll selectedAll
  cases selected t root entry with
  | error f => rfl
  | ok files =>
    have hkeep : (files.filter fun p => !isExcluded ⟨[entry], []⟩ p) = files :=
      List.filter_eq_self.2 fun p _ => by simp [isExcluded]
    simp [bind, Except.bind, pure, Except.pure, Except.map, hkeep]

end FileSet

end BuildGate
