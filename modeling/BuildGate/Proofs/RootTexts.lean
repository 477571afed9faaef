import BuildGate.Proofs.FileLists
import BuildGate.Proofs.ReachedPaths

/-!
# The text of a root in the listed paths

An expansion comes to a root part by part and keeps the text of what it has passed, but for the
current directory: where it stands there, the next part is a path of its own. So a root that begins
with `.` and goes on is come to under a text without the `.`, and every other one under its own text,
with one slash where there were several.

**Results.**
* `Settled`: paths that cannot become the current directory again.
* `rootText`, `filterMap_rootText`, `components_rootText`: the text under which a root is come to.
* `Selector.eq_of_read_relative`: what is read of an entry below a relative root.
* `FileSet.oneFurther_of_mem_leadsTo`: what holds of that text and goes over to paths one part further
  holds of every file that an entry leads to.
-/
namespace BuildGate

open FileTree Glob.Include

namespace Path

/-! ## Paths that are not the current directory -/

/-- A path that begins with something other than `.`, so that no part behind it makes it the current
directory. -/
def Settled (path : String) : Prop := ∃ c cs, components path = c :: cs ∧ c ≠ .here

theorem isAbsolute_join_of_ne {base q : String} (hne : base ≠ "") (hq : isAbsolute q = false) :
    isAbsolute (join base q) = isAbsolute base := by
  obtain ⟨c, cs, hcs⟩ := List.exists_cons_of_ne_nil (mt String.toList_eq_nil_iff.1 hne)
  rw [join_relative hq]
  simp [isAbsolute, hcs]

theorem settled_of_isAbsolute {path : String} (h : isAbsolute path = true) : Settled path :=
  ⟨.root, _, components_absolute h, nofun⟩

theorem componentOf_ne_here (seg : String) : componentOf seg ≠ some .here := by
  unfold componentOf partOf
  split
  · simp
  · split <;> simp

theorem components_of_no_slash {seg : String} (hslash : '/' ∉ seg.toList) :
    components seg = ((if seg = "." then some .here else componentOf seg) : Option Component).toList := by
  have hparts := parts_relative (isAbsolute_of_no_slash hslash) (segments_of_no_slash hslash)
  rw [components, isAbsolute_of_no_slash hslash, hparts]
  cases (if seg = "." then some Component.here else componentOf seg) <;> simp

theorem settled_of_componentOf {seg : String} (hslash : '/' ∉ seg.toList) {c : Component}
    (h : componentOf seg = some c) : Settled seg := by
  have hdot : seg ≠ "." := by rintro rfl; cases h
  refine ⟨c, [], ?_, fun hc => componentOf_ne_here seg (by rw [h, hc])⟩
  rw [components_of_no_slash hslash, if_neg hdot, h]
  rfl

/-- All parts of a path are read alike if the first one is not `.`. -/
theorem components_of_ne_here {path seg : String} {segs : List String} (hrel : isAbsolute path = false)
    (hsegs : segments path = seg :: segs) (hdot : seg ≠ ".") :
    components path = (segments path).filterMap componentOf := by
  rw [components, hrel, parts_relative hrel hsegs, if_neg hdot, hsegs, if_neg (by simp),
    List.nil_append]
  cases hseg : componentOf seg with
  | none => simp [List.filterMap_map, hseg]; rfl
  | some c => simp [List.filterMap_map, hseg]; rfl

section
variable {base : String} (h : Settled base)
include h

theorem Settled.ne_empty : base ≠ "" := by
  rintro rfl
  obtain ⟨c, cs, hcs, -⟩ := h
  cases hcs

theorem Settled.join {q : String} (hq : isAbsolute q = false) : Settled (join base q) := by
  have hne := h.ne_empty
  obtain ⟨c, cs, hcs, hc⟩ := h
  exact ⟨c, _, by rw [components_join_of_ne hne hq, hcs, List.cons_append], hc⟩

theorem Settled.isHere : isHere base = false := by
  obtain ⟨c, cs, hcs, hc⟩ := h
  rw [Glob.Include.isHere, hcs, beq_eq_false_iff_ne]
  intro heq
  exact hc (List.cons.inj heq).1

theorem Settled.inDir (seg : String) : inDir base seg = Path.join base seg := by
  rw [Glob.Include.inDir, h.isHere, if_neg (by simp)]

theorem Settled.foldl_inDir {segs : List String} (hsegs : ∀ s ∈ segs, '/' ∉ s.toList) :
    segs.foldl Glob.Include.inDir base = joinAll base segs ∧ Settled (joinAll base segs) := by
  induction segs generalizing base with
  | nil => exact ⟨rfl, h⟩
  | cons seg segs ih =>
    rw [List.forall_mem_cons] at hsegs
    rw [List.foldl_cons, h.inDir]
    exact ih (h.join (isAbsolute_of_no_slash hsegs.1)) hsegs.2

theorem Settled.isAbsolute_joinAll {segs : List String} (hsegs : ∀ s ∈ segs, '/' ∉ s.toList) :
    isAbsolute (joinAll base segs) = isAbsolute base := by
  induction segs generalizing base with
  | nil => rfl
  | cons seg segs ih =>
    rw [List.forall_mem_cons] at hsegs
    have hseg := isAbsolute_of_no_slash hsegs.1
    rw [joinAll_cons, ih (h.join hseg) hsegs.2, isAbsolute_join_of_ne h.ne_empty hseg]

/-- Where it is relative, all its parts are read alike. -/
theorem Settled.components_eq (hrel : isAbsolute base = false) :
    components base = (segments base).filterMap componentOf := by
  obtain ⟨c, cs, hcs, hc⟩ := h
  obtain ⟨seg, segs, hsegs⟩ := List.exists_cons_of_ne_nil (segments_ne_nil base)
  refine components_of_ne_here hrel hsegs ?_
  rintro rfl
  rw [components, hrel, parts_relative hrel hsegs] at hcs
  exact hc (List.cons.inj hcs).1.symm

end

/-- Parts behind the current directory make a path that is settled once one of them counts. -/
theorem settled_foldl_inDir {start : String} (hstart : start = "." ∨ start = "") {segs : List String}
    (hsegs : ∀ s ∈ segs, '/' ∉ s.toList) (h : segs.filterMap componentOf ≠ []) :
    Settled (segs.foldl inDir start) := by
  induction segs generalizing start with
  | nil => exact absurd rfl h
  | cons seg segs ih =>
    rw [List.forall_mem_cons] at hsegs
    have hseg : inDir start seg = seg := by
      rcases hstart with rfl | rfl
      · rw [Glob.Include.inDir, if_pos (by decide)]
      · rw [Glob.Include.inDir, if_neg (by decide), join_relative (isAbsolute_of_no_slash hsegs.1)]
        simp [separator]
    rw [List.foldl_cons, hseg]
    cases hc : componentOf seg with
    | none =>
      rw [List.filterMap_cons_none hc] at h
      exact ih (componentOf_eq_none hc).symm hsegs.2 h
    | some c =>
      have hfold := (settled_of_componentOf hsegs.1 hc).foldl_inDir hsegs.2
      rw [hfold.1]
      exact hfold.2

theorem filterMap_joinAll {β : Type} (f : String → Option β) (hf : f "" = none) (base : String)
    {segs : List String} (hsegs : ∀ s ∈ segs, '/' ∉ s.toList) :
    (segments (joinAll base segs)).filterMap f = (segments base).filterMap f ++ segs.filterMap f := by
  induction segs generalizing base with
  | nil => simp
  | cons seg segs ih =>
    rw [List.forall_mem_cons] at hsegs
    have hseg := isAbsolute_of_no_slash hsegs.1
    rw [joinAll_cons, ih _ hsegs.2, filterMap_segments_join f hf base hseg,
      segments_of_no_slash hsegs.1, List.append_assoc, ← List.filterMap_append]
    rfl

theorem separator_append_of_ne (s : String) {q : String} (hne : q ≠ "") :
    separator (s ++ q) = separator q := by
  have hq : q.toList ≠ [] := mt String.toList_eq_nil_iff.1 hne
  have hlast : (s ++ q).toList.getLast? = q.toList.getLast? := by
    rw [String.toList_append, List.getLast?_append, List.getLast?_eq_some_getLast hq, Option.some_or]
  have hempty : (s ++ q).isEmpty = q.isEmpty := by
    rw [Bool.eq_iff_iff, String.isEmpty_iff, String.isEmpty_iff]
    refine iff_of_false (fun h => hne ?_) hne
    have hboth : s = "" ∧ q = "" := by simpa using h
    exact hboth.2
  rw [separator, separator, hlast, hempty]

theorem separator_behind (s : String) : separator (s ++ separator s) = "" := by
  by_cases h : s.isEmpty = true ∨ s.toList.getLast? = some '/'
  · rw [separator, if_pos]
    rwa [separator, if_pos h, String.append_empty]
  · rw [separator, if_pos]
    rw [separator, if_neg h]
    exact .inr (by simp)

theorem isAbsolute_join_relative {q r : String} (hq : isAbsolute q = false) (hr : isAbsolute r = false) :
    isAbsolute (join q r) = false := by
  by_cases hne : q = ""
  · rw [hne, join_relative hr]
    exact hr
  · rw [isAbsolute_join_of_ne hne hr, hq]

/-- What is put behind what stands behind a path stands behind it. -/
theorem join_join_relative {q r : String} (hq : isAbsolute q = false) (hr : isAbsolute r = false)
    (base : String) : join (join base q) r = join base (join q r) := by
  have hs := isAbsolute_join_relative hq hr
  by_cases hne : q = ""
  · have hempty : join "" r = r := by rw [join_relative hr]; exact String.empty_append
    rw [hne, hempty, join_relative hr, join_relative (by rfl), join_relative hr, String.append_empty,
      separator_behind, String.append_empty]
  · rw [join_relative hr, join_relative hq, separator_append_of_ne _ hne, join_relative hs,
      join_relative hr]
    simp only [String.append_assoc]

/-- So do any parts behind it. -/
theorem joinAll_join_relative {segs : List String} (hsegs : ∀ s ∈ segs, '/' ∉ s.toList) {q : String}
    (hq : isAbsolute q = false) (base : String) :
    isAbsolute (joinAll q segs) = false ∧ joinAll (join base q) segs = join base (joinAll q segs) := by
  induction segs generalizing q with
  | nil => exact ⟨hq, rfl⟩
  | cons seg segs ih =>
    rw [List.forall_mem_cons] at hsegs
    have hseg := isAbsolute_of_no_slash hsegs.1
    rw [joinAll_cons, joinAll_cons, join_join_relative hq hseg]
    exact ih hsegs.2 (isAbsolute_join_relative hq hseg)

end Path

namespace Glob.Include

/-! ## The text of a root -/

/-- Where an expansion below `root` starts. -/
def rootStart (root : String) : String := if Path.isAbsolute root then "/" else "."

/-- The parts of `root` that an expansion goes through from there. -/
def rootParts (root : String) : List String :=
  (if Path.isAbsolute root then rootPieces root else pieces root.toList).map String.ofList

/-- The text under which an expansion comes to `root`. -/
def rootText (root : String) : String := (rootParts root).foldl inDir (rootStart root)

theorem no_slash_rootParts (root : String) : ∀ s ∈ rootParts root, '/' ∉ s.toList := by
  unfold rootParts
  split
  · exact no_slash_rootPieces root
  · intro s hs
    obtain ⟨p, hp, rfl⟩ := List.mem_map.1 hs
    rw [String.toList_ofList]
    exact Path.no_slash_of_mem_splitSlash (pieces_subset hp)

/-- They are the parts of the root, but for empty ones at its ends. -/
theorem filterMap_rootParts {β : Type} (f : String → Option β) (hf : f "" = none) (root : String) :
    (rootParts root).filterMap f = (Path.segments root).filterMap f := by
  rw [Path.segments, ← filterMap_pieces f hf]
  unfold rootParts
  split
  next habs =>
    rw [pieces_absolute habs, List.map_cons, List.filterMap_cons_none (by simpa using hf)]
  next => rfl

theorem rootText_absolute {root : String} (habs : Path.isAbsolute root = true) :
    rootText root = rootPath root := by
  have hsettled : Path.Settled "/" := Path.settled_of_isAbsolute (by decide)
  have hslash := no_slash_rootPieces root
  rw [rootText, rootStart, rootParts, if_pos habs, if_pos habs, (hsettled.foldl_inDir hslash).1,
    rootPath]

/-- The first piece of a relative path is not empty, so it is not left out. -/
theorem pieces_relative {root : String} (hne : root ≠ "") (hrel : Path.isAbsolute root = false) :
    ∃ p rest, p ≠ [] ∧ pieces root.toList = p :: rest ∧
      ∃ more, Path.segments root = String.ofList p :: more := by
  obtain ⟨c, cs, hcs⟩ := List.exists_cons_of_ne_nil (mt String.toList_eq_nil_iff.1 hne)
  have hc : c ≠ '/' := by
    rintro rfl
    rw [Path.isAbsolute, hcs] at hrel
    cases hrel
  obtain ⟨p, ps, hps⟩ : ∃ p ps, Path.splitSlash root.toList = (c :: p) :: ps := by
    obtain ⟨p, ps, hps⟩ := List.exists_cons_of_ne_nil (Path.splitSlash_ne_nil cs)
    exact ⟨p, ps, by rw [hcs, Path.splitSlash, if_neg hc, hps]⟩
  have hpieces : ∃ rest, pieces root.toList = (c :: p) :: rest := by
    unfold pieces
    rw [hps]
    cases ps with
    | nil => exact ⟨[], by simp⟩
    | cons q ps =>
      dsimp only
      split
      · exact ⟨_, List.dropLast_cons_of_ne_nil (List.cons_ne_nil q ps)⟩
      · exact ⟨_, rfl⟩
  obtain ⟨rest, hrest⟩ := hpieces
  exact ⟨c :: p, rest, List.cons_ne_nil _ _, hrest, _, by rw [Path.segments, hps, List.map_cons]⟩

section
variable {root : String} (h : Path.Settled root)
include h

/-- A root that does not begin with `.` is come to part by part. -/
theorem rootText_parts : ∃ base segs, Path.Settled base ∧ (∀ s ∈ segs, '/' ∉ s.toList) ∧
    rootText root = Path.joinAll base segs ∧ Path.isAbsolute base = Path.isAbsolute root ∧
      (∀ (β : Type) (f : String → Option β), f "" = none →
        (Path.segments base).filterMap f ++ segs.filterMap f = (rootParts root).filterMap f) ∧
      ∃ p ps, pieces root.toList = p :: ps ∧ segs = ps.map String.ofList ∧
        base ++ Path.separator base = String.ofList p ++ "/" := by
  have hslash := no_slash_rootParts root
  cases habs : Path.isAbsolute root with
  | true =>
    have hstart : rootStart root = "/" := by rw [rootStart, if_pos habs]
    have hsettled : Path.Settled "/" := Path.settled_of_isAbsolute (by decide)
    have hparts : rootParts root = (rootPieces root).map String.ofList := by rw [rootParts, if_pos habs]
    refine ⟨"/", rootParts root, hsettled, hslash, ?_, by decide, fun β f hf => ?_,
      [], rootPieces root, pieces_absolute habs, hparts, by decide⟩
    · rw [rootText, hstart, (hsettled.foldl_inDir hslash).1]
    · have hsegs : Path.segments "/" = ["", ""] := by decide
      simp [hsegs, hf]
  | false =>
    -- The first part counts, or the root would begin with `.`.
    obtain ⟨p, rest, hne, hpieces, more, hsegs⟩ := pieces_relative h.ne_empty habs
    have hcounts : Path.componentOf (String.ofList p) ≠ none := by
      intro hnone
      rcases Path.componentOf_eq_none hnone with hempty | hdot
      · exact hne (by simpa using hempty)
      · obtain ⟨c, cs, hcs, hc⟩ := h
        rw [Path.components, habs, Path.parts_relative habs hsegs, if_pos hdot] at hcs
        exact hc (List.cons.inj hcs).1.symm
    obtain ⟨c, hc⟩ := Option.ne_none_iff_exists'.1 hcounts
    have hparts : rootParts root = String.ofList p :: rest.map String.ofList := by
      rw [rootParts, if_neg (by simp [habs]), hpieces, List.map_cons]
    rw [hparts, List.forall_mem_cons] at hslash
    have hsettled := Path.settled_of_componentOf hslash.1 hc
    refine ⟨String.ofList p, rest.map String.ofList, hsettled, hslash.2, ?_,
      Path.isAbsolute_of_no_slash hslash.1, fun β f hf => ?_, p, rest, hpieces, rfl, ?_⟩
    · have hfirst : inDir "." (String.ofList p) = String.ofList p := if_pos (by decide)
      rw [rootText, hparts, rootStart, if_neg (by simp [habs]), List.foldl_cons, hfirst,
        (hsettled.foldl_inDir hslash.2).1]
    · rw [Path.segments_of_no_slash hslash.1, hparts, ← List.filterMap_append]
      rfl
    · have hsep := Path.separator_append "" hsettled.ne_empty hslash.1
      rw [String.empty_append] at hsep
      rw [hsep]

theorem filterMap_rootText {β : Type} (f : String → Option β) (hf : f "" = none) :
    (Path.segments (rootText root)).filterMap f = (Path.segments root).filterMap f := by
  obtain ⟨base, segs, -, hsegs, htext, -, hparts, -⟩ := rootText_parts h
  rw [htext, Path.filterMap_joinAll f hf base hsegs, hparts β f hf, filterMap_rootParts f hf]

theorem settled_rootText : Path.Settled (rootText root) := by
  obtain ⟨base, segs, hbase, hsegs, htext, -⟩ := rootText_parts h
  rw [htext]
  exact (hbase.foldl_inDir hsegs).2

theorem isAbsolute_rootText : Path.isAbsolute (rootText root) = Path.isAbsolute root := by
  obtain ⟨base, segs, hbase, hsegs, htext, habs, -⟩ := rootText_parts h
  rw [htext, ← habs, hbase.isAbsolute_joinAll hsegs]

theorem components_rootText : Path.components (rootText root) = Path.components root := by
  have hsame := filterMap_rootText h Path.componentOf Path.componentOf_empty
  cases habs : Path.isAbsolute root with
  | true =>
    rw [Path.components_absolute habs, Path.components_absolute
      ((isAbsolute_rootText h).trans habs), hsame]
  | false =>
    rw [h.components_eq habs, (settled_rootText h).components_eq
      ((isAbsolute_rootText h).trans habs), hsame]

end

/-! ## Entries below a relative root -/

theorem isAbsolute_escape_eq (root : String) :
    Path.isAbsolute (escape root) = Path.isAbsolute root := by
  cases habs : Path.isAbsolute root with
  | true => exact isAbsolute_escape habs
  | false =>
    rw [Path.isAbsolute, toList_escape]
    rw [Path.isAbsolute] at habs
    cases hcs : root.toList with
    | nil => rfl
    | cons c cs =>
      rw [hcs] at habs
      by_cases hc : "?*[]".toList.contains c = true
      · rw [escapeChars, List.flatMap_cons, if_pos hc]
        rfl
      · rwa [escapeChars, List.flatMap_cons, if_neg hc]

/-- The pattern of an entry below a relative root is relative, and its pieces are those of both. -/
theorem splitSlash_rooted_relative {root entry : String} (hroot : Path.isAbsolute root = false)
    (hrel : Path.isAbsolute entry = false) :
    Path.isAbsolute (FileSet.rootedPattern root entry) = false ∧
      Path.splitSlash (FileSet.rootedPattern root entry).toList =
        (pieces root.toList).map escapeChars ++ Path.splitSlash entry.toList := by
  rw [FileSet.rootedPattern]
  by_cases hne : root = ""
  · subst hne
    rw [show escape "" = "" from rfl, Path.join_relative hrel]
    exact ⟨hrel, rfl⟩
  · have hescape : escape root ≠ "" := by
      intro hnil
      have := congrArg String.toList hnil
      rw [toList_escape] at this
      exact hne (by simpa using (escapeChars_eq_nil root.toList).1 this)
    rw [Path.isAbsolute_join_of_ne hescape hrel, isAbsolute_escape_eq, splitSlash_join hescape hrel,
      toList_escape, pieces_escapeChars]
    exact ⟨hroot, rfl⟩

/-- What is read of an entry below a relative root. -/
theorem Selector.eq_of_read_relative {root entry : String} (hroot : Path.isAbsolute root = false)
    (hrel : Path.isAbsolute entry = false)
    (hlast : (FileSet.rootedPattern root entry).toList.getLast? ≠ some '/') {s : Selector}
    (h : Selector.read (FileSet.rootedPattern root entry) = .ok s) :
    ∃ comps, comps ≠ [] ∧ s = ⟨".", (pieces root.toList).map (·.map literalToken) ++ comps, false⟩ := by
  obtain ⟨habs, hsplit⟩ := splitSlash_rooted_relative hroot hrel
  generalize FileSet.rootedPattern root entry = pattern at h hlast habs hsplit
  rw [Selector.read, FileTree.bind_eq_ok] at h
  obtain ⟨-, -, h⟩ := h
  simp only [habs, Bool.false_eq_true, if_false] at h
  rw [FileTree.bind_eq_ok] at h
  obtain ⟨comps, hcomps, h⟩ := h
  cases h
  have honly : (pattern.toList.getLast? == some '/') = false := by simpa using hlast
  rw [honly]
  by_cases hnil : pattern.toList = []
  · -- An empty pattern is one component that is empty.
    have hempty : Path.splitSlash pattern.toList = [[]] := by rw [hnil]; rfl
    have hpieces : pieces root.toList = [] := by
      have hlength := congrArg List.length (hempty.symm.trans hsplit)
      have := List.length_pos_iff.2 (Path.splitSlash_ne_nil entry.toList)
      rw [List.length_append, List.length_map, List.length_singleton] at hlength
      exact List.length_eq_zero_iff.1 (by omega)
    have hcomps' : comps = [] := by
      rw [hnil] at hcomps
      cases hcomps
      rfl
    exact ⟨[[]], by simp, by simp [hnil, hpieces, hcomps']⟩
  · rw [pieces_of_no_slash hnil hlast, hsplit, readComponents_append, readComponents_escaped] at hcomps
    cases hmore : readComponents (Path.splitSlash entry.toList) with
    | error fault =>
      rw [hmore] at hcomps
      cases hcomps
    | ok more =>
      rw [hmore] at hcomps
      cases hcomps
      have hempty : pattern.toList.isEmpty = false := by simpa using hnil
      exact ⟨more, ne_nil_of_readComponents (Path.splitSlash_ne_nil _) hmore, by rw [hempty]; rfl⟩

end Glob.Include

namespace FileSet

/-- What holds of the text of a root, and goes over from paths to those one part further, holds of
every file that an entry leads to, which is one part further itself. -/
theorem oneFurther_of_mem_leadsTo {t : FileTree} (wf : t.WellFormed) {kind : String → Prop}
    (hkind : GoesOn kind) {root entry : String} (hroot : kind (rootText root))
    (hrel : Path.isAbsolute entry = false) {x : String} (hx : x ∈ leadsTo t root entry)
    (hfile : t.isFile x = true) : OneFurther kind x := by
  cases hread : Selector.read (rootedPattern root entry) with
  | error fault =>
    delta leadsTo at hx
    rw [hread] at hx
    cases hx
  | ok s =>
    rw [leadsTo_eq hread] at hx
    obtain ⟨hslash, hdirs⟩ := Selector.of_read hread
    by_cases hlast : (rootedPattern root entry).toList.getLast? = some '/'
    · -- Only directories are asked for.
      have hdir := Selector.isDir_of_mem_expand wf hslash (.inl (hdirs hlast)) hx
      rw [not_isFile_of_isDir hdir] at hfile
      cases hfile
    · obtain ⟨comps, hne, rfl⟩ : ∃ comps, comps ≠ [] ∧ s = ⟨rootStart root,
          ((rootParts root).map fun part => part.toList.map literalToken) ++ comps, false⟩ := by
        unfold rootStart rootParts
        cases habs : Path.isAbsolute root with
        | true =>
          obtain ⟨comps, hne, -, rfl⟩ := Selector.eq_of_read_rooted habs hrel hlast hread
          exact ⟨comps, hne, by simp [Function.comp_def]⟩
        | false =>
          obtain ⟨comps, hne, rfl⟩ := Selector.eq_of_read_relative habs hrel hlast hread
          exact ⟨comps, hne, by simp [Function.comp_def]⟩
      have hparts : List.Forall₂ StandsFor ((rootParts root).map fun part => part.toList.map literalToken)
          (rootParts root) := by
        induction rootParts root with
        | nil => exact .nil
        | cons part parts ih => exact .cons (.escaped part) ih
      change x ∈ pathsFrom t _ _ _ at hx
      obtain ⟨fuel, hx⟩ := pathsFrom_inDir_all wf hparts hne hx
      exact (ends_from wf hkind (List.forall_mem_append.1 hslash).2 hroot x hx).1

end FileSet

end BuildGate
