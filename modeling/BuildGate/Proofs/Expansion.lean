import BuildGate.Proofs.LinkFree
import BuildGate.Proofs.LiteralPatterns

/-!
# Expanding a pattern step by step

From a place a pattern leads to the places its first component matches, and from each of them the
other components lead further. A component that stands for one text leads to one place at most,
whether it is looked up or found among the names of a directory. Behind `**` a component is tried at
every place below.

**Results.**
* `mem_children`: the names in a directory.
* `pathsFrom_literal`, `mem_pathsFrom_wild`: what the first component does.
* `pathsFrom_names`, `mem_pathsFrom_name`: where it leads on from the names it matches.
* `pathsFrom_standsFor`, `mem_pathsFrom_standsFor`: where it stands for one text.
* `mem_pathsFrom_recursive`: where it is `**`.
-/
namespace BuildGate

namespace FileTree

theorem isDir_iff {t : FileTree} {path : String} :
    t.isDir path = true ↔ ∃ loc, t.resolve path = .ok loc ∧ t.get? loc = some .dir := by
  unfold isDir find
  cases hr : t.resolve path with
  | error cause => simp [bind, Except.bind]
  | ok loc =>
    cases hg : t.get? loc with
    | none => simp [bind, Except.bind, hg]
    | some e => cases e <;> simp [bind, Except.bind, hg, pure, Except.pure]

theorem isFile_iff {t : FileTree} {path : String} :
    t.isFile path = true ↔
      ∃ loc bytes, t.resolve path = .ok loc ∧ t.get? loc = some (.file bytes) := by
  unfold isFile find
  cases hr : t.resolve path with
  | error cause => simp [bind, Except.bind]
  | ok loc =>
    cases hg : t.get? loc with
    | none => simp [bind, Except.bind, hg]
    | some e => cases e <;> simp [bind, Except.bind, hg, pure, Except.pure]

theorem not_isFile_of_isDir {t : FileTree} {path : String} (h : t.isDir path = true) : t.isFile path = false := by
  rw [Bool.eq_false_iff]
  intro hfile
  obtain ⟨loc, hr, hg⟩ := isDir_iff.1 h
  obtain ⟨loc', bytes, hr', hg'⟩ := isFile_iff.1 hfile
  rw [hr] at hr'
  cases hr'
  rw [hg] at hg'
  cases hg'

theorem hasEntry_iff {t : FileTree} {path : String} :
    t.hasEntry path = true ↔ ∃ loc, t.resolveWith false path = .ok loc := by
  unfold hasEntry
  cases t.resolveWith false path <;> simp [Except.isOk, Except.toBool]

theorem get?_isSome {t : FileTree} {loc : Location} (hne : loc ≠ []) :
    (t.get? loc).isSome ↔ ∃ e ∈ t.entries, e.1 = loc := by
  simp only [get?, List.isEmpty_iff, hne, if_false, List.lookup_isSome_iff, beq_iff_eq]
  exact exists_congr fun e => and_congr_right fun _ => eq_comm

theorem mem_children {t : FileTree} {loc : Location} {name : String} :
    name ∈ t.children loc ↔ (t.get? (loc ++ [name])).isSome := by
  rw [children, List.mem_mergeSort, List.mem_filterMap, get?_isSome (by simp)]
  refine exists_congr fun e => and_congr_right fun _ => ?_
  rcases List.eq_nil_or_concat e.1 with hnil | ⟨init, n, he⟩
  · simp [hnil]
  · simp only [he, List.concat_eq_append, List.getLast?_concat, List.dropLast_concat]
    split
    · rename_i h; simp [h]
    · rename_i h; simp [h]

end FileTree

open FileTree

namespace Glob.Include

/-- What the components `cs` lead to from the place at `path`. -/
def pathsFrom (t : FileTree) (fuel : Nat) (cs : List (List Include)) (path : String) : List String :=
  (below t cs (Place.at t path)).flatMap (visit t false fuel)

variable {t : FileTree} {fuel : Nat} {ts : List Include} {more : List (List Include)} {path : String}

@[simp] theorem Place.path_at (t : FileTree) (path : String) : (Place.at t path).path = path := rfl

@[simp] theorem Place.isDir_at (t : FileTree) (path : String) :
    (Place.at t path).isDir = t.isDir path := rfl

theorem isHere_absolute (habs : Path.isAbsolute path = true) : isHere path = false := by
  rw [isHere, Path.components_absolute habs]
  rfl

/-- The path of `seg` in `dir`; the current directory is left out. -/
def inDir (dir seg : String) : String := if isHere dir then seg else Path.join dir seg

theorem inDir_absolute (habs : Path.isAbsolute path = true) (seg : String) :
    inDir path seg = Path.join path seg := by
  rw [inDir, isHere_absolute habs, if_neg (by simp)]

/-- What comes next at `path`, with the components `more` left behind it. -/
def leadOn (t : FileTree) (more : List (List Include)) (path : String) : List Pending :=
  if more.isEmpty then [(Place.at t path, none)] else below t more (Place.at t path)

/-- The names in the directory at `path`. -/
def namesIn (t : FileTree) (path : String) : List String :=
  match t.resolve path with
  | .ok loc => t.children loc
  | .error _ => []

/-- Those of `.` and `..` that `ts` match, which are tried only if `ts` begin with a dot. -/
def specialsOf (ts : List Include) : List String :=
  if ts.head? = some (.char '.') then ["..", "."].filter fun name => accepts ts name.toList else []

theorem below_literal {p : Place} {cs : List Char} (hl : literal? ts = some cs) :
    below t (ts :: more) p =
      if (String.ofList cs = "." ∨ String.ofList cs = "..") ∧ p.isDir = true ∨
          ¬ (String.ofList cs = "." ∨ String.ofList cs = "..") ∧
            t.hasEntry (inDir p.path (String.ofList cs)) = true
      then leadOn t more (inDir p.path (String.ofList cs)) else [] := by
  rw [below]
  simp only [hl]
  rfl

theorem below_wild {p : Place} (hl : literal? ts = none) :
    below t (ts :: more) p =
      if p.isDir then
        (specialsOf ts).flatMap (fun name => leadOn t more (Path.join p.path name)) ++
          (namesIn t p.path).map fun name => (Place.at t (inDir p.path name), some (ts :: more))
      else [] := by
  rw [below]
  simp only [hl]
  rfl

theorem isName_of_mem_namesIn (wf : t.WellFormed) {name : String} (h : name ∈ namesIn t path) :
    IsName name := by
  unfold namesIn at h
  split at h
  next loc _ =>
    obtain ⟨e, he⟩ := Option.isSome_iff_exists.1 (mem_children.1 h)
    exact (wf.isName he name (by simp)).1
  · cases h

/-- A component without wildcards is looked up. -/
theorem pathsFrom_literal {cs : List Char} (hl : literal? ts = some cs) (hmore : more ≠ [])
    (habs : Path.isAbsolute path = true) :
    pathsFrom t fuel (ts :: more) path =
      if (String.ofList cs = "." ∨ String.ofList cs = "..") ∧ t.isDir path = true ∨
          ¬ (String.ofList cs = "." ∨ String.ofList cs = "..") ∧
            t.hasEntry (Path.join path (String.ofList cs)) = true
      then pathsFrom t fuel more (Path.join path (String.ofList cs)) else [] := by
  have hne : more.isEmpty = false := by simpa using hmore
  rw [pathsFrom, below]
  simp only [hl, Place.path_at, Place.isDir_at, isHere_absolute habs, hne, Bool.false_eq_true,
    if_false]
  split
  · rfl
  · rfl

/-- A component with wildcards is tried on the names in the directory, and on the special ones if it
begins with a dot. -/
theorem mem_pathsFrom_wild (hl : literal? ts = none) (hmore : more ≠ [])
    (habs : Path.isAbsolute path = true) {x : String} :
    x ∈ pathsFrom t fuel (ts :: more) path ↔
      ∃ loc, t.resolve path = .ok loc ∧ t.get? loc = some .dir ∧
        ((ts.head? = some (.char '.') ∧ ∃ name ∈ ["..", "."], accepts ts name.toList = true ∧
            x ∈ pathsFrom t fuel more (Path.join path name)) ∨
          ∃ name, (t.get? (loc ++ [name])).isSome ∧
            x ∈ visit t false fuel (Place.at t (Path.join path name), some (ts :: more))) := by
  have hne : more.isEmpty = false := by simpa using hmore
  rw [pathsFrom, below]
  simp only [hl, Place.path_at, Place.isDir_at, isHere_absolute habs, hne, Bool.false_eq_true,
    if_false]
  cases hd : t.isDir path with
  | false =>
    have hno : ∀ loc, t.resolve path = .ok loc → t.get? loc ≠ some .dir := fun loc hr hg => by
      rw [isDir_iff.2 ⟨loc, hr, hg⟩] at hd
      cases hd
    simp only [Bool.false_eq_true, if_false, List.flatMap_nil, List.not_mem_nil, false_iff]
    rintro ⟨loc, hr, hg, -⟩
    exact hno loc hr hg
  | true =>
    obtain ⟨loc, hr, hg⟩ := isDir_iff.1 hd
    simp only [if_true, hr, List.flatMap_append, List.mem_append, Except.ok.injEq,
      exists_eq_left', hg, true_and]
    refine or_congr ?_ ?_
    · split
      · rename_i hdot
        simp only [hdot, true_and, List.flatMap_assoc, List.mem_flatMap, List.mem_filter, and_assoc,
          pathsFrom]
      · rename_i hdot
        simp [hdot]
    · simp only [List.mem_flatMap, List.mem_map, mem_children]
      constructor
      · rintro ⟨_, ⟨name, hname, rfl⟩, hx⟩
        exact ⟨name, hname, hx⟩
      · rintro ⟨name, hname, hx⟩
        exact ⟨_, ⟨name, hname, rfl⟩, hx⟩

/-- Where the special names do not count, only those in the directory do. -/
theorem mem_pathsFrom_names (hl : literal? ts = none)
    (hspecial : ts.head? = some (.char '.') → ∀ name ∈ ["..", "."], accepts ts name.toList = false)
    (habs : Path.isAbsolute path = true) {x : String} :
    x ∈ pathsFrom t fuel (ts :: more) path ↔
      ∃ loc name, t.resolve path = .ok loc ∧ t.get? loc = some .dir ∧
        (t.get? (loc ++ [name])).isSome ∧
        x ∈ visit t false fuel (Place.at t (Path.join path name), some (ts :: more)) := by
  have hspecials : (if ts.head? = some (.char '.') then
      ["..", "."].filter fun name => accepts ts name.toList else []) = [] := by
    split
    next hdot => exact List.filter_eq_nil_iff.2 fun name hname => by simp [hspecial hdot name hname]
    next => rfl
  rw [pathsFrom, below]
  simp only [hl, Place.path_at, Place.isDir_at, isHere_absolute habs, hspecials,
    List.flatMap_nil, List.nil_append]
  cases hd : t.isDir path with
  | false =>
    simp only [Bool.false_eq_true, if_false, List.flatMap_nil, List.not_mem_nil, false_iff]
    rintro ⟨loc, name, hr, hg, -⟩
    rw [isDir_iff.2 ⟨loc, hr, hg⟩] at hd
    cases hd
  | true =>
    obtain ⟨loc, hr, hg⟩ := isDir_iff.1 hd
    simp only [if_true, hr, Except.ok.injEq, exists_and_left, exists_eq_left', hg, true_and,
      List.mem_flatMap, List.mem_map, mem_children]
    constructor
    · rintro ⟨_, ⟨name, hname, rfl⟩, hx⟩
      exact ⟨name, hname, hx⟩
    · rintro ⟨name, hname, hx⟩
      exact ⟨_, ⟨name, hname, rfl⟩, hx⟩

/-- A name that is visited with a component that is not `**`. -/
theorem visit_name (hts : isRecursive ts = false) (habs : Path.isAbsolute path = true)
    {name : String} (hn : IsName name) :
    visit t false (fuel + 1) (Place.at t (Path.join path name), some (ts :: more)) =
      if accepts ts name.toList then
        if more = [] then [Path.join path name] else pathsFrom t fuel more (Path.join path name)
      else [] := by
  have hfile : Path.fileName? (Path.join path name) = some name := by
    rw [Path.fileName?, Path.components_join_name habs hn.toIsPart]
    simp
  unfold visit
  simp only [List.head?_cons, Option.any_some, hts, Bool.false_eq_true, if_false, Place.path_at,
    hfile, false_and, List.isEmpty_iff]
  rfl

/-- A name that is visited with `**`: the components behind it are tried on the name, and `**` goes
on in it. -/
theorem visit_recursive (hts : isRecursive ts = false) (habs : Path.isAbsolute path = true)
    {name : String} (hn : IsName name) :
    visit t false (fuel + 1) (Place.at t (Path.join path name), some ([.recursive] :: ts :: more)) =
      (if accepts ts name.toList then
        if more = [] then [Path.join path name] else pathsFrom t fuel more (Path.join path name)
      else []) ++
      if t.isDir (Path.join path name) then
        pathsFrom t fuel ([.recursive] :: ts :: more) (Path.join path name) else [] := by
  have hfile : Path.fileName? (Path.join path name) = some name := by
    rw [Path.fileName?, Path.components_join_name habs hn.toIsPart]
    simp
  have hlast : lastRecursive ([.recursive] :: ts :: more) = [.recursive] :: ts :: more := by
    simp [lastRecursive, hts]
  have hrec : isRecursive [.recursive] = true := by decide
  unfold visit
  simp only [List.head?_cons, Option.any_some, hrec, if_true, hlast, Place.path_at, Place.isDir_at,
    hfile, List.isEmpty_iff, List.drop_one, List.tail_cons, reduceCtorEq, if_false,
    Bool.false_eq_true, false_and]
  split
  · rfl
  · rw [List.append_nil]
    rfl

section
variable (wf : t.WellFormed) (hl : literal? ts = none) (hts : isRecursive ts = false)
  (hmore : more ≠ []) (habs : Path.isAbsolute path = true)
include wf hl hts hmore habs

/-- A component with wildcards leads on from the names it matches. -/
theorem pathsFrom_names
    (hspecial : ts.head? = some (.char '.') → ∀ name ∈ ["..", "."], accepts ts name.toList = false)
    {x : String} (hx : x ∈ pathsFrom t fuel (ts :: more) path) :
    ∃ name fuel', IsName name ∧ accepts ts name.toList = true ∧
      x ∈ pathsFrom t fuel' more (Path.join path name) := by
  obtain ⟨loc, name, hr, hg, hsome, hx⟩ := (mem_pathsFrom_names hl hspecial habs).1 hx
  obtain ⟨e, he⟩ := Option.isSome_iff_exists.1 hsome
  have hname : IsName name := (wf.isName he name (by simp)).1
  cases fuel with
  | zero => cases hx
  | succ fuel =>
    rw [visit_name hts habs hname, if_neg hmore] at hx
    split at hx
    · rename_i ha
      exact ⟨name, fuel, hname, ha, hx⟩
    · cases hx

/-- It leads on from each of them that is there. -/
theorem mem_pathsFrom_name {dir : Location} (hr : t.resolve path = .ok dir)
    (hg : t.get? dir = some .dir) {name : String} (hsome : (t.get? (dir ++ [name])).isSome)
    (ha : accepts ts name.toList = true) {x : String}
    (hx : x ∈ pathsFrom t fuel more (Path.join path name)) :
    x ∈ pathsFrom t (fuel + 1) (ts :: more) path := by
  obtain ⟨e, he⟩ := Option.isSome_iff_exists.1 hsome
  refine (mem_pathsFrom_wild hl hmore habs).2 ⟨dir, hr, hg, .inr ⟨name, hsome, ?_⟩⟩
  rw [visit_name hts habs (wf.isName he name (by simp)).1, if_pos ha, if_neg hmore]
  exact hx

end

/-! ## Components that stand for one text -/

/-- The tokens stand for one text, which is written as it is or escaped. -/
inductive StandsFor : List Include → String → Prop where
  | plain (s : String) : StandsFor (s.toList.map .char) s
  | escaped (s : String) : StandsFor (s.toList.map literalToken) s

/-- The tokens `ts` stand for `seg`, which is not looked up but found by its name. -/
structure FoundByName (ts : List Include) (seg : String) : Prop where
  wild : literal? ts = none
  accepts_iff (name : String) : accepts ts name.toList = true ↔ name = seg
  not_recursive : isRecursive ts = false
  ne_empty : seg ≠ ""
  ne_here : seg ≠ "."
  ne_up : seg ≠ ".."

theorem FoundByName.special {seg : String} (h : FoundByName ts seg) :
    ts.head? = some (.char '.') → ∀ name ∈ ["..", "."], accepts ts name.toList = false := by
  intro _ name hname
  rw [Bool.eq_false_iff]
  intro ha
  obtain rfl := (h.accepts_iff name).1 ha
  rcases List.mem_cons.1 hname with hup | hhere
  · exact h.ne_up hup
  · exact h.ne_here (List.mem_singleton.1 hhere)

/-- An escaped operator is what keeps a text from being looked up, and the special names have none. -/
theorem StandsFor.cases {seg : String} (h : StandsFor ts seg) :
    literal? ts = some seg.toList ∨ FoundByName ts seg := by
  cases h with
  | plain => exact .inl (literal?_chars _)
  | escaped =>
    rcases literal?_literalTokens seg.toList with heq | hnone
    · exact .inl (by rw [heq, literal?_chars])
    · refine .inr ⟨hnone, fun name => ?_, ?_, ?_, ?_, ?_⟩
      · rw [accepts_literalTokens, String.toList_inj]
      · rw [isRecursive, beq_eq_false_iff_ne]
        intro hrec
        have hmem : Include.recursive ∈ seg.toList.map literalToken := by simp [hrec]
        obtain ⟨c, -, hc⟩ := List.mem_map.1 hmem
        exact literalToken_ne_recursive c hc
      · rintro rfl; exact absurd hnone (by decide)
      · rintro rfl; exact absurd hnone (by decide)
      · rintro rfl; exact absurd hnone (by decide)

section
variable (wf : t.WellFormed) {seg : String}
include wf

/-- Such a component leads to no other place than the one of its text. -/
theorem pathsFrom_inDir (hs : StandsFor ts seg) (hmore : more ≠ []) {x : String}
    (hx : x ∈ pathsFrom t fuel (ts :: more) path) :
    ∃ fuel', x ∈ pathsFrom t fuel' more (inDir path seg) := by
  have hlead : leadOn t more (inDir path seg) = below t more (Place.at t (inDir path seg)) := by
    rw [leadOn, if_neg (by simpa using hmore)]
  rw [pathsFrom] at hx
  rcases hs.cases with hl | hf
  · rw [below_literal hl, String.ofList_toList, Place.path_at, hlead] at hx
    split at hx
    · exact ⟨fuel, hx⟩
    · cases hx
  · have hspecials : specialsOf ts = [] := by
      unfold specialsOf
      split
      next hdot => exact List.filter_eq_nil_iff.2 fun name hname => by simp [hf.special hdot name hname]
      next => rfl
    rw [below_wild hf.wild, hspecials, List.flatMap_nil, List.nil_append, Place.path_at] at hx
    split at hx
    · obtain ⟨q, hq, hx⟩ := List.mem_flatMap.1 hx
      obtain ⟨name, hname, rfl⟩ := List.mem_map.1 hq
      have hisName := isName_of_mem_namesIn wf hname
      have hfile : Path.fileName? (inDir path name) = some name := by
        unfold inDir
        split
        · rw [Path.fileName?, Path.components_part hisName.toIsPart]
          rfl
        · exact Path.fileName?_join hisName.toIsPart path
      cases fuel with
      | zero => cases hx
      | succ fuel =>
        rw [visit] at hx
        simp only [List.head?_cons, Option.any_some, hf.not_recursive, Bool.false_eq_true, if_false,
          Place.path_at, hfile, List.isEmpty_iff, hmore] at hx
        split at hx
        next ha =>
          obtain rfl := (hf.accepts_iff name).1 ha
          exact ⟨fuel, hx⟩
        next => cases hx
    · cases hx

/-- Components that stand for the parts of a path lead to it part by part. -/
theorem pathsFrom_inDir_all {tss : List (List Include)} {segs : List String}
    (hs : List.Forall₂ StandsFor tss segs) (hmore : more ≠ []) {x : String}
    (hx : x ∈ pathsFrom t fuel (tss ++ more) path) :
    ∃ fuel', x ∈ pathsFrom t fuel' more (segs.foldl inDir path) := by
  induction hs generalizing path fuel with
  | nil => exact ⟨fuel, hx⟩
  | @cons ts seg tss segs h hs ih =>
    obtain ⟨fuel', hx⟩ := pathsFrom_inDir wf h (by simp [hmore]) hx
    exact ih hx

theorem pathsFrom_standsFor (hs : StandsFor ts seg) (hmore : more ≠ [])
    (habs : Path.isAbsolute path = true) {x : String} (hx : x ∈ pathsFrom t fuel (ts :: more) path) :
    ∃ fuel', x ∈ pathsFrom t fuel' more (Path.join path seg) := by
  rw [← inDir_absolute habs]
  exact pathsFrom_inDir wf hs hmore hx

/-- If something is there, it leads to it. -/
theorem mem_pathsFrom_standsFor (lf : t.LinkFree) (hs : StandsFor ts seg) (hmore : more ≠ [])
    (habs : Path.isAbsolute path = true) (hseg : '/' ∉ seg.toList) {loc : Location}
    (hr : t.resolve (Path.join path seg) = .ok loc) :
    ∃ k ≤ 1, ∀ fuel, ∀ x ∈ pathsFrom t fuel more (Path.join path seg),
      x ∈ pathsFrom t (fuel + k) (ts :: more) path := by
  obtain ⟨⟨dir, hdir, hstep⟩, hrest⟩ := (resolve_join lf habs hseg).1 hr
  have hisDir : t.isDir path = true := isDir_iff.2 ⟨dir, hdir, stepTo_dir hstep⟩
  have hasEntry : t.hasEntry (Path.join path seg) = true :=
    hasEntry_iff.2 ⟨loc, (resolve_join lf habs hseg).2 ⟨⟨dir, hdir, hstep⟩, hrest⟩⟩
  rcases hs.cases with hl | hf
  · refine ⟨0, Nat.zero_le _, fun fuel x hx => ?_⟩
    rw [pathsFrom_literal hl hmore habs, String.ofList_toList, if_pos]
    · exact hx
    · by_cases h : seg = "." ∨ seg = ".."
      · exact .inl ⟨h, hisDir⟩
      · exact .inr ⟨h, hasEntry⟩
  · refine ⟨1, Nat.le_refl _, fun fuel x hx => ?_⟩
    have hdown : stepFor seg = .down seg := by
      simp [stepFor, stepOf, hf.ne_empty, hf.ne_here, hf.ne_up]
    rw [hdown] at hstep
    obtain ⟨hg, -, hsome, -⟩ := stepTo_down.1 hstep
    exact mem_pathsFrom_name wf hf.wild hf.not_recursive hmore habs hdir hg hsome
      ((hf.accepts_iff seg).2 rfl) hx

/-- Components that stand for the parts of a path lead to that path. -/
theorem pathsFrom_standsFor_all {tss : List (List Include)} {segs : List String}
    (hs : List.Forall₂ StandsFor tss segs) (hmore : more ≠ []) (habs : Path.isAbsolute path = true)
    {x : String} (hx : x ∈ pathsFrom t fuel (tss ++ more) path) :
    ∃ fuel', x ∈ pathsFrom t fuel' more (Path.joinAll path segs) := by
  induction hs generalizing path fuel with
  | nil => exact ⟨fuel, hx⟩
  | @cons ts seg tss segs h hs ih =>
    obtain ⟨fuel', hx⟩ := pathsFrom_standsFor wf h (by simp [hmore]) habs hx
    exact ih (Path.isAbsolute_join habs seg) hx

theorem mem_pathsFrom_standsFor_all (lf : t.LinkFree) {tss : List (List Include)}
    {segs : List String} (hs : List.Forall₂ StandsFor tss segs) (hmore : more ≠ [])
    (habs : Path.isAbsolute path = true) (hsegs : ∀ s ∈ segs, '/' ∉ s.toList) {loc : Location}
    (hr : t.resolve (Path.joinAll path segs) = .ok loc) :
    ∃ k ≤ segs.length, ∀ fuel, ∀ x ∈ pathsFrom t fuel more (Path.joinAll path segs),
      x ∈ pathsFrom t (fuel + k) (tss ++ more) path := by
  induction hs generalizing path with
  | nil => exact ⟨0, Nat.le_refl _, fun fuel x hx => hx⟩
  | @cons ts seg tss segs h hs ih =>
    have hrest : ∀ s ∈ segs, '/' ∉ s.toList := fun s hm => hsegs s (List.mem_cons_of_mem _ hm)
    have habs' := Path.isAbsolute_join habs seg
    obtain ⟨k, hk, hall⟩ := ih habs' hrest hr
    obtain ⟨dir, hdir, -⟩ := resolve_of_joinAll lf habs' hrest hr
    have hne : tss ++ more ≠ [] := by simp [hmore]
    obtain ⟨k', hk', hone⟩ := mem_pathsFrom_standsFor wf lf h hne habs
      (hsegs seg List.mem_cons_self) hdir
    refine ⟨k + k', by rw [List.length_cons]; omega, fun fuel x hx => ?_⟩
    rw [← Nat.add_assoc]
    exact hone _ x (hall fuel x hx)

/-! ## Any number of directories -/

/-- `**` and a last component lead to the entries at any depth whose names the component matches. -/
theorem pathsFrom_recursive (hts : isRecursive ts = false) (habs : Path.isAbsolute path = true)
    {x : String} (hx : x ∈ pathsFrom t fuel [[.recursive], ts] path) :
    ∃ names n, x = Path.joinAll path (names ++ [n]) ∧ (∀ m ∈ names, IsName m) ∧ IsName n ∧
      accepts ts n.toList = true := by
  induction fuel generalizing path with
  | zero =>
    obtain ⟨_, _, _, _, _, hx⟩ := (mem_pathsFrom_names (by rfl) (by simp) habs).1 hx
    cases hx
  | succ fuel ih =>
    obtain ⟨loc, name, -, -, hsome, hx⟩ :=
      (mem_pathsFrom_names (by rfl) (by simp) habs).1 hx
    obtain ⟨e, he⟩ := Option.isSome_iff_exists.1 hsome
    have hname : IsName name := (wf.isName he name (by simp)).1
    rw [visit_recursive hts habs hname, List.mem_append] at hx
    rcases hx with hx | hx
    · split at hx
      · rename_i ha
        exact ⟨[], name, by simpa using hx, by simp, hname, ha⟩
      · cases hx
    · split at hx
      · obtain ⟨names, n, rfl, hnames, hn, ha⟩ := ih (Path.isAbsolute_join habs name) hx
        exact ⟨name :: names, n, rfl, List.forall_mem_cons.2 ⟨hname, hnames⟩, hn, ha⟩
      · cases hx

theorem mem_pathsFrom_recursive (lf : t.LinkFree) (hts : isRecursive ts = false)
    (habs : Path.isAbsolute path = true) {names : List String} {n : String}
    (hnames : ∀ m ∈ names, IsName m) (hn : IsName n) (ha : accepts ts n.toList = true)
    {loc : Location} (hr : t.resolve (Path.joinAll path (names ++ [n])) = .ok loc)
    (hfuel : names.length < fuel) :
    Path.joinAll path (names ++ [n]) ∈ pathsFrom t fuel [[.recursive], ts] path := by
  induction names generalizing path fuel with
  | nil =>
    obtain ⟨fuel, rfl⟩ := Nat.exists_eq_add_of_lt hfuel
    obtain ⟨dir, hdir, hg, hsome, -⟩ := (resolve_join_name lf wf habs hn).1 hr
    refine (mem_pathsFrom_names (by rfl) (by simp) habs).2 ⟨dir, n, hdir, hg, hsome, ?_⟩
    rw [visit_recursive hts habs hn, if_pos ha]
    simp
  | cons m names ih =>
    obtain ⟨fuel, rfl⟩ := Nat.exists_eq_add_of_lt hfuel
    have hm := hnames m List.mem_cons_self
    have hrest : ∀ m ∈ names, IsName m := fun m h => hnames m (List.mem_cons_of_mem _ h)
    have hsegs : ∀ s ∈ names ++ [n], '/' ∉ s.toList := by
      rw [List.forall_mem_append, List.forall_mem_singleton]
      exact ⟨fun s hs => (hrest s hs).no_slash, hn.no_slash⟩
    have habs' := Path.isAbsolute_join habs m
    obtain ⟨loc', hloc', hdir'⟩ := resolve_of_joinAll lf habs' hsegs hr
    obtain ⟨dir, hdir, hg, hsome, -⟩ := (resolve_join_name lf wf habs hm).1 hloc'
    refine (mem_pathsFrom_names (by rfl) (by simp) habs).2 ⟨dir, m, hdir, hg, hsome, ?_⟩
    rw [visit_recursive hts habs hm, List.mem_append,
      if_pos (isDir_iff.2 ⟨_, hloc', hdir' (by simp)⟩)]
    refine .inr (ih habs' hrest hr ?_)
    simp only [List.length_cons] at hfuel ⊢
    omega

end

end Glob.Include

end BuildGate
