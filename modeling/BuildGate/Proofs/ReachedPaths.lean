import BuildGate.Proofs.ComponentPaths
import BuildGate.Proofs.Wildcards

/-!
# Where components lead

Whatever the components of a pattern are, the paths they lead to from a directory are made of that
directory and parts behind it, one at least, and all of them are directories if only these are asked
for or if `**` comes last. Which parts these are is left open: they may be empty, `.` or `..`. So
whatever holds of the directory, and goes over from a path to the paths one part further, holds of
everything that the components lead to.

**Results.**
* `mem_visit_some`: what one step of an expansion does.
* `ends_visit`, `ends_from`: what all of it leads to is one part behind a path of the same kind.
* `goesOn_partsBehind`: the paths that are made of an absolute one and parts behind it.
* `Selector.isDir_of_mem_expand`: where that is directories only.
* `Selector.eq_of_read_rooted`: what is read of an entry below a root.
-/
namespace BuildGate

open FileTree

namespace Glob.Include

variable {t : FileTree} {onlyDirs : Bool} {fuel : Nat} {comps : List (List Include)} {p : Place}

theorem lastRecursive_suffix (comps : List (List Include)) : lastRecursive comps <:+ comps := by
  fun_induction lastRecursive comps with
  | case1 a b more _ ih => exact ih.trans (List.suffix_cons a _)
  | case2 | case3 => exact List.suffix_refl _

/-- Behind the last of the `**` that stand first comes another component. -/
theorem lastRecursive_next (comps : List (List Include)) :
    ((lastRecursive comps).drop 1).head?.any isRecursive = false := by
  fun_induction lastRecursive comps with
  | case1 a b more _ ih => exact ih
  | case2 a b more hb => simpa using hb
  | case3 cs h =>
    match cs with
    | [] => rfl
    | [a] => rfl
    | a :: b :: more => exact absurd rfl (h a b more)

theorem getLast?_of_suffix {α : Type} {xs ys : List α} (h : xs <:+ ys) (hne : xs ≠ []) :
    xs.getLast? = ys.getLast? := by
  obtain ⟨front, rfl⟩ := h
  rw [List.getLast?_append, List.getLast?_eq_some_getLast hne, Option.some_or]

/-- A place that is visited with a component but `**` first is where the pattern ends, or leads on. -/
theorem mem_visit_word {x : String} (hword : comps.head?.any isRecursive = false)
    (h : x ∈ visit t onlyDirs (fuel + 1) (p, some comps)) :
    (x = p.path ∧ (onlyDirs = true ∨ comps.getLast? = some [.recursive] → p.isDir = true)) ∨
      ∃ more, more <:+ comps ∧ x ∈ (below t more p).flatMap (visit t onlyDirs fuel) := by
  unfold visit at h
  simp only [hword, Bool.false_eq_true, if_false] at h
  cases comps with
  | nil => cases h
  | cons ts more =>
    simp only at h
    split at h
    · cases h
    next name hname =>
      split at h
      · split at h
        next hmore =>
          obtain rfl : more = [] := List.isEmpty_iff.1 hmore
          split at h
          · cases h
          next hdirs =>
            refine .inl ⟨List.mem_singleton.1 h, fun hor => ?_⟩
            rcases hor with honly | hlast
            · simpa [honly] using hdirs
            · cases hlast
              cases hword
        · exact .inr ⟨more, List.suffix_cons ts more, h⟩
      · cases h

/-- So is one that is visited with `**` first, which also leads on from itself. -/
theorem mem_visit_some {x : String} (h : x ∈ visit t onlyDirs (fuel + 1) (p, some comps)) :
    (x = p.path ∧ (onlyDirs = true ∨ comps.getLast? = some [.recursive] → p.isDir = true)) ∨
      ∃ more, more <:+ comps ∧ x ∈ (below t more p).flatMap (visit t onlyDirs fuel) := by
  by_cases hrec : comps.head?.any isRecursive = true
  · have hnext := lastRecursive_next comps
    have hsuffix := lastRecursive_suffix comps
    have hmore : (lastRecursive comps).drop 1 <:+ comps :=
      (List.drop_suffix 1 _).trans hsuffix
    have hown : x ∈ visit t onlyDirs (fuel + 1) (p, some ((lastRecursive comps).drop 1)) →
        (x = p.path ∧ (onlyDirs = true ∨ comps.getLast? = some [.recursive] → p.isDir = true)) ∨
          ∃ more, more <:+ comps ∧ x ∈ (below t more p).flatMap (visit t onlyDirs fuel) := by
      intro hx
      rcases mem_visit_word hnext hx with ⟨rfl, hdir⟩ | ⟨more, hm, hx⟩
      · refine .inl ⟨rfl, fun hor => hdir (hor.imp_right fun hlast => ?_)⟩
        rw [getLast?_of_suffix hmore fun hnil => ?_]
        · exact hlast
        · rw [hnil] at hx
          cases hx
      · exact .inr ⟨more, hm.trans hmore, hx⟩
    unfold visit at h hown
    simp only [hrec, hnext, Bool.false_eq_true, if_true, if_false] at h hown
    split at h
    next hdir =>
      split at h
      next hlast =>
        rcases List.mem_cons.1 h with rfl | h
        · exact .inl ⟨rfl, fun _ => hdir⟩
        · exact .inr ⟨_, hsuffix, h⟩
      next hlast =>
        rcases List.mem_append.1 h with h | h
        · exact hown h
        · exact .inr ⟨_, hsuffix, h⟩
    next hdir => exact hown h
  · exact mem_visit_word (by simpa using hrec) h

/-- None of `comps` holds a slash. -/
def NoSlash (comps : List (List Include)) : Prop := ∀ ts ∈ comps, .char '/' ∉ ts

theorem no_slash_of_literal? {ts : List Include} {cs : List Char} (h : literal? ts = some cs)
    (hts : .char '/' ∉ ts) : '/' ∉ cs := by
  rw [literal?_eq_some h] at hts
  exact fun hmem => hts (List.mem_map_of_mem hmem)

/-! ## One part further -/

/-- `x` is a path of the `kind` with one part behind it. -/
def OneFurther (kind : String → Prop) (x : String) : Prop :=
  ∃ dir seg, kind dir ∧ '/' ∉ seg.toList ∧ (x = Path.join dir seg ∨ x = inDir dir seg)

/-- Parts behind a path of the `kind` make a path of the `kind`. -/
def GoesOn (kind : String → Prop) : Prop := ∀ x, OneFurther kind x → kind x

/-- The path of `p` is of the `kind`. -/
structure Reached (t : FileTree) (kind : String → Prop) (p : Place) : Prop where
  path : kind p.path
  isDir : p.isDir = t.isDir p.path

/-- `x` is one part behind a path of the `kind`, and a directory if `dirs` asks for one. -/
def EndsFurther (t : FileTree) (kind : String → Prop) (dirs : Prop) (x : String) : Prop :=
  OneFurther kind x ∧ (dirs → t.isDir x = true)

section
variable (wf : t.WellFormed) {kind : String → Prop} (hkind : GoesOn kind)
include wf hkind

/-- A place leads to places one part further, and is known to match only where the last component has
been looked up. -/
theorem reached_below (h : NoSlash comps) (hp : Reached t kind p) :
    ∀ q ∈ below t comps p, Reached t (OneFurther kind) q.1 ∧
      (q.2 = none ∧ comps.getLast? ≠ some [.recursive] ∨
        ∃ more, q.2 = some more ∧ more <:+ comps ∧ more ≠ []) := by
  induction comps generalizing p with
  | nil => exact fun q hq => by cases hq
  | cons ts more ih =>
    intro q hq
    obtain ⟨hts, hmore⟩ := List.forall_mem_cons.1 h
    have hlead : ∀ path : String, OneFurther kind path → ts ≠ [.recursive] → q ∈ leadOn t more path →
        Reached t (OneFurther kind) q.1 ∧ (q.2 = none ∧ (ts :: more).getLast? ≠ some [.recursive] ∨
          ∃ cs, q.2 = some cs ∧ cs <:+ ts :: more ∧ cs ≠ []) := by
      intro path hpath hword hq
      unfold leadOn at hq
      split at hq
      next hnil =>
        rw [List.isEmpty_iff.1 hnil, List.mem_singleton.1 hq]
        exact ⟨⟨hpath, rfl⟩, .inl ⟨rfl, fun hlast => hword (Option.some_inj.1 hlast)⟩⟩
      next hne =>
        obtain ⟨hreached, hrest⟩ := ih hmore ⟨hkind _ hpath, rfl⟩ q hq
        refine ⟨hreached, hrest.imp (fun ⟨hnone, hlast⟩ => ⟨hnone, ?_⟩) fun ⟨cs, hsome, hcs, hne⟩ =>
          ⟨cs, hsome, hcs.trans (List.suffix_cons ts more), hne⟩⟩
        rwa [List.getLast?_cons_of_ne_nil (by simpa using hne)]
    cases hl : literal? ts with
    | some cs =>
      rw [below_literal hl] at hq
      split at hq
      · refine hlead _ ⟨p.path, String.ofList cs, hp.path, ?_, .inr rfl⟩ ?_ hq
        · rw [String.toList_ofList]
          exact no_slash_of_literal? hl hts
        · rintro rfl
          cases hl
      · cases hq
    | none =>
      rw [below_wild hl] at hq
      split at hq
      · rcases List.mem_append.1 hq with hq | hq
        · obtain ⟨name, hname, hq⟩ := List.mem_flatMap.1 hq
          unfold specialsOf at hname
          split at hname
          next hdot =>
            refine hlead _ ⟨p.path, name, hp.path, ?_, .inl rfl⟩ ?_ hq
            · rcases List.mem_cons.1 (List.mem_filter.1 hname).1 with rfl | hname
              · decide
              · rw [List.mem_singleton.1 hname]
                decide
            · rintro rfl
              cases hdot
          · cases hname
        · obtain ⟨name, hname, rfl⟩ := List.mem_map.1 hq
          have hslash := (isName_of_mem_namesIn wf hname).no_slash
          exact ⟨⟨⟨p.path, name, hp.path, hslash, .inr rfl⟩, rfl⟩,
            .inr ⟨_, rfl, List.suffix_refl _, List.cons_ne_nil _ _⟩⟩
      · cases hq

/-- So what places lead to ends as what a place leads to them. -/
theorem ends_flatMap (visited : ∀ q : Pending, Reached t (OneFurther kind) q.1 →
      (∀ cs ∈ q.2, NoSlash cs) → ∀ x ∈ visit t onlyDirs fuel q,
        EndsFurther t kind (onlyDirs = true ∨ ∃ cs ∈ q.2, cs.getLast? = some [.recursive]) x)
    (h : NoSlash comps) (hp : Reached t kind p) :
    ∀ x ∈ (below t comps p).flatMap (visit t onlyDirs fuel),
      EndsFurther t kind (onlyDirs = true ∨ comps.getLast? = some [.recursive]) x := by
  intro x hx
  obtain ⟨q, hq, hx⟩ := List.mem_flatMap.1 hx
  obtain ⟨hreached, hnext⟩ := reached_below wf hkind h hp q hq
  have hcomps : ∀ cs ∈ q.2, NoSlash cs := by
    intro cs hcs
    rcases hnext with ⟨hnone, -⟩ | ⟨rest, hrest, hsuffix, -⟩
    · rw [hnone] at hcs
      cases hcs
    · obtain rfl : rest = cs := Option.some_inj.1 (hrest.symm.trans hcs)
      exact fun ts hts => h ts (hsuffix.subset hts)
  obtain ⟨hfurther, hdir⟩ := visited q hreached hcomps x hx
  refine ⟨hfurther, fun hor => hdir (hor.imp_right fun hrec => ?_)⟩
  rcases hnext with ⟨-, hno⟩ | ⟨rest, hrest, hsuffix, hne⟩
  · exact absurd hrec hno
  · exact ⟨rest, hrest, by rw [getLast?_of_suffix hsuffix hne, hrec]⟩

theorem ends_visit (q : Pending) (hq : Reached t (OneFurther kind) q.1)
    (h : ∀ cs ∈ q.2, NoSlash cs) :
    ∀ x ∈ visit t onlyDirs fuel q,
      EndsFurther t kind (onlyDirs = true ∨ ∃ cs ∈ q.2, cs.getLast? = some [.recursive]) x := by
  induction fuel generalizing q with
  | zero => exact fun x hx => by cases hx
  | succ fuel ih =>
    intro x hx
    obtain ⟨p, pattern⟩ := q
    have hisDir : p.isDir = t.isDir p.path := hq.isDir
    cases pattern with
    | none =>
      rw [visit] at hx
      split at hx
      · cases hx
      next hdirs =>
        obtain rfl := List.mem_singleton.1 hx
        refine ⟨hq.path, fun hor => ?_⟩
        rcases hor with honly | ⟨cs, hno, -⟩
        · simpa [honly, hisDir] using hdirs
        · cases hno
    | some comps =>
      have hcomps : NoSlash comps := h comps rfl
      have hlast : (∃ cs ∈ some comps, cs.getLast? = some [.recursive]) →
          comps.getLast? = some [.recursive] := by
        intro hex
        obtain ⟨cs, hsome, hlast⟩ := hex
        exact Option.some_inj.1 hsome ▸ hlast
      rcases mem_visit_some hx with ⟨rfl, hdir⟩ | ⟨more, hmore, hx⟩
      · exact ⟨hq.path, fun hor => by rw [← hisDir]; exact hdir (hor.imp_right hlast)⟩
      · have hne : more ≠ [] := by
          rintro rfl
          cases hx
        obtain ⟨hfurther, hdir⟩ := ends_flatMap wf hkind ih
          (fun ts hts => hcomps ts (hmore.subset hts)) ⟨hkind _ hq.path, hisDir⟩ x hx
        rw [getLast?_of_suffix hmore hne] at hdir
        exact ⟨hfurther, fun hor => hdir (hor.imp_right hlast)⟩

/-- Where components lead to from a path of such a kind. -/
theorem ends_from (h : NoSlash comps) {base : String} (hbase : kind base) :
    ∀ x ∈ (below t comps (Place.at t base)).flatMap (visit t onlyDirs fuel),
      EndsFurther t kind (onlyDirs = true ∨ comps.getLast? = some [.recursive]) x :=
  ends_flatMap wf hkind (ends_visit wf hkind) h ⟨hbase, rfl⟩

end

/-- `x` is made of `base`, which is absolute, and parts behind it. -/
def PartsBehind (base x : String) : Prop :=
  ∃ segs, x = Path.joinAll base segs ∧ ∀ s ∈ segs, '/' ∉ s.toList

theorem goesOn_partsBehind {base : String} (habs : Path.isAbsolute base = true) :
    GoesOn (PartsBehind base) := by
  rintro x ⟨dir, seg, ⟨segs, rfl, hsegs⟩, hseg, hx⟩
  rw [inDir_absolute (Path.isAbsolute_joinAll habs segs), or_self] at hx
  refine ⟨segs ++ [seg], ?_, ?_⟩
  · rw [hx, Path.joinAll_append]
    rfl
  · rw [List.forall_mem_append, List.forall_mem_singleton]
    exact ⟨hsegs, hseg⟩

/-- Nothing but directories is led to where only these are asked for, or where `**` comes last. -/
theorem Selector.isDir_of_mem_expand (wf : t.WellFormed) {s : Selector} (h : NoSlash s.components)
    (hdirs : s.onlyDirs = true ∨ s.components.getLast? = some [.recursive]) {x : String}
    (hx : x ∈ s.expand t) : t.isDir x = true := by
  have hall : GoesOn fun _ => True := fun _ _ => trivial
  rw [Selector.expand] at hx
  exact (ends_from wf hall h trivial x hx).2 hdirs

/-! ## What is read of an entry -/

/-- Components are read of pieces between slashes. -/
theorem noSlash_of_readComponents {ps : List (List Char)} (hps : ∀ p ∈ ps, '/' ∉ p)
    (h : readComponents ps = .ok comps) : NoSlash comps := by
  induction ps generalizing comps with
  | nil =>
    cases h
    exact fun ts hts => by cases hts
  | cons p ps ih =>
    rw [List.forall_mem_cons] at hps
    rw [readComponents, FileTree.bind_eq_ok] at h
    obtain ⟨ts, hts, h⟩ := h
    obtain ⟨more, hmore, rfl⟩ := cons_eq_ok h
    refine List.forall_mem_cons.2 ⟨fun hslash => hps.1 ?_, ih hps.2 hmore⟩
    have hmem := (reads_of_read hts).mem hslash
    rwa [String.toList_ofList] at hmem

theorem ne_nil_of_readComponents {ps : List (List Char)} (hps : ps ≠ [])
    (h : readComponents ps = .ok comps) : comps ≠ [] := by
  obtain ⟨p, ps, rfl⟩ := List.exists_cons_of_ne_nil hps
  rw [readComponents, FileTree.bind_eq_ok] at h
  obtain ⟨ts, -, h⟩ := h
  obtain ⟨more, -, rfl⟩ := cons_eq_ok h
  exact List.cons_ne_nil _ _

/-- What is read of a pattern, where a slash at the end asks for directories. -/
theorem Selector.of_read {pattern : String} {s : Selector} (h : Selector.read pattern = .ok s) :
    NoSlash s.components ∧ (pattern.toList.getLast? = some '/' → s.onlyDirs = true) := by
  rw [Selector.read, FileTree.bind_eq_ok] at h
  obtain ⟨-, -, h⟩ := h
  obtain ⟨comps, hcomps, h⟩ := FileTree.bind_eq_ok.1 h
  obtain rfl := Except.ok.inj h
  have hread : NoSlash comps := noSlash_of_readComponents
    (fun p hp => Path.no_slash_of_mem_splitSlash (pieces_subset hp)) hcomps
  refine ⟨fun ts hts => ?_, fun hlast => beq_iff_eq.2 hlast⟩
  dsimp only at hts
  generalize (if Path.isAbsolute pattern = true then _ else pattern.toList).isEmpty = empty at hts
  cases empty with
  | false => exact hread ts hts
  | true =>
    rcases List.mem_append.1 hts with hts | hts
    · exact hread ts hts
    · rw [List.mem_singleton.1 hts]
      simp

/-- What is read of a relative entry that does not ask for directories. -/
theorem Selector.eq_of_read_rooted {root entry : String} (habs : Path.isAbsolute root = true)
    (hrel : Path.isAbsolute entry = false)
    (hlast : (FileSet.rootedPattern root entry).toList.getLast? ≠ some '/') {s : Selector}
    (h : Selector.read (FileSet.rootedPattern root entry) = .ok s) :
    ∃ comps, comps ≠ [] ∧ readComponents (Path.splitSlash entry.toList) = .ok comps ∧
      s = ⟨"/", (rootPieces root).map (·.map literalToken) ++ comps, false⟩ := by
  obtain ⟨hne, hend⟩ := not_or.1 (mt (getLast?_rootedPattern habs hrel).2 hlast)
  rw [Selector.read_rooted habs hrel hne hend] at h
  obtain ⟨_, -, h⟩ := FileTree.bind_eq_ok.1 h
  cases hcomps : readComponents (Path.splitSlash entry.toList) with
  | error fault =>
    rw [hcomps] at h
    cases h
  | ok comps =>
    rw [hcomps] at h
    cases h
    exact ⟨comps, ne_nil_of_readComponents (Path.splitSlash_ne_nil _) hcomps, rfl, rfl⟩

end Glob.Include

end BuildGate
