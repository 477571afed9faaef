import BuildGate.Proofs.BoundedWalk
import BuildGate.Proofs.CompiledSets
import BuildGate.Proofs.RelativePaths
import BuildGate.Proofs.SpelledPaths
import Mathlib.Data.List.Pairwise

/-!
# The files of a set

Between the patterns of a set and its files stands one list: what each selecting entry leads to, in
order, without what any other entry takes away. The files are that list with the first of the texts
that name one path. So an entry that takes files away may stand anywhere, and one more of them takes
its files out of the list of files, unless it takes away one text of a path and leaves another, which
then moves up.

Reading a set fails in two ways: with the first entry that cannot be read, and with all entries that
take files away when each can be read and they do not compile as one set.

**Results.**
* `distinctPaths_eq`: the first of each path are what `distinctPaths` keeps of a list.
* `firsts_filter`: when taking away before and after that come to the same.
* `read_eq_error`, `read_eq_error_together`, `read_eq_ok`: reading a set.
* `expand_eq_error`, `expand_eq_ok`: expanding it.
* `files_chosen`: all of it for a list of entries.
* `files_moved_up`: a file that moves up.
-/
namespace BuildGate

namespace Path

theorem same_refl (a : String) : same a a = true := beq_self_eq_true _

theorem same_comm (a b : String) : same a b = same b a := by
  rw [Bool.eq_iff_iff, same, same, beq_iff_eq, beq_iff_eq, eq_comm]

theorem same_congr {a b : String} (h : same a b = true) (c : String) : same a c = same b c := by
  rw [same, same, show components a = components b from beq_iff_eq.1 h]

end Path

/-! ## The first of each path -/

/-- The paths of a list without those that are `Path.same` as an earlier one. -/
def firsts (paths : List String) : List String := paths.eraseDupsBy Path.same

theorem firsts_cons (p : String) (paths : List String) :
    firsts (p :: paths) = p :: firsts (paths.filter fun q => !Path.same q p) := by
  rw [firsts, firsts, List.eraseDupsBy_cons]
  simp

/-- An induction over what is left when each path has been taken with its other texts. -/
theorem firsts_induction {motive : List String → Prop} (nil : motive [])
    (cons : ∀ p paths, motive (paths.filter fun q => !Path.same q p) → motive (p :: paths)) :
    ∀ paths, motive paths
  | [] => nil
  | p :: paths => cons p paths (firsts_induction nil cons _)
termination_by paths => paths.length
decreasing_by exact Nat.lt_succ_of_le (List.length_filter_le _ _)

theorem firsts_sublist (paths : List String) : (firsts paths).Sublist paths := by
  induction paths using firsts_induction with
  | nil => exact .slnil
  | cons p paths ih =>
    rw [firsts_cons]
    exact (ih.trans List.filter_sublist).cons_cons p

theorem firsts_pairwise (paths : List String) :
    (firsts paths).Pairwise fun a b => Path.same a b = false := by
  induction paths using firsts_induction with
  | nil => exact .nil
  | cons p paths ih =>
    rw [firsts_cons]
    refine .cons (fun q hq => ?_) ih
    have := (List.mem_filter.1 ((firsts_sublist _).subset hq)).2
    rw [Path.same_comm]
    simpa using this

theorem exists_firsts {paths : List String} {p : String} (h : p ∈ paths) :
    ∃ q ∈ firsts paths, Path.same q p = true := by
  induction paths using firsts_induction with
  | nil => cases h
  | cons a paths ih =>
    rw [firsts_cons]
    by_cases hp : Path.same p a = true
    · exact ⟨a, List.mem_cons_self, by rwa [Path.same_comm]⟩
    · have hmem : p ∈ paths := by
        rcases List.mem_cons.1 h with rfl | h
        · exact absurd (Path.same_refl p) hp
        · exact h
      obtain ⟨q, hq, hsame⟩ := ih (List.mem_filter.2 ⟨hmem, by simpa using hp⟩)
      exact ⟨q, List.mem_cons_of_mem _ hq, hsame⟩

theorem eq_of_same_of_mem_firsts {paths : List String} {a b : String} (ha : a ∈ firsts paths)
    (hb : b ∈ firsts paths) (h : Path.same a b = true) : a = b := by
  by_contra hne
  have : Std.Symm fun x y => Path.same x y = false := ⟨fun x y hxy => by rwa [Path.same_comm] at hxy⟩
  have hdiffer := (firsts_pairwise paths).forall ha hb hne
  rw [h] at hdiffer
  cases hdiffer

section
variable {keep : String → Bool} {paths : List String}

/-- Taking paths away first or last is the same where no text of a path that is taken away is left. -/
theorem firsts_filter (h : ∀ f ∈ firsts paths, keep f = false → ∀ p ∈ paths, Path.same f p = true →
    keep p = false) : firsts (paths.filter keep) = (firsts paths).filter keep := by
  induction paths using firsts_induction with
  | nil => rfl
  | cons p paths ih =>
    rw [firsts_cons] at h ⊢
    have hrest : ∀ f ∈ firsts (paths.filter fun q => !Path.same q p), keep f = false →
        ∀ q ∈ paths.filter fun q => !Path.same q p, Path.same f q = true → keep q = false :=
      fun f hf hk q hq => h f (List.mem_cons_of_mem _ hf) hk q
        (List.mem_cons_of_mem _ (List.mem_filter.1 hq).1)
    by_cases hp : keep p = true
    · rw [List.filter_cons_of_pos hp, List.filter_cons_of_pos hp, firsts_cons, ← ih hrest,
        List.filter_comm]
    · -- No other text of the path is left, so nothing moves up.
      have hp : keep p = false := by simpa using hp
      rw [List.filter_cons_of_neg (by simp [hp]), List.filter_cons_of_neg (by simp [hp]),
        ← ih hrest, List.filter_comm]
      congr 1
      refine (List.filter_eq_self.2 fun q hq => ?_).symm
      obtain ⟨hq, hk⟩ := List.mem_filter.1 hq
      rw [Bool.not_eq_true', Path.same_comm]
      by_contra hsame
      have := h p List.mem_cons_self hp q (List.mem_cons_of_mem _ hq) (by simpa using hsame)
      rw [this] at hk
      cases hk

theorem firsts_filter_sublist (keep : String → Bool) (paths : List String) :
    (firsts (paths.filter keep)).Sublist (firsts paths) ↔
      ∀ f ∈ firsts paths, keep f = false → ∀ p ∈ paths, Path.same f p = true → keep p = false := by
  constructor
  · intro hsub f hf hk p hp hsame
    by_contra hkp
    obtain ⟨q, hq, hqp⟩ := exists_firsts (List.mem_filter.2 ⟨hp, by simpa using hkp⟩)
    have hqf : q = f := by
      refine eq_of_same_of_mem_firsts (hsub.subset hq) hf ?_
      rw [Path.same_congr hqp, Path.same_comm]
      exact hsame
    have hkq := (List.mem_filter.1 ((firsts_sublist _).subset hq)).2
    rw [hqf, hk] at hkq
    cases hkq
  · intro h
    rw [firsts_filter h]
    exact List.filter_sublist

/-- The texts of one path are taken away together. -/
theorem firsts_filter_same (p : String) :
    firsts (paths.filter fun q => !Path.same q p) = (firsts paths).filter fun q => !Path.same q p :=
  firsts_filter fun a _ ha b _ hsame => by
    rw [← Path.same_congr hsame]
    exact ha

/-- A path that comes first still does when others are taken away. -/
theorem mem_firsts_filter {f : String} (hf : f ∈ firsts paths) (hk : keep f = true) :
    f ∈ firsts (paths.filter keep) := by
  induction paths using firsts_induction with
  | nil => cases hf
  | cons p paths ih =>
    rw [firsts_cons] at hf
    rcases List.mem_cons.1 hf with rfl | hf
    · rw [List.filter_cons_of_pos hk, firsts_cons]
      exact List.mem_cons_self
    · have hmem := ih hf
      rw [List.filter_comm, firsts_filter_same] at hmem
      by_cases hp : keep p = true
      · rw [List.filter_cons_of_pos hp, firsts_cons, firsts_filter_same]
        exact List.mem_cons_of_mem _ hmem
      · rw [List.filter_cons_of_neg hp]
        exact (List.mem_filter.1 hmem).1

end

namespace FileSet

theorem distinctPaths_eq (paths : List String) : distinctPaths paths = firsts paths := by
  unfold distinctPaths firsts List.eraseDupsBy
  suffices h : ∀ kept : List String, (paths.foldl _ (kept.map Path.components, kept)).2.reverse =
      List.eraseDupsBy.loop Path.same paths kept from h []
  induction paths with
  | nil => exact fun _ => rfl
  | cons p paths ih =>
    intro kept
    have hany : kept.any (Path.same p) = (kept.map Path.components).contains (Path.components p) := by
      rw [Bool.eq_iff_iff, List.any_eq_true, List.contains_iff_mem, List.mem_map]
      exact exists_congr fun q => and_congr_right fun _ => by
        rw [Path.same, beq_iff_eq, eq_comm]
    rw [List.foldl_cons, List.eraseDupsBy.loop, hany]
    cases h : (kept.map Path.components).contains (Path.components p) with
    | true => simpa only [h, if_true] using ih kept
    | false => simpa only [h, Bool.false_eq_true, if_false, List.map_cons] using ih (p :: kept)

/-! ## Reading and expanding -/

/-- The entries without a leading `!`. -/
def selecting (entries : List String) : List String :=
  entries.filter fun e => (negated? e).isNone

/-- The patterns of the entries with a leading `!`, without it. -/
def removing (entries : List String) : List String := entries.filterMap negated?

/-- Whether `glob` is read as a pattern that accepts `path`. -/
def takesAway (glob path : String) : Bool :=
  match Glob.Exclude.read glob with
  | .ok tokens => Glob.Exclude.accepts tokens path
  | .error _ => false

/-- What the pattern of `entry` leads to below `root`. -/
def leadsTo (t : FileTree) (root entry : String) : List String :=
  match Glob.Include.Selector.read (rootedPattern root entry) with
  | .ok s => s.expand t
  | .error _ => []

/-- `path` relative to `root`, or as it is if it does not lie below. -/
def relativeTo (root path : String) : String := (Path.stripPrefix? root path).getD path

/-- The regular files that `selecting` entries lead to, one entry after the other. -/
def candidates (t : FileTree) (root : String) (entries : List String) : List String :=
  (selecting entries).flatMap fun e => ((leadsTo t root e).filter t.isFile).map (relativeTo root)

/-- The `candidates` that no pattern of `removing` takes away. -/
def remaining (t : FileTree) (root : String) (entries : List String) : List String :=
  (candidates t root entries).filter fun p => !(removing entries).any fun g => takesAway g p

/-- What is `remaining`, each path once. -/
def chosen (t : FileTree) (root : String) (entries : List String) : List String :=
  firsts (remaining t root entries)

/-- What `entries` come to when they are read and expanded. -/
def filesOf (t : FileTree) (root : String) (entries : List String) : Except Failure (List String) := do
  (← read entries).expand t root

/-- `glob` can be read as a pattern that takes files away. -/
def Removes (glob : String) : Prop := ∃ tokens, Glob.Exclude.read glob = .ok tokens

/-- `entry` can be read as a pattern that selects files below `root`. -/
def Selects (root entry : String) : Prop :=
  ∃ s, Glob.Include.Selector.read (rootedPattern root entry) = .ok s

theorem tokens?_eq_some {glob : String} {tokens : List Glob.Exclude} :
    tokens? glob = some tokens ↔ Glob.Exclude.read glob = .ok tokens := by
  rw [tokens?]
  cases Glob.Exclude.read glob <;> simp [Except.toOption]

theorem readExcludes_eq_ok {entries : List String} (h : ∀ g ∈ removing entries, Removes g) :
    readExcludes entries = .ok (tokensOf (removing entries)) := by
  induction entries with
  | nil => rfl
  | cons e rest ih =>
    unfold readExcludes
    cases hn : negated? e with
    | none =>
      have hrest : removing (e :: rest) = removing rest := List.filterMap_cons_none hn
      rw [hrest] at h ⊢
      exact ih h
    | some glob =>
      have hrest : removing (e :: rest) = glob :: removing rest := List.filterMap_cons_some hn
      rw [hrest, List.forall_mem_cons] at h
      obtain ⟨⟨tokens, hread⟩, h⟩ := h
      rw [hrest, tokensOf, List.filterMap_cons_some (tokens?_eq_some.2 hread)]
      simp [hread, ih h, tokensOf, bind, Except.bind, pure, Except.pure]

theorem any_accepts_tokensOf (globs : List String) (path : String) :
    ((tokensOf globs).any fun ts => Glob.Exclude.accepts ts path) =
      globs.any fun g => takesAway g path := by
  rw [tokensOf, List.any_filterMap]
  congr 1
  funext g
  rw [tokens?, takesAway]
  cases Glob.Exclude.read g <;> rfl

theorem readExcludes_eq_error {front back : List String} {e glob : String}
    {fault : Glob.ExcludeFault} (hfront : ∀ g ∈ removing front, Removes g)
    (he : negated? e = some glob) (hread : Glob.Exclude.read glob = .error fault) :
    readExcludes (front ++ e :: back) = .error (.pattern e (.exclude glob fault)) := by
  induction front with
  | nil => simp [readExcludes, he, hread]
  | cons a front ih =>
    rw [List.cons_append]
    unfold readExcludes
    cases hn : negated? a with
    | none =>
      have hrest : removing (a :: front) = removing front := List.filterMap_cons_none hn
      rw [hrest] at hfront
      exact ih hfront
    | some g =>
      have hrest : removing (a :: front) = g :: removing front := List.filterMap_cons_some hn
      rw [hrest, List.forall_mem_cons] at hfront
      obtain ⟨⟨tokens, hg⟩, hfront⟩ := hfront
      simp [hg, ih hfront, bind, Except.bind]

/-- A set whose patterns that take files away can be read and compile is made of its entries. -/
theorem read_eq_ok {entries : List String} (h : ∀ g ∈ removing entries, Removes g)
    (hcompile : Compile (removing entries)) :
    ∃ s, FileSet.read entries = .ok s ∧ s.includes = selecting entries ∧
      ∀ p, s.isExcluded p = (removing entries).any fun g => takesAway g p := by
  refine ⟨⟨selecting entries, tokensOf (removing entries)⟩, ?_, rfl, any_accepts_tokensOf _⟩
  rw [FileSet.read, readExcludes_eq_ok h]
  simp only [bind, Except.bind, show Glob.Exclude.setFault? _ = none from hcompile]
  rfl

/-- Patterns that can be read and do not compile are reported together. -/
theorem read_eq_error_together {entries : List String} {reason : Glob.Reason}
    (h : ∀ g ∈ removing entries, Removes g)
    (hfault : Glob.Exclude.setFault? (tokensOf (removing entries)) = some reason) :
    FileSet.read entries = .error (.pattern (excludeEntries entries) reason) := by
  rw [FileSet.read, readExcludes_eq_ok h]
  simp only [bind, Except.bind, hfault]

theorem read_eq_error {front back : List String} {e glob : String} {fault : Glob.ExcludeFault}
    (hfront : ∀ g ∈ removing front, Removes g) (he : negated? e = some glob)
    (hread : Glob.Exclude.read glob = .error fault) :
    FileSet.read (front ++ e :: back) = .error (.pattern e (.exclude glob fault)) := by
  rw [FileSet.read, readExcludes_eq_error hfront he hread]
  rfl

theorem leadsTo_eq {t : FileTree} {root entry : String} {s : Glob.Include.Selector}
    (h : Glob.Include.Selector.read (rootedPattern root entry) = .ok s) :
    leadsTo t root entry = s.expand t := by
  delta leadsTo
  rw [h]

theorem selected_eq_ok {t : FileTree} {root entry : String} (h : Selects root entry) :
    selected t root entry = .ok (((leadsTo t root entry).filter t.isFile).map (relativeTo root)) := by
  obtain ⟨s, hs⟩ := h
  rw [leadsTo_eq hs]
  delta selected
  rw [hs]
  rfl

theorem selected_eq_error {t : FileTree} {root entry : String} {position : Nat}
    {fault : Glob.IncludeFault}
    (h : Glob.Include.Selector.read (rootedPattern root entry) = .error (position, fault)) :
    selected t root entry = .error (.pattern entry (.include position fault)) := by
  delta selected
  rw [h]

theorem selectedAll_eq_ok {t : FileTree} {root : String} {entries : List String}
    (h : ∀ e ∈ entries, Selects root e) :
    selectedAll t root entries = .ok (entries.flatMap fun e =>
      ((leadsTo t root e).filter t.isFile).map (relativeTo root)) := by
  induction entries with
  | nil => rfl
  | cons e rest ih =>
    rw [List.forall_mem_cons] at h
    rw [selectedAll, selected_eq_ok h.1, ih h.2]
    rfl

theorem selectedAll_eq_error {t : FileTree} {root : String} {front back : List String}
    {e : String} {position : Nat} {fault : Glob.IncludeFault} (hfront : ∀ x ∈ front, Selects root x)
    (hread : Glob.Include.Selector.read (rootedPattern root e) = .error (position, fault)) :
    selectedAll t root (front ++ e :: back) = .error (.pattern e (.include position fault)) := by
  induction front with
  | nil =>
    rw [List.nil_append, selectedAll, selected_eq_error hread]
    rfl
  | cons a front ih =>
    rw [List.forall_mem_cons] at hfront
    rw [List.cons_append, selectedAll, selected_eq_ok hfront.1, ih hfront.2]
    rfl

/-! ## A list of entries -/

section
variable {t : FileTree} {root : String} {entries : List String}

theorem expand_eq_ok {s : FileSet} (hincludes : s.includes = selecting entries)
    (hexcludes : ∀ p, s.isExcluded p = (removing entries).any fun g => takesAway g p)
    (h : ∀ e ∈ selecting entries, Selects root e) :
    s.expand t root = .ok (chosen t root entries) := by
  rw [expand, hincludes, selectedAll_eq_ok h]
  simp only [hexcludes, distinctPaths_eq, bind, Except.bind, pure, Except.pure]
  rfl

theorem expand_eq_error {s : FileSet} (hincludes : s.includes = selecting entries)
    {front back : List String} {e : String} {position : Nat} {fault : Glob.IncludeFault}
    (hentries : selecting entries = front ++ e :: back) (hfront : ∀ x ∈ front, Selects root x)
    (hread : Glob.Include.Selector.read (rootedPattern root e) = .error (position, fault)) :
    s.expand t root = .error (.pattern e (.include position fault)) := by
  rw [expand, hincludes, hentries, selectedAll_eq_error hfront hread]
  rfl

theorem filesOf_eq_ok (h : ∀ g ∈ removing entries, Removes g) (hcompile : Compile (removing entries))
    (hselects : ∀ e ∈ selecting entries, Selects root e) :
    filesOf t root entries = .ok (chosen t root entries) := by
  obtain ⟨s, hs, hincludes, hexcludes⟩ := read_eq_ok h hcompile
  rw [filesOf, hs]
  exact expand_eq_ok hincludes hexcludes hselects

theorem removes_of_readExcludes {xs : List (List Glob.Exclude)} (h : readExcludes entries = .ok xs) :
    ∀ g ∈ removing entries, Removes g := by
  induction entries generalizing xs with
  | nil => exact fun g hg => by cases hg
  | cons e rest ih =>
    unfold readExcludes at h
    cases hn : negated? e with
    | none =>
      simp only [hn] at h
      rw [removing, List.filterMap_cons_none hn]
      exact ih h
    | some glob =>
      simp only [hn] at h
      rw [removing, List.filterMap_cons_some hn, List.forall_mem_cons]
      cases hread : Glob.Exclude.read glob with
      | error fault => simp [hread] at h
      | ok tokens =>
        simp only [hread] at h
        cases hrest : readExcludes rest with
        | error e => simp [hrest, bind, Except.bind] at h
        | ok ys => exact ⟨⟨tokens, hread⟩, ih hrest⟩

theorem selects_of_selectedAll {files : List String} (h : selectedAll t root entries = .ok files) :
    ∀ e ∈ entries, Selects root e := by
  induction entries generalizing files with
  | nil => exact fun e he => by cases he
  | cons e rest ih =>
    rw [selectedAll] at h
    cases hread : Glob.Include.Selector.read (rootedPattern root e) with
    | error fault =>
      rw [selected_eq_error hread] at h
      cases h
    | ok s =>
      rw [selected_eq_ok ⟨s, hread⟩] at h
      cases hrest : selectedAll t root rest with
      | error e => simp [hrest, bind, Except.bind] at h
      | ok more => exact List.forall_mem_cons.2 ⟨⟨s, hread⟩, ih hrest⟩

/-- A set that is read has patterns that can be read and compile. -/
theorem compile_of_read {s : FileSet} (h : FileSet.read entries = .ok s) :
    (∀ g ∈ removing entries, Removes g) ∧ Compile (removing entries) ∧
      s.includes = selecting entries := by
  obtain ⟨xs, hxs, h⟩ := FileTree.bind_eq_ok.1 h
  have hremoves := removes_of_readExcludes hxs
  refine ⟨hremoves, ?_⟩
  rw [Compile, ← Except.ok.inj (hxs.symm.trans (readExcludes_eq_ok hremoves))]
  cases hfault : Glob.Exclude.setFault? xs with
  | none =>
    rw [hfault] at h
    cases h
    exact ⟨rfl, rfl⟩
  | some reason =>
    rw [hfault] at h
    cases h

/-- Entries lead to files just where all of them can be read and those that take files away compile. -/
theorem filesOf_eq_ok_iff {files : List String} : filesOf t root entries = .ok files ↔
    ((∀ g ∈ removing entries, Removes g) ∧ Compile (removing entries) ∧
      ∀ e ∈ selecting entries, Selects root e) ∧ files = chosen t root entries := by
  constructor
  · intro h
    obtain ⟨s, hs, hexpand⟩ := FileTree.bind_eq_ok.1 h
    obtain ⟨hremoves, hcompile, hincludes⟩ := compile_of_read hs
    have hselects : ∀ e ∈ selecting entries, Selects root e := by
      obtain ⟨files, hall, -⟩ := FileTree.bind_eq_ok.1 hexpand
      rw [hincludes] at hall
      exact selects_of_selectedAll hall
    rw [filesOf_eq_ok hremoves hcompile hselects] at h
    exact ⟨⟨hremoves, hcompile, hselects⟩, (Except.ok.inj h).symm⟩
  · rintro ⟨⟨hremoves, hcompile, hselects⟩, rfl⟩
    exact filesOf_eq_ok hremoves hcompile hselects

theorem mem_remaining {p : String} : p ∈ remaining t root entries ↔
    p ∈ candidates t root entries ∧ ∀ g ∈ removing entries, takesAway g p = false := by
  simp [remaining]

/-- Two lists with the same selecting entries, one after the other, and the same other ones in any
order come to the same files. -/
theorem filesOf_congr {others : List String} (hselecting : selecting others = selecting entries)
    (hremoving : ∀ g, g ∈ removing others ↔ g ∈ removing entries)
    (h : ∀ g ∈ removing entries, Removes g) (hcompile : Compile (removing entries))
    (hcompile' : Compile (removing others)) :
    filesOf t root others = filesOf t root entries := by
  obtain ⟨s, hs, hincludes, hexcludes⟩ := read_eq_ok h hcompile
  have hothers : ∀ g ∈ removing others, Removes g := fun g hg => h g ((hremoving g).1 hg)
  obtain ⟨s', hs', hincludes', hexcludes'⟩ := read_eq_ok hothers hcompile'
  have hsame : ∀ p, s'.isExcluded p = s.isExcluded p := fun p => by
    rw [hexcludes, hexcludes', Bool.eq_iff_iff, List.any_eq_true, List.any_eq_true]
    exact exists_congr fun g => and_congr_left fun _ => hremoving g
  rw [filesOf, filesOf, hs, hs']
  simp only [bind, Except.bind, expand, hsame, hincludes, hincludes', hselecting]

end

section
variable {t : FileTree} {root glob : String}

theorem negated?_mark (glob : String) : negated? ("!" ++ glob) = some glob := by
  have hchars : ("!" ++ glob).toList = '!' :: glob.toList := by simp
  rw [negated?, hchars]
  simp

theorem removing_oneMore (front back : List String) :
    removing (front ++ ("!" ++ glob) :: back) = removing front ++ glob :: removing back := by
  simp [removing, List.filterMap_append, negated?_mark]

/-- One more entry that takes files away takes them out of what remains. -/
theorem remaining_oneMore (front back : List String) :
    remaining t root (front ++ ("!" ++ glob) :: back) =
      (remaining t root (front ++ back)).filter fun p => !takesAway glob p := by
  have hselecting : selecting (front ++ ("!" ++ glob) :: back) = selecting (front ++ back) := by
    simp [selecting, List.filter_append, negated?_mark]
  have hbefore : removing (front ++ back) = removing front ++ removing back :=
    List.filterMap_append
  rw [remaining, remaining, candidates, hselecting, removing_oneMore, hbefore, List.filter_filter]
  refine List.filter_congr fun p _ => ?_
  simp only [List.any_append, List.any_cons]
  cases takesAway glob p <;> simp

end

/-- What `filesOf t root entries` comes to. -/
structure Chooses (t : FileTree) (root : String) (entries : List String) : Prop where
  /-- The first pattern that cannot take files away is reported, as its entry is written. -/
  unreadable_removing : ∀ front e back glob fault, entries = front ++ e :: back →
    (∀ g ∈ removing front, Removes g) → negated? e = some glob →
    Glob.Exclude.read glob = .error fault →
    FileSet.read entries = .error (.pattern e (.exclude glob fault))
  /-- If each of them can, all are when they do not compile as one set. -/
  uncompiled : (∀ g ∈ removing entries, Removes g) →
    ∀ reason, Glob.Exclude.setFault? (tokensOf (removing entries)) = some reason →
      FileSet.read entries = .error (.pattern (excludeEntries entries) reason)
  /-- Else the first entry that cannot select files is, when the set is expanded. -/
  unreadable_selecting : (∀ g ∈ removing entries, Removes g) → Compile (removing entries) →
    ∃ s, FileSet.read entries = .ok s ∧
    ∀ front e back position fault, selecting entries = front ++ e :: back →
      (∀ x ∈ front, Selects root x) →
      Glob.Include.Selector.read (rootedPattern root e) = .error (position, fault) →
      s.expand t root = .error (.pattern e (.include position fault))
  /-- Else the files are what the selecting entries lead to without what the others take away, each
  path once. -/
  files : (∀ g ∈ removing entries, Removes g) → Compile (removing entries) →
    (∀ e ∈ selecting entries, Selects root e) →
      ∃ s, FileSet.read entries = .ok s ∧ s.expand t root = .ok (chosen t root entries)
  distinct : (chosen t root entries).Pairwise fun a b => Path.same a b = false
  not_taken : ∀ f ∈ chosen t root entries, f ∈ candidates t root entries ∧
    ∀ g ∈ removing entries, takesAway g f = false
  none_missed : ∀ f ∈ candidates t root entries, (∀ g ∈ removing entries, takesAway g f = false) →
    ∃ f' ∈ chosen t root entries, Path.same f' f = true
  /-- It makes no difference where the entries that take files away stand. -/
  anywhere : (∀ g ∈ removing entries, Removes g) → Compile (removing entries) → ∀ others,
    selecting others = selecting entries → (∀ g, g ∈ removing others ↔ g ∈ removing entries) →
    Compile (removing others) → filesOf t root others = filesOf t root entries
  /-- In another order they compile just as well. -/
  compiles_anywhere : ∀ others, (removing others).Perm (removing entries) →
    (Compile (removing others) ↔ Compile (removing entries))
  /-- One more that needs no expression keeps them compiling. -/
  compiles_more : ∀ front back glob tokens, entries = front ++ back →
    Glob.Exclude.read glob = .ok tokens → Glob.Exclude.needsExpression tokens = false →
    (Compile (removing (front ++ ("!" ++ glob) :: back)) ↔ Compile (removing entries))
  /-- One more of them names no new path, and takes away files without changing the order of the
  others, unless it takes away the text of a path that comes first and leaves another one. -/
  one_more : ∀ front back glob, entries = front ++ back →
    (∀ f ∈ chosen t root (front ++ ("!" ++ glob) :: back),
      ∃ f' ∈ chosen t root entries, Path.same f' f = true) ∧
    ((chosen t root (front ++ ("!" ++ glob) :: back)).Sublist (chosen t root entries) ↔
      ∀ f ∈ chosen t root entries, takesAway glob f = true →
        ∀ p ∈ remaining t root entries, Path.same f p = true → takesAway glob p = true) ∧
    ((chosen t root (front ++ ("!" ++ glob) :: back)).Sublist (chosen t root entries) →
      chosen t root (front ++ ("!" ++ glob) :: back) =
        (chosen t root entries).filter fun p => !takesAway glob p)

theorem files_chosen (t : FileTree) (root : String) (entries : List String) :
    Chooses t root entries where
  unreadable_removing := by
    rintro front e back glob fault rfl hfront he hread
    exact read_eq_error hfront he hread
  uncompiled h _ hfault := read_eq_error_together h hfault
  unreadable_selecting h hcompile := by
    obtain ⟨s, hs, hincludes, -⟩ := read_eq_ok h hcompile
    exact ⟨s, hs, fun front e back position fault hentries hfront hread =>
      expand_eq_error hincludes hentries hfront hread⟩
  files h hcompile hselects := by
    obtain ⟨s, hs, hincludes, hexcludes⟩ := read_eq_ok h hcompile
    exact ⟨s, hs, expand_eq_ok hincludes hexcludes hselects⟩
  distinct := firsts_pairwise _
  not_taken f hf := mem_remaining.1 ((firsts_sublist _).subset hf)
  none_missed f hf hnot := exists_firsts (mem_remaining.2 ⟨hf, hnot⟩)
  anywhere h hcompile others hselecting hremoving hcompile' :=
    filesOf_congr hselecting hremoving h hcompile hcompile'
  compiles_anywhere _ hperm := compile_perm hperm
  compiles_more := by
    rintro front back glob tokens rfl hread hneeds
    rw [removing_oneMore, compile_insert hread hneeds]
    exact iff_of_eq (congrArg Compile List.filterMap_append.symm)
  one_more := by
    rintro front back glob rfl
    have hmore : chosen t root (front ++ ("!" ++ glob) :: back) =
        firsts ((remaining t root (front ++ back)).filter fun p => !takesAway glob p) := by
      rw [chosen, remaining_oneMore]
    rw [hmore]
    have hiff := firsts_filter_sublist (fun p => !takesAway glob p)
      (remaining t root (front ++ back))
    simp only [Bool.not_eq_false'] at hiff
    refine ⟨fun f hf => ?_, hiff, fun hsub => firsts_filter ?_⟩
    · exact exists_firsts (List.mem_filter.1 ((firsts_sublist _).subset hf)).1
    · simpa only [Bool.not_eq_false'] using hiff.1 hsub

/-! ## A path with two texts -/

/-- A project with two scripts. -/
def twoScripts : FileTree where
  entries :=
    [(["proj"], .dir), (["proj", "b.js"], .file ⟨#[]⟩), (["proj", "lib"], .dir),
      (["proj", "lib", "a.js"], .file ⟨#[]⟩)]

/-- An entry that spells the path to one of them. -/
theorem files_spelled (entry : String) (segs : List String) {loc : Location} {bytes : ByteArray}
    (hread : Glob.Include.Selector.read (rootedPattern "/proj" entry) =
      .ok ⟨"/", segs.map fun s => s.toList.map .char, false⟩)
    (hne : segs ≠ []) (hsegs : ∀ s ∈ segs, '/' ∉ s.toList)
    (h : twoScripts.resolveWithin true 10 (Path.joinAll "/" segs) = some (.ok loc))
    (hfile : twoScripts.get? loc = some (.file bytes)) :
    ((leadsTo twoScripts "/proj" entry).filter twoScripts.isFile).map (relativeTo "/proj") =
      [relativeTo "/proj" (Path.joinAll "/" segs)] := by
  have hlink : twoScripts.LinkFree := by decide
  have hr := FileTree.resolve_of_within 10 h
  rw [leadsTo_eq hread, Glob.Include.expand_spelled hlink hne hsegs hr, List.filter_singleton,
    FileTree.isFile_iff.2 ⟨loc, bytes, hr, hfile⟩]
  rfl

/-- Two scripts, and the first of them again by another text. -/
def scriptsTwice : List String := ["lib/a.js", "b.js", "lib/./a.js"]

theorem selects_scriptsTwice : ∀ e ∈ scriptsTwice, Selects "/proj" e := by
  simp only [scriptsTwice, List.forall_mem_cons, List.not_mem_nil, false_implies, implies_true,
    and_true]
  exact ⟨⟨_, by rfl⟩, ⟨_, by rfl⟩, ⟨_, by rfl⟩⟩

theorem candidates_scriptsTwice : candidates twoScripts "/proj" scriptsTwice = scriptsTwice := by
  have ha := files_spelled "lib/a.js" ["proj", "lib", "a.js"]
    (by rfl) (by decide) (by decide) (by rfl) (by rfl)
  have hb := files_spelled "b.js" ["proj", "b.js"]
    (by rfl) (by decide) (by decide) (by rfl) (by rfl)
  have hdot := files_spelled "lib/./a.js" ["proj", "lib", ".", "a.js"]
    (by rfl) (by decide) (by decide) (by rfl) (by rfl)
  have hselecting : selecting scriptsTwice = scriptsTwice := by decide
  rw [candidates, hselecting, scriptsTwice]
  simp only [List.flatMap_cons, List.flatMap_nil, ha, hb, hdot]
  decide +kernel

/-- An entry takes away a file that was selected first, and the same file comes last, under the
other text that selects it. -/
theorem files_moved_up :
    filesOf twoScripts "/proj" scriptsTwice = .ok ["lib/a.js", "b.js"] ∧
      filesOf twoScripts "/proj" (scriptsTwice ++ ["!lib/a.js"]) = .ok ["b.js", "lib/./a.js"] ∧
      ¬ ["b.js", "lib/./a.js"].Sublist ["lib/a.js", "b.js"] := by
  have hremoving : removing scriptsTwice = [] := by decide
  have hselecting : selecting scriptsTwice = scriptsTwice := by decide
  have hremoving' : removing (scriptsTwice ++ ["!lib/a.js"]) = ["lib/a.js"] := by decide
  have hselecting' : selecting (scriptsTwice ++ ["!lib/a.js"]) = scriptsTwice := by decide
  have hall : remaining twoScripts "/proj" scriptsTwice = scriptsTwice := by
    rw [remaining, candidates_scriptsTwice, hremoving]
    rfl
  have hmore : remaining twoScripts "/proj" (scriptsTwice ++ ["!lib/a.js"]) =
      (remaining twoScripts "/proj" scriptsTwice).filter fun p => !takesAway "lib/a.js" p := by
    have hmark : "!" ++ "lib/a.js" = "!lib/a.js" := by decide
    have h := @remaining_oneMore twoScripts "/proj" "lib/a.js" scriptsTwice []
    rwa [hmark, List.append_nil] at h
  refine ⟨?_, ?_, by decide⟩
  · rw [filesOf_eq_ok (by simp [hremoving]) (by rw [hremoving]; exact compile_nil)
      (hselecting ▸ selects_scriptsTwice), chosen, hall]
    exact congrArg Except.ok (by decide +kernel)
  · have hremoves : Removes "lib/a.js" := ⟨_, by rfl⟩
    rw [filesOf_eq_ok (by simpa [hremoving'] using hremoves) (by rw [hremoving']; decide +kernel)
      (hselecting' ▸ selects_scriptsTwice), chosen, hmore, hall]
    exact congrArg Except.ok (by decide +kernel)

end FileSet

end BuildGate
