import BuildGate.FileTree
import BuildGate.Proofs.PathTexts
import Mathlib.Data.List.Induction
import Mathlib.Tactic.MkIffOfInductiveProp

/-!
# Where paths lead

A file system promises that an entry has a name, that it stands in a directory, and that there is
one entry of a name (`FileTree.WellFormed`). On such a tree a resolution comes to something that is
there, and the path from the root to that place leads to it again without a link, unless it is longer
than a path may be.

To take away a place and what is below it stops resolutions and turns none elsewhere: what still
resolves in the smaller tree resolves to the same place in the larger one.

**Results.**
* `walk_induction`: what holds of every resolution, by what its first step comes to.
* `resolve_stands`: a resolved path leads to an entry that is no link.
* `components_pathOf`, `resolveWith_pathOf`: the path of a location names it and leads to it.
* `resolve_remove`, `exists_remove`: a removed place cannot be resolved any more.
-/
namespace BuildGate.FileTree

/-- What a file system promises of its entries. -/
@[mk_iff wellFormed_iff]
structure WellFormed (t : FileTree) : Prop where
  ne_root : ∀ e ∈ t.entries, e.1 ≠ []
  names : ∀ e ∈ t.entries, ∀ n ∈ e.1, IsName n ∧ n.utf8ByteSize ≤ maxName
  above : ∀ e ∈ t.entries, t.get? e.1.dropLast = some .dir
  once : (t.entries.map (·.1)).Nodup

instance (t : FileTree) : Decidable t.WellFormed := decidable_of_iff _ (wellFormed_iff t).symm

/-- An entry that `resolve` does not follow further. -/
def Entry.IsPlace : Entry → Prop
  | .link _ => False
  | _ => True

/-! ## What stands at a location -/

@[simp] theorem get?_root (t : FileTree) : t.get? [] = some .dir := rfl

theorem mem_of_get? {t : FileTree} {loc : Location} {e : Entry} (hne : loc ≠ [])
    (h : t.get? loc = some e) : (loc, e) ∈ t.entries := by
  simp only [get?, List.isEmpty_iff, hne, if_false] at h
  obtain ⟨l₁, l₂, hl, -⟩ := List.lookup_eq_some_iff.1 h
  rw [hl]
  simp

section
variable {t : FileTree} (wf : t.WellFormed)
include wf

theorem WellFormed.get?_dropLast {loc : Location} {e : Entry} (h : t.get? loc = some e) :
    t.get? loc.dropLast = some .dir := by
  by_cases hne : loc = []
  · subst hne; rfl
  · exact wf.above _ (mem_of_get? hne h)

theorem WellFormed.get?_prefix {loc l : Location} {e : Entry} (h : t.get? loc = some e)
    (hl : l <+: loc) (hne : l ≠ loc) : t.get? l = some .dir := by
  obtain ⟨rest, rfl⟩ := hl
  induction rest using List.reverseRecOn generalizing e with
  | nil => simp at hne
  | append_singleton rest n ih =>
    have hd := wf.get?_dropLast h
    rw [← List.append_assoc, List.dropLast_concat] at hd
    by_cases hr : rest = []
    · simpa [hr] using hd
    · exact ih hd (by simpa using hr)

theorem WellFormed.isName {loc : Location} {e : Entry} (h : t.get? loc = some e) :
    ∀ n ∈ loc, IsName n ∧ n.utf8ByteSize ≤ maxName := by
  by_cases hne : loc = []
  · subst hne; simp
  · exact wf.names _ (mem_of_get? hne h)

end

/-! ## Resolving -/

section
variable (t : FileTree) (followLast : Bool) (links : Nat) {loc : Location} (todo : List Step)

theorem walk_nil : t.walk followLast links loc [] = .ok loc := by rw [walk]

theorem walk_not_dir (s : Step) (h : t.get? loc ≠ some .dir) :
    t.walk followLast links loc (s :: todo) = .error .notADirectory := by
  cases s <;> rw [walk] <;> simp [h]

theorem walk_here (h : t.get? loc = some .dir) :
    t.walk followLast links loc (.here :: todo) = t.walk followLast links loc todo := by
  rw [walk]
  simp [h]

theorem walk_up (h : t.get? loc = some .dir) :
    t.walk followLast links loc (.up :: todo) = t.walk followLast links loc.dropLast todo := by
  rw [walk]
  simp [h]

variable {name : String} (h : t.get? loc = some .dir)
include h

theorem walk_down_long (hn : maxName < name.utf8ByteSize) :
    t.walk followLast links loc (.down name :: todo) = .error .nameTooLong := by
  rw [walk]
  simp [h, hn]

variable (hn : name.utf8ByteSize ≤ maxName)
include hn

theorem walk_down_none (hget : t.get? (loc ++ [name]) = none) :
    t.walk followLast links loc (.down name :: todo) = .error .notFound := by
  rw [walk]
  simp [h, Nat.not_lt.2 hn, hget]

theorem walk_down {e : Entry} (hget : t.get? (loc ++ [name]) = some e) (hp : Entry.IsPlace e) :
    t.walk followLast links loc (.down name :: todo) =
      t.walk followLast links (loc ++ [name]) todo := by
  rw [walk]
  cases e with
  | link s => exact hp.elim
  | dir => simp [h, Nat.not_lt.2 hn, hget]
  | file bytes => simp [h, Nat.not_lt.2 hn, hget]

variable {target : String} (hget : t.get? (loc ++ [name]) = some (.link target))
include hget

theorem walk_link_kept (hlast : todo = [] ∧ followLast = false) :
    t.walk followLast links loc (.down name :: todo) = .ok (loc ++ [name]) := by
  rw [walk]
  simp [h, Nat.not_lt.2 hn, hget, hlast]

theorem walk_link_spent (hlast : ¬ (todo = [] ∧ followLast = false)) :
    t.walk followLast 0 loc (.down name :: todo) = .error .tooManyLinks := by
  rw [walk]
  simp [h, Nat.not_lt.2 hn, hget, hlast]

theorem walk_link (hlast : ¬ (todo = [] ∧ followLast = false)) :
    t.walk followLast (links + 1) loc (.down name :: todo) =
      t.walk followLast links (if Path.isAbsolute target then [] else loc)
        (stepsOf target ++ todo) := by
  rw [walk]
  simp [h, Nat.not_lt.2 hn, hget, hlast]

end

theorem Entry.isPlace_of_not_link {e : Entry} (h : ∀ target, e = .link target → False) :
    Entry.IsPlace e := by
  cases e with
  | link s => exact (h s rfl).elim
  | dir => trivial
  | file bytes => trivial

/-- Resolutions step by step: one that takes no step, those that the first step ends, and those that
go on behind it. -/
theorem walk_induction (t : FileTree) (followLast : Bool)
    {motive : Nat → Location → List Step → Prop}
    (done : ∀ links loc, motive links loc [])
    (notDir : ∀ links loc s todo, t.get? loc ≠ some .dir → motive links loc (s :: todo))
    (here : ∀ links loc todo, t.get? loc = some .dir → motive links loc todo →
      motive links loc (.here :: todo))
    (up : ∀ links loc todo, t.get? loc = some .dir → motive links loc.dropLast todo →
      motive links loc (.up :: todo))
    (tooLong : ∀ links loc name todo, t.get? loc = some .dir → maxName < name.utf8ByteSize →
      motive links loc (.down name :: todo))
    (missing : ∀ links loc name todo, t.get? loc = some .dir → name.utf8ByteSize ≤ maxName →
      t.get? (loc ++ [name]) = none → motive links loc (.down name :: todo))
    (kept : ∀ links loc name todo target, t.get? loc = some .dir → name.utf8ByteSize ≤ maxName →
      t.get? (loc ++ [name]) = some (.link target) → todo = [] ∧ followLast = false →
        motive links loc (.down name :: todo))
    (spent : ∀ loc name todo target, t.get? loc = some .dir → name.utf8ByteSize ≤ maxName →
      t.get? (loc ++ [name]) = some (.link target) → ¬ (todo = [] ∧ followLast = false) →
        motive 0 loc (.down name :: todo))
    (followed : ∀ links loc name todo target, t.get? loc = some .dir →
      name.utf8ByteSize ≤ maxName → t.get? (loc ++ [name]) = some (.link target) →
        ¬ (todo = [] ∧ followLast = false) →
          motive links (if Path.isAbsolute target then [] else loc) (stepsOf target ++ todo) →
            motive (links + 1) loc (.down name :: todo))
    (down : ∀ links loc name todo e, t.get? loc = some .dir → name.utf8ByteSize ≤ maxName →
      t.get? (loc ++ [name]) = some e → Entry.IsPlace e → motive links (loc ++ [name]) todo →
        motive links loc (.down name :: todo))
    (links : Nat) (loc : Location) (todo : List Step) : motive links loc todo := by
  induction links, loc, todo using walk.induct t followLast with
  | case1 links loc => exact done links loc
  | case2 links loc s todo hd => exact notDir links loc s todo hd
  | case3 links loc todo hd ih => exact here links loc todo (Decidable.not_not.1 hd) ih
  | case4 links loc todo hd ih => exact up links loc todo (Decidable.not_not.1 hd) ih
  | case5 links loc todo hd name hn => exact tooLong links loc name todo (Decidable.not_not.1 hd) hn
  | case6 links loc todo hd name hn hget =>
    exact missing links loc name todo (Decidable.not_not.1 hd) (Nat.not_lt.1 hn) hget
  | case7 links loc todo hd name hn target hget hlast =>
    exact kept links loc name todo target (Decidable.not_not.1 hd) (Nat.not_lt.1 hn) hget hlast
  | case8 loc todo hd name hn target hget hlast =>
    exact spent loc name todo target (Decidable.not_not.1 hd) (Nat.not_lt.1 hn) hget hlast
  | case9 loc todo hd name hn target hget hlast links ih =>
    exact followed links loc name todo target (Decidable.not_not.1 hd) (Nat.not_lt.1 hn) hget hlast ih
  | case10 links loc todo hd name hn e hlink hget ih =>
    exact down links loc name todo e (Decidable.not_not.1 hd) (Nat.not_lt.1 hn) hget
      (Entry.isPlace_of_not_link hlink) ih

/-- A resolution that starts at a place ends at one, or at the last link if that is not followed. -/
theorem walk_stands {t : FileTree} (wf : t.WellFormed) {followLast : Bool} {links : Nat}
    {loc r : Location} {todo : List Step} (hloc : ∃ e, t.get? loc = some e ∧ Entry.IsPlace e)
    (h : t.walk followLast links loc todo = .ok r) :
    ∃ e, t.get? r = some e ∧ (followLast = true → Entry.IsPlace e) := by
  induction links, loc, todo using walk_induction t followLast with
  | done links loc =>
    rw [walk_nil] at h
    cases h
    obtain ⟨e, he, hp⟩ := hloc
    exact ⟨e, he, fun _ => hp⟩
  | notDir links loc s todo hd =>
    rw [walk_not_dir t followLast links todo s hd] at h
    cases h
  | here links loc todo hd ih =>
    rw [walk_here t followLast links todo hd] at h
    exact ih hloc h
  | up links loc todo hd ih =>
    rw [walk_up t followLast links todo hd] at h
    exact ih ⟨.dir, wf.get?_dropLast hd, trivial⟩ h
  | tooLong links loc name todo hd hn =>
    rw [walk_down_long t followLast links todo hd hn] at h
    cases h
  | missing links loc name todo hd hn hget =>
    rw [walk_down_none t followLast links todo hd hn hget] at h
    cases h
  | kept links loc name todo target hd hn hget hlast =>
    rw [walk_link_kept t followLast links todo hd hn hget hlast] at h
    cases h
    exact ⟨_, hget, fun hf => by simp [hf] at hlast⟩
  | spent loc name todo target hd hn hget hlast =>
    rw [walk_link_spent t followLast todo hd hn hget hlast] at h
    cases h
  | followed links loc name todo target hd hn hget hlast ih =>
    rw [walk_link t followLast links todo hd hn hget hlast] at h
    refine ih ?_ h
    split
    · exact ⟨.dir, get?_root t, trivial⟩
    · exact hloc
  | down links loc name todo e hd hn hget hp ih =>
    rw [walk_down t followLast links todo hd hn hget hp] at h
    exact ih ⟨e, hget, hp⟩ h

/-- A path that is not empty asks for something. -/
theorem stepsOf_ne_nil {path : String} (h : path ≠ "") : stepsOf path ≠ [] := by
  intro hnil
  obtain ⟨hsteps, hlast⟩ := List.append_eq_nil_iff.1 hnil
  have hlast : path.toList.getLast? ≠ some '/' := by
    intro hl
    simp [hl] at hlast
  have hne : path.toList ≠ [] := by simpa using h
  obtain ⟨p, hp, hpne⟩ := Path.getLast?_splitSlash hne hlast
  have hmem : String.ofList p ∈ Path.segments path :=
    List.mem_map.2 ⟨p, List.mem_of_getLast? hp, rfl⟩
  have hp0 : String.ofList p ≠ "" := by
    intro he
    have := congrArg String.toList he
    simp [hpne] at this
  have hnone := (List.filterMap_eq_nil_iff.1 hsteps) _ hmem
  simp only [stepOf, hp0, if_false] at hnone
  split at hnone
  · cases hnone
  · split at hnone <;> cases hnone

/-- A resolved path leads to an entry that is no link. -/
theorem resolve_stands {t : FileTree} (wf : t.WellFormed) {path : String} {loc : Location}
    (h : t.resolve path = .ok loc) : ∃ e, t.get? loc = some e ∧ Entry.IsPlace e := by
  unfold resolve resolveWith at h
  split at h
  · cases h
  · split at h
    · cases h
    · rename_i hne
      split at h
      · cases h
      · have hstart : ∃ e, t.get? (if Path.isAbsolute path then [] else t.workingDir) = some e ∧
            Entry.IsPlace e := by
          -- Where the working directory is gone, the first step already fails.
          obtain ⟨s, todo, hs⟩ := List.exists_cons_of_ne_nil (stepsOf_ne_nil hne)
          by_cases hd : t.get? (if Path.isAbsolute path then [] else t.workingDir) = some .dir
          · exact ⟨.dir, hd, trivial⟩
          · rw [hs, walk_not_dir t true maxLinks todo s hd] at h
            cases h
        obtain ⟨e, he, hp⟩ := walk_stands wf hstart h
        exact ⟨e, he, hp rfl⟩

/-! ## The path of a location -/

theorem components_pathOf {loc : Location} (h : ∀ n ∈ loc, IsName n) :
    Path.components (pathOf loc) = .root :: loc.map Path.Component.name :=
  Path.components_ofNames fun n hn => (h n hn).toIsPart

theorem stepOf_name {n : String} (h : IsName n) : stepOf n = some (.down n) := by
  simp [stepOf, h.ne_empty, h.ne_here, h.ne_up]

theorem filterMap_stepOf {names : List String} (h : ∀ n ∈ names, IsName n) :
    names.filterMap stepOf = names.map Step.down := by
  induction names with
  | nil => rfl
  | cons n rest ih =>
    rw [List.filterMap_cons, stepOf_name (h n List.mem_cons_self),
      ih fun m hm => h m (List.mem_cons_of_mem _ hm)]
    rfl

theorem no_nul_intercalate : ∀ {names : List String}, (∀ n ∈ names, IsName n) →
    '\x00' ∉ ("/".intercalate names).toList
  | [], _ => by simp
  | n :: rest, h => by
    have hn := (h n List.mem_cons_self).no_nul
    have hrest := no_nul_intercalate fun m hm => h m (List.mem_cons_of_mem _ hm)
    by_cases hr : rest = []
    · rwa [hr, String.intercalate_singleton]
    · rw [String.intercalate_cons_of_ne_nil hr]
      simp only [String.toList_append, List.mem_append, not_or]
      exact ⟨⟨hn, by simp⟩, hrest⟩

theorem no_nul_pathOf {loc : Location} (h : ∀ n ∈ loc, IsName n) :
    '\x00' ∉ (pathOf loc).toList := by
  rw [pathOf, String.toList_append, List.mem_append, not_or]
  exact ⟨by simp, no_nul_intercalate h⟩

theorem pathOf_concat (loc : Location) (n : String) : ∃ s, pathOf (loc ++ [n]) = s ++ n := by
  by_cases hl : loc = []
  · exact ⟨"/", by simp [pathOf, hl]⟩
  · refine ⟨"/" ++ ("/".intercalate loc ++ "/"), ?_⟩
    rw [pathOf, String.intercalate_append_of_ne_nil hl (by simp), String.intercalate_singleton]
    simp [String.append_assoc]

theorem stepsOf_pathOf {loc : Location} (hne : loc ≠ []) (h : ∀ n ∈ loc, IsName n) :
    stepsOf (pathOf loc) = loc.map Step.down := by
  have hsegs : (Path.segments (pathOf loc)).filterMap stepOf = loc.map Step.down := by
    have hsplit : pathOf loc = "" ++ "/" ++ "/".intercalate loc := by simp [pathOf]
    rw [hsplit, Path.segments_append, Path.segments_of_no_slash (s := "") (by simp),
      Path.segments_intercalate hne fun n hn => (h n hn).no_slash, List.filterMap_append,
      filterMap_stepOf h]
    simp [stepOf]
  have hlast : (pathOf loc).toList.getLast? ≠ some '/' := by
    obtain ⟨init, n, hloc⟩ := (List.eq_nil_or_concat loc).resolve_left hne
    rw [List.concat_eq_append] at hloc
    obtain ⟨s, hs⟩ := pathOf_concat init n
    have hn : IsName n := h n (by simp [hloc])
    rw [hloc, hs]
    exact Path.getLast?_append_no_slash s hn.ne_empty hn.no_slash
  rw [stepsOf, hsegs, if_neg hlast, List.append_nil]

/-- Names lead down to what they name. -/
theorem walk_names {t : FileTree} (wf : t.WellFormed) (followLast : Bool) (links : Nat) :
    ∀ {rest : List String} {loc : Location} {e : Entry}, t.get? (loc ++ rest) = some e →
      Entry.IsPlace e → t.walk followLast links loc (rest.map Step.down) = .ok (loc ++ rest)
  | [], loc, e, _, _ => by
    rw [List.map_nil, walk_nil, List.append_nil]
  | n :: rest, loc, e, h, hp => by
    have hdir : t.get? loc = some .dir := wf.get?_prefix h (List.prefix_append _ _) (by simp)
    have hn := (wf.isName h n (by simp)).2
    have happ : loc ++ n :: rest = loc ++ [n] ++ rest := by simp
    obtain ⟨e', he', hp'⟩ : ∃ e', t.get? (loc ++ [n]) = some e' ∧ Entry.IsPlace e' := by
      by_cases hr : rest = []
      · exact ⟨e, by rwa [hr] at h, hp⟩
      · exact ⟨.dir, wf.get?_prefix h ⟨rest, happ.symm⟩ (by simpa using hr), trivial⟩
    rw [happ] at h
    rw [List.map_cons, walk_down t followLast links _ hdir hn he' hp', happ]
    exact walk_names wf followLast links h hp

/-- The path of a location leads to what stands there, if a path may be that long. -/
theorem resolveWith_pathOf {t : FileTree} (wf : t.WellFormed) (followLast : Bool) {loc : Location}
    {e : Entry} (h : t.get? loc = some e) (hp : Entry.IsPlace e) :
    t.resolveWith followLast (pathOf loc) =
      if maxPath < (pathOf loc).utf8ByteSize then .error .nameTooLong else .ok loc := by
  have hnames : ∀ n ∈ loc, IsName n := fun n hn => (wf.isName h n hn).1
  have hnul : (pathOf loc).toList.contains '\x00' = false := by
    simpa using no_nul_pathOf hnames
  have hne : pathOf loc ≠ "" := by simp [pathOf]
  have habs : Path.isAbsolute (pathOf loc) = true := Path.isAbsolute_append (by decide)
  have hwalk : t.walk followLast maxLinks [] (stepsOf (pathOf loc)) = .ok loc := by
    by_cases hl : loc = []
    · subst hl
      have hs : stepsOf (pathOf []) = [.here] := by decide
      rw [hs, walk_here t followLast _ _ rfl, walk_nil]
    · rw [stepsOf_pathOf hl hnames]
      exact walk_names wf followLast maxLinks h hp
  unfold resolveWith
  rw [hnul, if_neg (by simp), if_neg hne, habs, if_pos rfl, hwalk]

/-! ## Removing -/

theorem get?_of_remove {t : FileTree} {loc l : Location} {e : Entry}
    (h : (t.remove loc).get? l = some e) : t.get? l = some e := by
  by_cases hl : l = []
  · subst hl; exact h
  · rw [get?_remove t loc l hl] at h
    split at h
    · cases h
    · exact h

/-- What a smaller tree resolves, the larger one resolves to the same place. -/
theorem walk_remove {t : FileTree} {gone : Location} {followLast : Bool} {links : Nat}
    {loc r : Location} {todo : List Step}
    (h : (t.remove gone).walk followLast links loc todo = .ok r) :
    t.walk followLast links loc todo = .ok r := by
  induction links, loc, todo using walk_induction (t.remove gone) followLast with
  | done links loc => rwa [walk_nil] at h ⊢
  | notDir links loc s todo hd =>
    rw [walk_not_dir _ followLast links todo s hd] at h
    cases h
  | here links loc todo hd ih =>
    rw [walk_here _ followLast links todo hd] at h
    rw [walk_here _ followLast links todo (get?_of_remove hd)]
    exact ih h
  | up links loc todo hd ih =>
    rw [walk_up _ followLast links todo hd] at h
    rw [walk_up _ followLast links todo (get?_of_remove hd)]
    exact ih h
  | tooLong links loc name todo hd hn =>
    rw [walk_down_long _ followLast links todo hd hn] at h
    cases h
  | missing links loc name todo hd hn hget =>
    rw [walk_down_none _ followLast links todo hd hn hget] at h
    cases h
  | kept links loc name todo target hd hn hget hlast =>
    rw [walk_link_kept _ followLast links todo hd hn hget hlast] at h
    rwa [walk_link_kept _ followLast links todo (get?_of_remove hd) hn (get?_of_remove hget) hlast]
  | spent loc name todo target hd hn hget hlast =>
    rw [walk_link_spent _ followLast todo hd hn hget hlast] at h
    cases h
  | followed links loc name todo target hd hn hget hlast ih =>
    rw [walk_link _ followLast links todo hd hn hget hlast] at h
    rw [walk_link _ followLast links todo (get?_of_remove hd) hn (get?_of_remove hget) hlast]
    exact ih h
  | down links loc name todo e hd hn hget hp ih =>
    rw [walk_down _ followLast links todo hd hn hget hp] at h
    rw [walk_down _ followLast links todo (get?_of_remove hd) hn (get?_of_remove hget) hp]
    exact ih h

theorem resolve_remove {t : FileTree} {gone r : Location} {path : String}
    (h : (t.remove gone).resolve path = .ok r) : t.resolve path = .ok r := by
  unfold resolve resolveWith at h ⊢
  split at h
  · cases h
  · split at h
    · cases h
    · split at h
      · cases h
      · rename_i h₁ h₂ h₃
        rw [if_neg h₁, if_neg h₂, if_neg h₃]
        exact walk_remove h

/-! ## What is there -/

theorem find_eq {t : FileTree} {path : String} {loc : Location} {e : Entry}
    (h : t.resolve path = .ok loc) (he : t.get? loc = some e) : t.find path = .ok e := by
  simp only [find, h, bind, Except.bind, he]
  rfl

theorem exists_iff (t : FileTree) (path : String) :
    t.exists path = true ↔ ∃ loc e, t.resolve path = .ok loc ∧ t.get? loc = some e := by
  constructor
  · intro h
    cases hr : t.resolve path with
    | error cause => simp [«exists», find, hr, bind, Except.bind, Except.isOk, Except.toBool] at h
    | ok loc =>
      cases hg : t.get? loc with
      | none => simp [«exists», find, hr, hg, bind, Except.bind, Except.isOk, Except.toBool] at h
      | some e => exact ⟨loc, e, rfl, hg⟩
  · rintro ⟨loc, e, hr, hg⟩
    rw [«exists», find_eq hr hg]
    rfl

/-- Nothing leads any more to where a removed place was. -/
theorem exists_remove {t : FileTree} {path : String} {loc : Location} (hne : loc ≠ [])
    (h : t.resolve path = .ok loc) : (t.remove loc).exists path = false := by
  rw [Bool.eq_false_iff]
  intro hex
  obtain ⟨r, e, hr, hg⟩ := (exists_iff _ path).1 hex
  have hrl : r = loc := by
    have := resolve_remove hr
    rw [h] at this
    cases this
    rfl
  subst hrl
  rw [get?_remove t r r hne, if_pos (by simp)] at hg
  cases hg

end BuildGate.FileTree
