import BuildGate.Proofs.ComponentMatches
import BuildGate.Proofs.Selection
import BuildGate.Proofs.SpelledPaths

/-!
# The files that components lead to

From a directory the components of a pattern lead to the entries below it whose names they match one
by one. Components are looked up, found among the names of a directory or tried at every depth, but
each takes one name all the same, and `**` any number of them.

**Results.**
* `leadsFrom_matched`: what components lead to has names that they match.
* `mem_leadsFrom_matched`: they lead to whatever has such names.
* `mem_expand_matched`: the files that a pattern leads to.
-/
namespace BuildGate.Glob.Include

open FileTree

theorem literal?_eq_some {ts : List Include} {cs : List Char} (h : literal? ts = some cs) :
    ts = cs.map .char := by
  fun_induction literal? ts generalizing cs with
  | case1 => cases h; rfl
  | case2 c more ih =>
    obtain ⟨cs, hcs, rfl⟩ := Option.map_eq_some_iff.1 h
    rw [ih hcs]
    rfl
  | case3 => cases h

variable {t : FileTree} {fuel : Nat} {ascii : Bool} {ts : List Include}
  {comps more : List (List Include)} {path : String}

/-- A component that is looked up stands for a part of a path. -/
theorem Shared.isPart (h : Shared ascii (ts :: more)) {cs : List Char} (hl : literal? ts = some cs) :
    isRecursive ts = false ∧ Path.IsPart (String.ofList cs) ∧
      ∀ name : List Char, accepts ts name = true ↔ name = cs := by
  obtain rfl := literal?_eq_some hl
  have hword : isRecursive (cs.map Include.char) = false := by
    rw [isRecursive, beq_eq_false_iff_ne]
    intro heq
    rw [heq] at hl
    cases hl
  obtain ⟨hne, hspecial⟩ := h.names _ List.mem_cons_self
  have hno : ∀ c : List Char, c.head? = some '.' → String.ofList c ∈ ["..", "."] → cs ≠ c := by
    rintro c hhead hc rfl
    have := hspecial (by rw [List.head?_map, hhead]; rfl) _ hc
    rw [String.toList_ofList, Bool.eq_false_iff] at this
    exact this ((accepts_chars cs cs).2 rfl)
  refine ⟨hword, ⟨?_, ?_, ?_, ?_⟩, accepts_chars cs⟩
  · rintro heq
    obtain rfl : cs = [] := by simpa using heq
    exact hne rfl
  · intro heq
    exact hno ['.'] rfl (by decide) (by simpa using congrArg String.toList heq)
  · intro heq
    exact hno ['.', '.'] rfl (by decide) (by simpa using congrArg String.toList heq)
  · rw [String.toList_ofList]
    intro hmem
    exact h.tokens _ List.mem_cons_self hword (.char '/') (List.mem_map_of_mem hmem) rfl

theorem isName_of_isSome (wf : t.WellFormed) {loc : Location} {name : String}
    (h : (t.get? (loc ++ [name])).isSome) : IsName name := by
  obtain ⟨e, he⟩ := Option.isSome_iff_exists.1 h
  exact (wf.isName he name (by simp)).1

/-- A part that is looked up with success is a name. -/
theorem isName_of_lookUp (lf : t.LinkFree) (habs : Path.isAbsolute path = true) {seg : String}
    (hseg : Path.IsPart seg)
    (h : (seg = "." ∨ seg = "..") ∧ t.isDir path = true ∨
      ¬ (seg = "." ∨ seg = "..") ∧ t.hasEntry (Path.join path seg) = true) : IsName seg := by
  have hspecial : ¬ (seg = "." ∨ seg = "..") := by simp [hseg.ne_here, hseg.ne_up]
  obtain ⟨-, hentry⟩ := h.resolve_left fun hno => hspecial hno.1
  obtain ⟨loc, hloc⟩ := hasEntry_iff.1 hentry
  exact ⟨hseg, ((resolve_join lf habs hseg.no_slash).1 hloc).2.1⟩

/-! ## Two `**` -/

theorem visit_recursive_twice (onlyDirs : Bool) (p : Place) :
    visit t onlyDirs fuel (p, some ([.recursive] :: [.recursive] :: more)) =
      visit t onlyDirs fuel (p, some ([.recursive] :: more)) := by
  cases fuel with
  | zero => rfl
  | succ fuel =>
    have hlast : lastRecursive ([.recursive] :: [.recursive] :: more) =
        lastRecursive ([.recursive] :: more) := rfl
    have hrec : isRecursive [.recursive] = true := by decide
    unfold visit
    simp only [List.head?_cons, Option.any_some, hrec, if_true, hlast]

/-- Two `**` one behind the other lead where one does. -/
theorem mem_pathsFrom_recursive_twice (habs : Path.isAbsolute path = true) {x : String} :
    x ∈ pathsFrom t fuel ([.recursive] :: [.recursive] :: more) path ↔
      x ∈ pathsFrom t fuel ([.recursive] :: more) path := by
  rw [mem_pathsFrom_names (by rfl) (by simp) habs, mem_pathsFrom_names (by rfl) (by simp) habs]
  simp only [visit_recursive_twice]

/-! ## One component -/

/-- What `comps` lead to from `path`, or the path itself if there are none. -/
def leadsFrom (t : FileTree) (fuel : Nat) (comps : List (List Include)) (path : String) :
    List String :=
  if comps = [] then [path] else pathsFrom t fuel comps path

theorem leadsFrom_cons : leadsFrom t fuel (ts :: more) path = pathsFrom t fuel (ts :: more) path :=
  if_neg (List.cons_ne_nil _ _)

section
variable {x name : String} (habs : Path.isAbsolute path = true)
include habs

/-- A component that is looked up leads on from the part it stands for. -/
theorem pathsFrom_lookUp {cs : List Char} (hl : literal? ts = some cs) :
    pathsFrom t (fuel + 1) (ts :: more) path =
      if (String.ofList cs = "." ∨ String.ofList cs = "..") ∧ t.isDir path = true ∨
          ¬ (String.ofList cs = "." ∨ String.ofList cs = "..") ∧
            t.hasEntry (Path.join path (String.ofList cs)) = true
      then leadsFrom t (fuel + 1) more (Path.join path (String.ofList cs)) else [] := by
  rw [leadsFrom]
  by_cases hmore : more = []
  · rw [hmore, if_pos rfl]
    exact pathsFrom_literal_last hl habs
  · rw [if_neg hmore]
    exact pathsFrom_literal hl hmore habs

section
variable (wf : t.WellFormed) (lf : t.LinkFree)
include wf lf

/-- A component but `**` leads on from a name that it matches. -/
theorem exists_of_pathsFrom_word (h : Shared ascii (ts :: more)) (hts : isRecursive ts = false)
    (hx : x ∈ pathsFrom t fuel (ts :: more) path) :
    ∃ name fuel', fuel' ≤ fuel ∧ IsName name ∧ accepts ts name.toList = true ∧
      x ∈ leadsFrom t fuel' more (Path.join path name) := by
  cases fuel with
  | zero =>
    obtain ⟨_, -, hx⟩ := List.mem_flatMap.1 hx
    cases hx
  | succ fuel =>
    cases hl : literal? ts with
    | some cs =>
      obtain ⟨-, hpart, haccepts⟩ := h.isPart hl
      rw [pathsFrom_lookUp habs hl] at hx
      split at hx
      next hfound =>
        refine ⟨String.ofList cs, fuel + 1, Nat.le_refl _, isName_of_lookUp lf habs hpart hfound,
          ?_, hx⟩
        rw [haccepts, String.toList_ofList]
      · cases hx
    | none =>
      obtain ⟨loc, name, -, -, hsome, hx⟩ :=
        (mem_pathsFrom_names hl (h.names ts List.mem_cons_self).2 habs).1 hx
      have hname := isName_of_isSome wf hsome
      rw [visit_name hts habs hname] at hx
      split at hx
      next ha => exact ⟨name, fuel, Nat.le_succ _, hname, ha, hx⟩
      · cases hx

/-- It leads on from each name that it matches and that is there. -/
theorem mem_pathsFrom_word (h : Shared ascii (ts :: more)) (hts : isRecursive ts = false)
    (hname : IsName name) (ha : accepts ts name.toList = true) {loc : Location}
    (hr : t.resolve (Path.join path name) = .ok loc)
    (hx : ∀ fuel', fuel ≤ fuel' → x ∈ leadsFrom t fuel' more (Path.join path name)) :
    x ∈ pathsFrom t (fuel + 1) (ts :: more) path := by
  cases hl : literal? ts with
  | some cs =>
    obtain ⟨-, -, haccepts⟩ := h.isPart hl
    obtain rfl := (haccepts _).1 ha
    have hfound := lookUp_of_resolve lf habs hname.no_slash hr
    rw [pathsFrom_lookUp habs hl, String.ofList_toList, if_pos hfound]
    exact hx (fuel + 1) (Nat.le_succ _)
  | none =>
    obtain ⟨dir, hdir, hg, hsome, -⟩ := (resolve_join_name lf wf habs hname).1 hr
    refine (mem_pathsFrom_names hl (h.names ts List.mem_cons_self).2 habs).2
      ⟨dir, name, hdir, hg, hsome, ?_⟩
    rw [visit_name hts habs hname, if_pos ha]
    exact hx fuel (Nat.le_refl _)

end

section
variable {us : List Include} (hus : isRecursive us = false)
include hus

/-- Two stars lead on from a name that the component behind them matches, or into a directory. -/
theorem exists_of_pathsFrom_recursive (wf : t.WellFormed)
    (hx : x ∈ pathsFrom t fuel ([.recursive] :: us :: more) path) :
    ∃ name fuel', fuel' < fuel ∧ IsName name ∧
      (accepts us name.toList = true ∧ x ∈ leadsFrom t fuel' more (Path.join path name) ∨
        x ∈ pathsFrom t fuel' ([.recursive] :: us :: more) (Path.join path name)) := by
  cases fuel with
  | zero =>
    obtain ⟨_, -, hx⟩ := List.mem_flatMap.1 hx
    cases hx
  | succ fuel =>
    obtain ⟨loc, name, -, -, hsome, hx⟩ := (mem_pathsFrom_names (by rfl) (by simp) habs).1 hx
    have hname := isName_of_isSome wf hsome
    rw [visit_recursive hus habs hname, List.mem_append] at hx
    refine ⟨name, fuel, Nat.lt_succ_self _, hname, hx.imp (fun hx => ?_) fun hx => ?_⟩
    · split at hx
      next ha => exact ⟨ha, hx⟩
      · cases hx
    · split at hx
      · exact hx
      · cases hx

/-- They lead on from each of these that is there. -/
theorem mem_pathsFrom_of_recursive (wf : t.WellFormed) (lf : t.LinkFree) (hname : IsName name)
    {loc : Location} (hr : t.resolve (Path.join path name) = .ok loc)
    (hx : accepts us name.toList = true ∧ x ∈ leadsFrom t fuel more (Path.join path name) ∨
      t.get? loc = some .dir ∧
        x ∈ pathsFrom t fuel ([.recursive] :: us :: more) (Path.join path name)) :
    x ∈ pathsFrom t (fuel + 1) ([.recursive] :: us :: more) path := by
  obtain ⟨dir, hdir, hg, hsome, -⟩ := (resolve_join_name lf wf habs hname).1 hr
  refine (mem_pathsFrom_names (by rfl) (by simp) habs).2 ⟨dir, name, hdir, hg, hsome, ?_⟩
  rw [visit_recursive hus habs hname, List.mem_append]
  refine hx.imp (fun hx => ?_) fun hx => ?_
  · rw [if_pos hx.1]
    exact hx.2
  · rw [if_pos (isDir_iff.2 ⟨loc, hr, hx.1⟩)]
    exact hx.2

end

end

/-! ## All of them -/

/-- A component that matches a name in front of names that others match. -/
theorem matched_cons {name : String} {names : List String} (ha : accepts ts name.toList = true)
    (hm : Matched OneName more (names.map String.toList)) :
    Matched OneName (ts :: more) ((name :: names).map String.toList) :=
  ⟨[name.toList], names.map String.toList, rfl, fun _ => ⟨name.toList, rfl, ha⟩, hm⟩

section
variable (wf : t.WellFormed) (lf : t.LinkFree)
include wf lf

/-- What components lead to has names that they match one by one. -/
theorem leadsFrom_matched (h : Shared ascii comps) (habs : Path.isAbsolute path = true) {x : String}
    (hx : x ∈ leadsFrom t fuel comps path) :
    ∃ names, x = Path.joinAll path names ∧ (∀ n ∈ names, IsName n) ∧
      Matched OneName comps (names.map String.toList) := by
  -- Each step uses up a component or goes one level down.
  induction hn : fuel + comps.length using Nat.strong_induction_on
    generalizing fuel comps path with
  | _ n ih =>
    subst hn
    cases comps with
    | nil =>
      rw [leadsFrom, if_pos rfl] at hx
      exact ⟨[], List.mem_singleton.1 hx, by simp, rfl⟩
    | cons ts more =>
      rw [leadsFrom_cons] at hx
      by_cases hts : isRecursive ts = true
      · have hno : isRecursive ts = false → ∀ {p : Prop}, p := fun hno => by simp [hts] at hno
        obtain rfl : ts = [.recursive] := beq_iff_eq.1 hts
        obtain ⟨us, rest, rfl⟩ := List.exists_cons_of_ne_nil (h.ne_nil_of_recursive hts)
        by_cases hus : isRecursive us = true
        · obtain rfl : us = [.recursive] := beq_iff_eq.1 hus
          rw [mem_pathsFrom_recursive_twice habs, ← leadsFrom_cons] at hx
          obtain ⟨names, rfl, hnames, hm⟩ := ih _ (by simp) h.of_cons habs hx rfl
          exact ⟨names, rfl, hnames, (matched_recursive_twice hts hus).2 hm⟩
        · obtain ⟨name, fuel', hfuel, hname, hx⟩ :=
            exists_of_pathsFrom_recursive habs (by simpa using hus) wf hx
          have habs' := Path.isAbsolute_join habs name
          rcases hx with ⟨ha, hx⟩ | hx
          · obtain ⟨names, rfl, hnames, hm⟩ := ih _ (by simp; omega) h.of_cons.of_cons habs' hx rfl
            exact ⟨name :: names, rfl, List.forall_mem_cons.2 ⟨hname, hnames⟩, [], _, rfl,
              fun hts => hno hts, matched_cons ha hm⟩
          · rw [← leadsFrom_cons] at hx
            obtain ⟨names, rfl, hnames, front, back, heq, -, hm⟩ :=
              ih _ (by simp; omega) h habs' hx rfl
            exact ⟨name :: names, rfl, List.forall_mem_cons.2 ⟨hname, hnames⟩,
              name.toList :: front, back, by rw [List.map_cons, heq]; rfl, fun hts => hno hts, hm⟩
      · obtain ⟨name, fuel', hfuel, hname, ha, hx⟩ :=
          exists_of_pathsFrom_word habs wf lf h (by simpa using hts) hx
        obtain ⟨names, rfl, hnames, hm⟩ :=
          ih _ (by simp; omega) h.of_cons (Path.isAbsolute_join habs name) hx rfl
        exact ⟨name :: names, rfl, List.forall_mem_cons.2 ⟨hname, hnames⟩, matched_cons ha hm⟩

/-- They lead to whatever has such names. -/
theorem mem_leadsFrom_matched (h : Shared ascii comps) (habs : Path.isAbsolute path = true)
    {names : List String} (hnames : ∀ n ∈ names, IsName n)
    (hm : Matched OneName comps (names.map String.toList)) {loc : Location}
    (hr : t.resolve (Path.joinAll path names) = .ok loc) (hfuel : names.length ≤ fuel) :
    Path.joinAll path names ∈ leadsFrom t fuel comps path := by
  induction names generalizing fuel comps path with
  | nil =>
    have hcomps : comps = [] := by
      by_contra hne
      exact h.ne_nil_of_matched hne (hm.mono fun _ _ hone => hone.across) rfl
    rw [hcomps, leadsFrom, if_pos rfl]
    exact List.mem_singleton_self _
  | cons name names ih =>
    rw [List.forall_mem_cons] at hnames
    obtain ⟨fuel, rfl⟩ := Nat.exists_eq_add_of_le' (Nat.le_trans (Nat.le_add_left 1 _) hfuel)
    have hfuel : names.length ≤ fuel := by simpa using hfuel
    have habs' := Path.isAbsolute_join habs name
    obtain ⟨dir, hdir, hisDir⟩ := resolve_of_joinAll lf habs'
      (fun n hn => (hnames.2 n hn).no_slash) hr
    -- Where `**` stands twice only the components change.
    induction comps with
    | nil => cases hm
    | cons ts more ihmore =>
      rw [leadsFrom_cons]
      obtain ⟨front, back, hcut, hts, hmback⟩ := id hm
      by_cases hrec : isRecursive ts = true
      · obtain rfl : ts = [.recursive] := beq_iff_eq.1 hrec
        obtain ⟨us, rest, rfl⟩ := List.exists_cons_of_ne_nil (h.ne_nil_of_recursive hrec)
        by_cases hus : isRecursive us = true
        · obtain rfl : us = [.recursive] := beq_iff_eq.1 hus
          rw [mem_pathsFrom_recursive_twice habs, ← leadsFrom_cons]
          exact ihmore h.of_cons ((matched_recursive_twice hrec hus).1 hm)
        · have hus : isRecursive us = false := by simpa using hus
          refine mem_pathsFrom_of_recursive habs hus wf lf hnames.1 hdir ?_
          cases front with
          | nil =>
            obtain ⟨front, back, rfl, hone, hm⟩ := hmback
            obtain ⟨n, rfl, ha⟩ := hone hus
            obtain ⟨rfl, rfl⟩ := List.cons.inj hcut
            exact .inl ⟨ha, ih h.of_cons.of_cons habs' hnames.2 hm hr hfuel⟩
          | cons n front =>
            have hcut := (List.cons.inj hcut).2
            have hback : back ≠ [] := h.of_cons.ne_nil_of_matched (List.cons_ne_nil _ _)
              (hmback.mono fun _ _ hone => hone.across)
            have hne : names ≠ [] := by
              rintro rfl
              exact hback (List.append_eq_nil_iff.1 hcut.symm).2
            refine .inr ⟨hisDir hne, ?_⟩
            rw [← leadsFrom_cons]
            exact ih h habs' hnames.2
              ⟨front, back, hcut, fun hno => by simp [hrec] at hno, hmback⟩ hr hfuel
      · obtain ⟨n, rfl, ha⟩ := hts (by simpa using hrec)
        obtain ⟨rfl, rfl⟩ := List.cons.inj hcut
        exact mem_pathsFrom_word habs wf lf h (by simpa using hrec) hnames.1 ha hdir
          fun fuel' hle => ih h.of_cons habs' hnames.2 hmback hr (Nat.le_trans hfuel hle)

/-- The files that a pattern of components leads to below a root. -/
theorem mem_expand_matched (h : Shared ascii comps) (hne : comps ≠ []) (root : String) {x : String}
    (hx : t.isFile x = true) :
    x ∈ Selector.expand t ⟨"/", (rootPieces root).map (·.map literalToken) ++ comps, false⟩ ↔
      ∃ names, x = Path.joinAll (rootPath root) names ∧ (∀ n ∈ names, IsName n) ∧
        Matched OneName comps (names.map String.toList) := by
  have hroot := standsFor_rootPieces root
  have habs := isAbsolute_rootPath root
  have hleads : ∀ fuel, leadsFrom t fuel comps (rootPath root) =
      pathsFrom t fuel comps (rootPath root) := fun fuel => if_neg hne
  rw [Selector.expand]
  change x ∈ pathsFrom t _ _ "/" ↔ _
  constructor
  · intro hmem
    obtain ⟨fuel, hmem⟩ := pathsFrom_standsFor_all wf hroot hne (by decide) hmem
    rw [← rootPath, ← hleads] at hmem
    exact leadsFrom_matched wf lf h habs hmem
  · rintro ⟨names, rfl, hnames, hm⟩
    obtain ⟨loc, bytes, hr, hg⟩ := isFile_iff.1 hx
    obtain ⟨dir, hdir, rfl⟩ := resolve_joinAll_names lf wf habs hnames hr
    obtain ⟨k, hk, hmem⟩ := mem_pathsFrom_standsFor_all wf lf hroot hne (by decide)
      (no_slash_rootPieces root) hdir
    rw [← rootPath] at hmem
    -- The names are no more than the entries, and each component of the root takes one level at most.
    have hdepth := length_le wf hg
    have hentries : t.entries.length + 1 ≤ (maxLinks + 1) * (t.entries.length + 1) :=
      Nat.le_mul_of_pos_left _ (by decide)
    simp only [List.length_append, List.length_map] at hk hdepth ⊢
    generalize hD : (rootPieces root).length + comps.length +
      (maxLinks + 1) * (t.entries.length + 1) + 1 = depth
    obtain ⟨fuel, rfl⟩ := Nat.exists_eq_add_of_le' (show k ≤ depth by omega)
    refine hmem fuel _ ?_
    rw [← hleads]
    exact mem_leadsFrom_matched wf lf h habs hnames hm hr (by omega)

end

end BuildGate.Glob.Include
