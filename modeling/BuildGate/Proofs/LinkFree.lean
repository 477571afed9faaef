import BuildGate.Proofs.Resolution

/-!
# Trees without links

Where no entry is a link, each step of a resolution is taken by itself, and what a path with one more
part leads to depends on what the path before led to. A path resolves step by step, so everything in
front of a part that is found is a directory.

**Results.**
* `walk_linkFree`: a resolution is a fold over its steps.
* `resolve_join`: what a path with one more part leads to.
* `resolve_join_name`: where that part is a name.
-/
namespace BuildGate.FileTree

instance : DecidablePred Entry.IsPlace
  | .dir | .file _ => isTrue trivial
  | .link _ => isFalse id

/-- No entry is a link. -/
def LinkFree (t : FileTree) : Prop := ∀ e ∈ t.entries, Entry.IsPlace e.2

instance (t : FileTree) : Decidable t.LinkFree := inferInstanceAs (Decidable (∀ _ ∈ _, _))

theorem LinkFree.isPlace {t : FileTree} (lf : t.LinkFree) {loc : Location} {e : Entry}
    (h : t.get? loc = some e) : Entry.IsPlace e := by
  by_cases hne : loc = []
  · subst hne
    cases h
    trivial
  · exact lf _ (mem_of_get? hne h)

/-! ## Steps -/

/-- One step of `walk` that meets no link. -/
def stepTo (t : FileTree) (loc : Location) (s : Step) : Except IoFault Location :=
  if t.get? loc ≠ some .dir then .error .notADirectory
  else
    match s with
    | .here => .ok loc
    | .up => .ok loc.dropLast
    | .down name =>
      if maxName < name.utf8ByteSize then .error .nameTooLong
      else if t.get? (loc ++ [name]) = none then .error .notFound
      else .ok (loc ++ [name])

theorem stepTo_not_dir {t : FileTree} {loc : Location} (h : t.get? loc ≠ some .dir) (s : Step) :
    t.stepTo loc s = .error .notADirectory := if_pos h

theorem stepTo_here {t : FileTree} {loc r : Location} :
    t.stepTo loc .here = .ok r ↔ t.get? loc = some .dir ∧ r = loc := by
  unfold stepTo
  by_cases h : t.get? loc = some .dir
  · simp [h, eq_comm]
  · simp [h]

theorem stepTo_down {t : FileTree} {loc r : Location} {name : String} :
    t.stepTo loc (.down name) = .ok r ↔ t.get? loc = some .dir ∧ name.utf8ByteSize ≤ maxName ∧
      (t.get? (loc ++ [name])).isSome ∧ r = loc ++ [name] := by
  unfold stepTo
  by_cases h : t.get? loc = some .dir
  · by_cases hn : maxName < name.utf8ByteSize
    · simp [h, hn, Nat.not_le.2 hn]
    · cases hg : t.get? (loc ++ [name]) <;> simp [h, hn, hg, Nat.not_lt.1 hn, eq_comm]
  · simp [h]

theorem stepTo_dir {t : FileTree} {loc r : Location} {s : Step} (h : t.stepTo loc s = .ok r) :
    t.get? loc = some .dir := by
  unfold stepTo at h
  split at h
  · cases h
  · exact Decidable.not_not.1 ‹_›

theorem walk_linkFree {t : FileTree} (lf : t.LinkFree) (followLast : Bool) (links : Nat)
    (loc : Location) (todo : List Step) :
    t.walk followLast links loc todo = todo.foldlM t.stepTo loc := by
  induction todo generalizing loc with
  | nil => exact walk_nil t followLast links
  | cons s todo ih =>
    rw [List.foldlM_cons]
    by_cases hd : t.get? loc = some .dir
    · cases s with
      | here =>
        rw [walk_here t followLast links todo hd, stepTo_here.2 ⟨hd, rfl⟩]
        exact ih loc
      | up =>
        rw [walk_up t followLast links todo hd, stepTo, if_neg (not_not_intro hd)]
        exact ih loc.dropLast
      | down name =>
        by_cases hn : maxName < name.utf8ByteSize
        · rw [walk_down_long t followLast links todo hd hn, stepTo, if_neg (not_not_intro hd)]
          simp only [if_pos hn]
          rfl
        · cases hg : t.get? (loc ++ [name]) with
          | none =>
            rw [walk_down_none t followLast links todo hd (Nat.not_lt.1 hn) hg, stepTo,
              if_neg (not_not_intro hd)]
            simp only [if_neg hn, hg, if_true]
            rfl
          | some e =>
            rw [walk_down t followLast links todo hd (Nat.not_lt.1 hn) hg (lf.isPlace hg),
              stepTo_down.2 ⟨hd, Nat.not_lt.1 hn, by rw [hg]; rfl, rfl⟩]
            exact ih (loc ++ [name])
    · rw [walk_not_dir t followLast links todo s hd, stepTo_not_dir hd]
      rfl

/-! ## Paths with one more part -/

/-- The step that `segment` asks for; an empty one at the end of a path asks for a directory. -/
def stepFor (segment : String) : Step := (stepOf segment).getD .here

theorem stepFor_name {n : String} (h : IsName n) : stepFor n = .down n := by
  rw [stepFor, stepOf_name h]
  rfl

theorem stepOf_isSome {seg : String} (h : seg ≠ "") : stepOf seg = some (stepFor seg) := by
  unfold stepFor stepOf
  rw [if_neg h]
  split
  · rfl
  · split <;> rfl

theorem getLast?_join_of_no_slash {base seg : String} (hne : seg ≠ "") (hseg : '/' ∉ seg.toList) :
    (Path.join base seg).toList.getLast? ≠ some '/' := by
  rw [Path.join_relative (Path.isAbsolute_of_no_slash hseg)]
  exact Path.getLast?_append_no_slash _ hne hseg

theorem getLast?_join_empty {base : String} (hne : base ≠ "") :
    (Path.join base "").toList.getLast? = some '/' := by
  unfold Path.join
  rw [if_neg (by decide)]
  split
  · rename_i h
    rcases h with h | h
    · exact absurd (String.isEmpty_iff.1 h) hne
    · rwa [String.append_empty]
  · simp

theorem stepsOf_join {base seg : String} (habs : Path.isAbsolute base = true)
    (hseg : '/' ∉ seg.toList) :
    stepsOf (Path.join base seg) = (Path.segments base).filterMap stepOf ++ [stepFor seg] := by
  have hbase : base ≠ "" := by rintro rfl; cases habs
  rw [stepsOf, Path.filterMap_segments_join stepOf (by rfl) base (Path.isAbsolute_of_no_slash hseg),
    Path.segments_of_no_slash hseg, List.append_assoc]
  by_cases hne : seg = ""
  · subst hne
    rw [if_pos (getLast?_join_empty hbase)]
    rfl
  · rw [if_neg (getLast?_join_of_no_slash hne hseg), List.append_nil, List.filterMap_cons,
      stepOf_isSome hne]
    rfl

theorem resolveWith_iff {t : FileTree} {followLast : Bool} {path : String} {r : Location}
    (habs : Path.isAbsolute path = true) :
    t.resolveWith followLast path = .ok r ↔ '\x00' ∉ path.toList ∧
      path.utf8ByteSize ≤ maxPath ∧ t.walk followLast maxLinks [] (stepsOf path) = .ok r := by
  have hne : path ≠ "" := by rintro rfl; cases habs
  unfold resolveWith
  by_cases hnul : '\x00' ∈ path.toList
  · simp [hnul]
  · by_cases hlong : maxPath < path.utf8ByteSize
    · simp [hnul, hne, hlong, Nat.not_le.2 hlong]
    · simp [hnul, hne, hlong, Nat.not_lt.1 hlong, habs]

theorem bind_eq_ok {ε α β : Type} {x : Except ε α} {f : α → Except ε β} {b : β} :
    x >>= f = .ok b ↔ ∃ a, x = .ok a ∧ f a = .ok b := by
  cases x with
  | error e => simp [bind, Except.bind]
  | ok a => simp [bind, Except.bind]

/-- A path leads where its parts lead, to a directory if it ends in a slash. -/
theorem walk_stepsOf {t : FileTree} (lf : t.LinkFree) {path : String} {followLast : Bool}
    {links : Nat} {loc : Location} :
    t.walk followLast links [] (stepsOf path) = .ok loc ↔
      ((Path.segments path).filterMap stepOf).foldlM t.stepTo [] = .ok loc ∧
        (path.toList.getLast? = some '/' → t.get? loc = some .dir) := by
  rw [walk_linkFree lf, stepsOf, List.foldlM_append]
  by_cases hl : path.toList.getLast? = some '/'
  · rw [if_pos hl, bind_eq_ok]
    constructor
    · rintro ⟨a, ha, hs⟩
      rw [List.foldlM_cons, bind_eq_ok] at hs
      obtain ⟨b, hb, hs⟩ := hs
      obtain ⟨hd, rfl⟩ := stepTo_here.1 hb
      cases hs
      exact ⟨ha, fun _ => hd⟩
    · rintro ⟨ha, hd⟩
      exact ⟨loc, ha, by rw [List.foldlM_cons, stepTo_here.2 ⟨hd hl, rfl⟩]; rfl⟩
  · rw [if_neg hl, bind_eq_ok]
    constructor
    · rintro ⟨a, ha, hs⟩
      cases hs
      exact ⟨ha, fun h => absurd h hl⟩
    · rintro ⟨ha, -⟩
      exact ⟨loc, ha, rfl⟩

/-- What a path with one more part leads to. -/
theorem resolve_join {t : FileTree} (lf : t.LinkFree) {base seg : String}
    (habs : Path.isAbsolute base = true) (hseg : '/' ∉ seg.toList) {followLast : Bool}
    {r : Location} :
    t.resolveWith followLast (Path.join base seg) = .ok r ↔
      (∃ loc, t.resolve base = .ok loc ∧ t.stepTo loc (stepFor seg) = .ok r) ∧
        '\x00' ∉ seg.toList ∧ (Path.join base seg).utf8ByteSize ≤ maxPath := by
  have hwalk : t.walk followLast maxLinks [] (stepsOf (Path.join base seg)) = .ok r ↔
      ∃ loc, ((Path.segments base).filterMap stepOf).foldlM t.stepTo [] = .ok loc ∧
        t.stepTo loc (stepFor seg) = .ok r := by
    rw [walk_linkFree lf, stepsOf_join habs hseg, List.foldlM_append, bind_eq_ok]
    refine exists_congr fun loc => and_congr_right fun _ => ?_
    rw [List.foldlM_cons]
    cases t.stepTo loc (stepFor seg) <;> simp [bind, Except.bind, pure, Except.pure]
  have hjoin := Path.join_relative (Path.isAbsolute_of_no_slash hseg) base
  have hnul : '\x00' ∉ (Path.join base seg).toList ↔
      '\x00' ∉ base.toList ∧ '\x00' ∉ seg.toList := by
    have hmid : '\x00' ∉ (Path.separator base).toList := by
      unfold Path.separator
      split <;> decide
    simp [hjoin, hmid]
  have hsize : base.utf8ByteSize ≤ (Path.join base seg).utf8ByteSize := by
    rw [hjoin, String.utf8ByteSize_append, String.utf8ByteSize_append]
    omega
  rw [resolveWith_iff (Path.isAbsolute_join habs seg), hwalk, hnul]
  constructor
  · rintro ⟨⟨hb, hs⟩, hlong, loc, hloc, hstep⟩
    refine ⟨⟨loc, ?_, hstep⟩, hs, hlong⟩
    exact (resolveWith_iff habs).2 ⟨hb, Nat.le_trans hsize hlong,
      (walk_stepsOf lf).2 ⟨hloc, fun _ => stepTo_dir hstep⟩⟩
  · rintro ⟨⟨loc, hloc, hstep⟩, hs, hlong⟩
    obtain ⟨hb, -, hw⟩ := (resolveWith_iff habs).1 hloc
    exact ⟨⟨hb, hs⟩, hlong, loc, ((walk_stepsOf lf).1 hw).1, hstep⟩

/-- What a path with one more name leads to. -/
theorem resolve_join_name {t : FileTree} (lf : t.LinkFree) (wf : t.WellFormed) {base n : String}
    (habs : Path.isAbsolute base = true) (hn : IsName n) {followLast : Bool} {r : Location} :
    t.resolveWith followLast (Path.join base n) = .ok r ↔
      ∃ loc, t.resolve base = .ok loc ∧ t.get? loc = some .dir ∧ (t.get? (loc ++ [n])).isSome ∧
        r = loc ++ [n] ∧ (Path.join base n).utf8ByteSize ≤ maxPath := by
  rw [resolve_join lf habs hn.no_slash, stepFor_name hn]
  constructor
  · rintro ⟨⟨loc, hloc, hstep⟩, -, hlong⟩
    obtain ⟨hdir, -, hsome, rfl⟩ := stepTo_down.1 hstep
    exact ⟨loc, hloc, hdir, hsome, rfl, hlong⟩
  · rintro ⟨loc, hloc, hdir, hsome, rfl, hlong⟩
    obtain ⟨e, he⟩ := Option.isSome_iff_exists.1 hsome
    exact ⟨⟨loc, hloc, stepTo_down.2 ⟨hdir, (wf.isName he n (by simp)).2, hsome, rfl⟩⟩,
      hn.no_nul, hlong⟩

/-- Whatever stands in front of a path that resolves does so too, as a directory. -/
theorem resolve_of_joinAll {t : FileTree} (lf : t.LinkFree) {segs : List String} {base : String}
    (habs : Path.isAbsolute base = true) (hsegs : ∀ s ∈ segs, '/' ∉ s.toList) {r : Location}
    (h : t.resolve (Path.joinAll base segs) = .ok r) :
    ∃ loc, t.resolve base = .ok loc ∧ (segs ≠ [] → t.get? loc = some .dir) := by
  induction segs generalizing base with
  | nil => exact ⟨r, h, fun hne => absurd rfl hne⟩
  | cons seg segs ih =>
    obtain ⟨loc, hloc, -⟩ := ih (Path.isAbsolute_join habs seg)
      (fun s hs => hsegs s (List.mem_cons_of_mem _ hs)) h
    obtain ⟨⟨loc', hloc', hstep⟩, -⟩ := (resolve_join lf habs (hsegs seg List.mem_cons_self)).1 hloc
    exact ⟨loc', hloc', fun _ => stepTo_dir hstep⟩

end BuildGate.FileTree
