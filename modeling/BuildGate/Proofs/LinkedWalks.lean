import BuildGate.Proofs.DirectSteps

/-!
# Steps behind others

What a resolution does with the steps at its end depends on where those in front of them have led, and
on the links that are left to follow. Where nothing is a link any more, it goes step by step. So behind
a directory whose content has no links it does not matter on which way one has come there.

**Results.**
* `walk_append`: steps behind others start where these have led.
* `walk_within`: a resolution in a directory whose content has no links.
* `resolve_front`: what stands in front of a part of a path that resolves.
* `not_isFile_special`: no file is at a path that ends in `.` or `..`.
* `resolveWith_join_within`: what a part leads to behind a path into such a directory.
-/
namespace BuildGate.FileTree

section
variable (t : FileTree)

/-- Steps behind others start where these have led, with the links that are left. -/
theorem walk_append (links : Nat) (loc : Location) (front : List Step) :
    (∃ r left, t.walk true links loc front = .ok r ∧ ∀ followLast back,
      back ≠ [] ∨ followLast = true →
        t.walk followLast links loc (front ++ back) = t.walk followLast left r back) ∨
    ∃ cause, t.walk true links loc front = .error cause ∧ ∀ followLast back,
      back ≠ [] ∨ followLast = true → t.walk followLast links loc (front ++ back) = .error cause := by
  -- A link that comes last in front is followed: either more comes behind it, or it is asked for.
  have hfollowed : ∀ {followLast : Bool} {todo back : List Step}, back ≠ [] ∨ followLast = true →
      ¬ (todo ++ back = [] ∧ followLast = false) := by
    rintro followLast todo back hor ⟨hnil, hno⟩
    rcases hor with hback | hyes
    · exact hback (List.append_eq_nil_iff.1 hnil).2
    · rw [hno] at hyes
      cases hyes
  induction links, loc, front using walk_induction t true with
  | done links loc => exact .inl ⟨loc, links, walk_nil t true links, fun _ _ _ => rfl⟩
  | notDir links loc s todo hd =>
    exact .inr ⟨_, walk_not_dir t true links todo s hd, fun followLast back _ =>
      walk_not_dir t followLast links (todo ++ back) s hd⟩
  | here links loc todo hd ih =>
    rw [walk_here t true links todo hd]
    simpa only [List.cons_append, walk_here t _ links _ hd] using ih
  | up links loc todo hd ih =>
    rw [walk_up t true links todo hd]
    simpa only [List.cons_append, walk_up t _ links _ hd] using ih
  | tooLong links loc name todo hd hn =>
    exact .inr ⟨_, walk_down_long t true links todo hd hn, fun followLast back _ =>
      walk_down_long t followLast links (todo ++ back) hd hn⟩
  | missing links loc name todo hd hn hget =>
    exact .inr ⟨_, walk_down_none t true links todo hd hn hget, fun followLast back _ =>
      walk_down_none t followLast links (todo ++ back) hd hn hget⟩
  | kept links loc name todo target hd hn hget hlast => cases hlast.2
  | spent loc name todo target hd hn hget hlast =>
    exact .inr ⟨_, walk_link_spent t true todo hd hn hget hlast, fun followLast back hor =>
      walk_link_spent t followLast (todo ++ back) hd hn hget (hfollowed hor)⟩
  | followed links loc name todo target hd hn hget hlast ih =>
    rw [walk_link t true links todo hd hn hget hlast]
    have hlinked : ∀ {followLast : Bool} {back : List Step}, back ≠ [] ∨ followLast = true →
        t.walk followLast (links + 1) loc (.down name :: todo ++ back) =
          t.walk followLast links (if Path.isAbsolute target then [] else loc)
            (stepsOf target ++ todo ++ back) := by
      intro followLast back hor
      rw [List.cons_append, walk_link t followLast links (todo ++ back) hd hn hget (hfollowed hor),
        List.append_assoc]
    rcases ih with ⟨r, left, hr, hback⟩ | ⟨cause, hcause, hback⟩
    · exact .inl ⟨r, left, hr, fun followLast back hor =>
        (hlinked hor).trans (hback followLast back hor)⟩
    · exact .inr ⟨cause, hcause, fun followLast back hor =>
        (hlinked hor).trans (hback followLast back hor)⟩
  | down links loc name todo e hd hn hget hp ih =>
    rw [walk_down t true links todo hd hn hget hp]
    simpa only [List.cons_append, walk_down t _ links _ hd hn hget hp] using ih

end

variable {t : FileTree}

/-- Where a resolution ends, it ends with a step that stays behind it if a directory is there. -/
theorem walk_front {links : Nat} {loc r : Location} {front back : List Step} {followLast : Bool}
    (hback : back ≠ []) (h : t.walk followLast links loc (front ++ back) = .ok r) :
    ∃ dir left, t.walk true links loc front = .ok dir ∧ t.get? dir = some .dir ∧
      ∀ followLast more, more ≠ [] ∨ followLast = true →
        t.walk followLast links loc (front ++ more) = t.walk followLast left dir more := by
  rcases t.walk_append links loc front with ⟨dir, left, hdir, hmore⟩ | ⟨cause, -, hmore⟩
  · refine ⟨dir, left, hdir, ?_, hmore⟩
    obtain ⟨s, back, rfl⟩ := List.exists_cons_of_ne_nil hback
    rw [hmore followLast _ (.inl hback)] at h
    by_contra hd
    rw [walk_not_dir t followLast left back s hd] at h
    cases h
  · rw [hmore followLast back (.inl hback)] at h
    cases h

/-- In a directory whose content has no links a resolution goes step by step, unless it leaves it. -/
theorem walk_within {base : Location} (hplain : ∀ rel e, t.get? (base ++ rel) = some e → Entry.IsPlace e)
    (followLast : Bool) (links : Nat) (rel : Location) {todo : List Step} (hup : .up ∉ todo) :
    t.walk followLast links (base ++ rel) todo = todo.foldlM t.stepTo (base ++ rel) := by
  induction todo generalizing rel with
  | nil => exact walk_nil t followLast links
  | cons s todo ih =>
    obtain ⟨hs, hmore⟩ := not_or.1 (mt List.mem_cons.2 hup)
    rw [List.foldlM_cons]
    by_cases hd : t.get? (base ++ rel) = some .dir
    · cases s with
      | here =>
        rw [walk_here t followLast links todo hd, stepTo_here.2 ⟨hd, rfl⟩]
        exact ih rel hmore
      | up => exact absurd rfl hs
      | down name =>
        by_cases hn : maxName < name.utf8ByteSize
        · rw [walk_down_long t followLast links todo hd hn, stepTo, if_neg (not_not_intro hd)]
          simp only [if_pos hn]
          rfl
        · cases hg : t.get? (base ++ rel ++ [name]) with
          | none =>
            rw [walk_down_none t followLast links todo hd (Nat.not_lt.1 hn) hg, stepTo,
              if_neg (not_not_intro hd)]
            simp only [if_neg hn, hg, if_true]
            rfl
          | some e =>
            have hp := hplain (rel ++ [name]) e (by rw [← List.append_assoc, hg])
            rw [walk_down t followLast links todo hd (Nat.not_lt.1 hn) hg hp,
              stepTo_down.2 ⟨hd, Nat.not_lt.1 hn, by rw [hg]; rfl, rfl⟩, List.append_assoc]
            exact ih (rel ++ [name]) hmore
    · rw [walk_not_dir t followLast links todo s hd, stepTo_not_dir hd]
      rfl

/-! ## Paths with one more part -/

/-- A last step that leads somewhere leads somewhere too if links at the end are kept. -/
theorem walk_last {links : Nat} {dir r : Location} {s : Step} (h : t.walk true links dir [s] = .ok r) :
    (∃ r', t.walk false links dir [s] = .ok r') ∧
      ∀ name, s = .down name → (t.get? (dir ++ [name])).isSome := by
  have hd : t.get? dir = some .dir := by
    by_contra hd
    rw [walk_not_dir t true links [] s hd] at h
    cases h
  cases s with
  | here => exact ⟨⟨dir, by rw [walk_here t false links [] hd, walk_nil]⟩, nofun⟩
  | up => exact ⟨⟨dir.dropLast, by rw [walk_up t false links [] hd, walk_nil]⟩, nofun⟩
  | down name =>
    by_cases hn : maxName < name.utf8ByteSize
    · rw [walk_down_long t true links [] hd hn] at h
      cases h
    · have hn := Nat.not_lt.1 hn
      cases hg : t.get? (dir ++ [name]) with
      | none =>
        rw [walk_down_none t true links [] hd hn hg] at h
        cases h
      | some e =>
        refine ⟨⟨dir ++ [name], ?_⟩, fun name' heq => ?_⟩
        · by_cases hp : Entry.IsPlace e
          · rw [walk_down t false links [] hd hn hg hp, walk_nil]
          · cases e with
            | link target => exact walk_link_kept t false links [] hd hn hg ⟨rfl, rfl⟩
            | dir => exact absurd trivial hp
            | file bytes => exact absurd trivial hp
        · cases heq
          rw [hg]
          rfl

/-- In front of a part of a path that resolves stands a directory, and the part is found in it. -/
theorem resolve_front {base seg : String} (habs : Path.isAbsolute base = true) (hseg : '/' ∉ seg.toList)
    {r : Location} (h : t.resolve (Path.join base seg) = .ok r) :
    t.hasEntry (Path.join base seg) = true ∧ ∃ dir, t.resolve base = .ok dir ∧
      t.get? dir = some .dir ∧ (IsName seg → (t.get? (dir ++ [seg])).isSome) := by
  obtain ⟨hnul, hsize, hwalk⟩ := (resolveWith_iff (Path.isAbsolute_join habs seg)).1 h
  rw [stepsOf_join habs hseg] at hwalk
  obtain ⟨dir, left, hdir, hd, hmore⟩ := walk_front (List.cons_ne_nil _ _) hwalk
  rw [hmore true _ (.inr rfl)] at hwalk
  obtain ⟨⟨r', hkept⟩, hname⟩ := walk_last hwalk
  rw [Path.join_relative (Path.isAbsolute_of_no_slash hseg)] at hnul hsize
  refine ⟨hasEntry_iff.2 ⟨r', ?_⟩, dir, ?_, hd, fun hn => hname seg (stepFor_name hn)⟩
  · obtain ⟨hnul, hsize, -⟩ := (resolveWith_iff (Path.isAbsolute_join habs seg)).1 h
    refine (resolveWith_iff (Path.isAbsolute_join habs seg)).2 ⟨hnul, hsize, ?_⟩
    rw [stepsOf_join habs hseg, hmore false _ (.inl (List.cons_ne_nil _ _)), hkept]
  · refine (resolveWith_iff habs).2 ⟨fun hmem => hnul (by simp [hmem]), ?_, ?_⟩
    · simp only [String.utf8ByteSize_append] at hsize
      omega
    · rw [stepsOf, hmore true _ (.inr rfl)]
      split
      · rw [walk_here t true left [] hd, walk_nil]
      · exact walk_nil t true left

/-- So whatever stands in front of a path that resolves does so too. -/
theorem resolve_front_all {segs : List String} {base : String} (habs : Path.isAbsolute base = true)
    (hsegs : ∀ s ∈ segs, '/' ∉ s.toList) {r : Location} (h : t.resolve (Path.joinAll base segs) = .ok r) :
    ∃ dir, t.resolve base = .ok dir := by
  induction segs generalizing base with
  | nil => exact ⟨r, h⟩
  | cons seg segs ih =>
    rw [List.forall_mem_cons] at hsegs
    obtain ⟨loc, hloc⟩ := ih (Path.isAbsolute_join habs seg) hsegs.2 h
    obtain ⟨-, dir, hdir, -⟩ := resolve_front habs hsegs.1 hloc
    exact ⟨dir, hdir⟩

/-- No file is at a path that ends in `.` or `..`. -/
theorem not_isFile_special (wf : t.WellFormed) {path name : String} (habs : Path.isAbsolute path = true)
    (hname : name ∈ ["..", "."]) : t.isFile (Path.join path name) = false := by
  rw [Bool.eq_false_iff]
  intro hfile
  have hsteps := stepsOf_join habs (show '/' ∉ name.toList by
    rcases List.mem_cons.1 hname with rfl | hname
    · decide
    · rw [List.mem_singleton.1 hname]
      decide)
  rcases List.mem_cons.1 hname with rfl | hname
  · obtain ⟨loc, bytes, hr, hg⟩ := isFile_iff.1 hfile
    obtain ⟨-, -, hwalk⟩ := (resolveWith_iff (Path.isAbsolute_join habs "..")).1 hr
    have hup : stepFor ".." = .up := by decide
    rw [hsteps, hup] at hwalk
    obtain ⟨dir, left, -, hd, hmore⟩ := walk_front (List.cons_ne_nil _ _) hwalk
    rw [hmore true _ (.inr rfl), walk_up t true left [] hd, walk_nil] at hwalk
    rw [← Except.ok.inj hwalk, wf.get?_dropLast hd] at hg
    cases hg
  · obtain rfl := List.mem_singleton.1 hname
    refine getLast?_of_isFile hfile ?_
    rw [hsteps, List.getLast?_concat]
    decide

theorem stepFor_ne_up {seg : String} (h : seg ≠ "..") : stepFor seg ≠ .up := by
  unfold stepFor stepOf
  split
  · nofun
  · split <;> nofun

/-- A resolution that has come to a place goes on from there, whether it ends with a slash or not. -/
theorem walk_behind {links : Nat} {loc r : Location} {path : String}
    (h : t.walk true links loc (stepsOf path) = .ok r) : ∃ left, ∀ followLast more,
      more ≠ [] ∨ followLast = true →
        t.walk followLast links loc ((Path.segments path).filterMap stepOf ++ more) =
          t.walk followLast left r more := by
  rw [stepsOf] at h
  rcases t.walk_append links loc ((Path.segments path).filterMap stepOf) with
    ⟨dir, left, -, hmore⟩ | ⟨cause, -, hmore⟩
  · obtain rfl : dir = r := by
      rw [hmore true _ (.inr rfl)] at h
      split at h
      · by_cases hd : t.get? dir = some .dir
        · rw [walk_here t true left [] hd, walk_nil] at h
          exact Except.ok.inj h
        · rw [walk_not_dir t true left [] .here hd] at h
          cases h
      · rw [walk_nil] at h
        exact Except.ok.inj h
    exact ⟨left, hmore⟩
  · rw [hmore true _ (.inr rfl)] at h
    cases h

/-- Behind a path to a place in such a directory, a part is one step from there. -/
theorem resolveWith_join_within {base : Location}
    (hplain : ∀ rel e, t.get? (base ++ rel) = some e → Entry.IsPlace e) {path seg : String}
    (habs : Path.isAbsolute path = true) {rel : Location} (hr : t.resolve path = .ok (base ++ rel))
    (hseg : '/' ∉ seg.toList) (hup : seg ≠ "..") (hnul : '\x00' ∉ seg.toList)
    (hsize : (Path.join path seg).utf8ByteSize ≤ maxPath) (followLast : Bool) :
    t.resolveWith followLast (Path.join path seg) = t.stepTo (base ++ rel) (stepFor seg) := by
  obtain ⟨hnul', -, hwalk⟩ := (resolveWith_iff habs).1 hr
  have hno : '\x00' ∉ (Path.join path seg).toList := by
    have hsep : '\x00' ∉ (Path.separator path).toList := by
      unfold Path.separator
      split <;> decide
    rw [Path.join_relative (Path.isAbsolute_of_no_slash hseg)]
    simp [hnul, hnul', hsep]
  have hne : Path.join path seg ≠ "" := by
    intro h
    have := Path.isAbsolute_join habs seg
    rw [h] at this
    cases this
  have hstep : .up ∉ [stepFor seg] := by
    rw [List.mem_singleton]
    exact (stepFor_ne_up hup).symm
  unfold resolveWith
  rw [if_neg (by simpa using hno), if_neg hne, if_neg (Nat.not_lt.2 hsize),
    if_pos (Path.isAbsolute_join habs seg), stepsOf_join habs hseg]
  obtain ⟨left, hmore⟩ := walk_behind hwalk
  rw [hmore followLast _ (.inl (List.cons_ne_nil _ _)), walk_within hplain followLast left rel hstep,
    List.foldlM_cons]
  cases t.stepTo (base ++ rel) (stepFor seg) <;> rfl

end BuildGate.FileTree
