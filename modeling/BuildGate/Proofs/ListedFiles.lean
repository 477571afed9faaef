import BuildGate.Proofs.LeftPaths

/-!
# Listed files can be opened

A stage opens a listed file behind the root. What is listed is the text under which the expansion came
to the file, without the root's part of it where it begins with the root. That part is the root but for
slashes and steps that stay, so behind the root the listed text leads to the file again, if the two
together are no longer than a path may be.

The one exception are roots such as `./project`, which begin with `.` and go on. The expansion leaves
the `.` out, so what it comes to does not begin with the root and is listed as it is: relative to the
working directory and not to the root.

**Results.**
* `goesOn_behind`, `goesOn_settled`, `goesOn_fromHere`: kinds of paths that an expansion stays among.
* `rootText_separator`: a root without empty parts is come to under its own text.
* `listed_of_mem_leadsTo`: what every file that an entry leads to is listed as, and where that leads.
-/
namespace BuildGate

open FileTree Glob.Include

/-! ## Kinds of paths -/

/-- `x` is `base` with a path behind it. -/
def Behind (base x : String) : Prop :=
  x = base ∨ ∃ q, Path.isAbsolute q = false ∧ x = Path.join base q

theorem Behind.settled {base x : String} (h : Behind base x) (hbase : Path.Settled base) :
    Path.Settled x := by
  rcases h with rfl | ⟨q, hq, rfl⟩
  · exact hbase
  · exact hbase.join hq

theorem Behind.join {base x seg : String} (h : Behind base x) (hseg : '/' ∉ seg.toList) :
    ∃ q, Path.isAbsolute q = false ∧ Path.join x seg = Path.join base q := by
  have hrel := Path.isAbsolute_of_no_slash hseg
  rcases h with rfl | ⟨q, hq, rfl⟩
  · exact ⟨seg, hrel, rfl⟩
  · exact ⟨Path.join q seg, Path.isAbsolute_join_relative hq hrel, Path.join_join_relative hq hrel base⟩

theorem exists_of_oneFurther {base x : String} (hbase : Path.Settled base)
    (h : OneFurther (Behind base) x) : ∃ q, Path.isAbsolute q = false ∧ x = Path.join base q := by
  obtain ⟨dir, seg, hdir, hseg, hx⟩ := h
  rw [(hdir.settled hbase).inDir, or_self] at hx
  rw [hx]
  exact hdir.join hseg

theorem goesOn_behind {base : String} (hbase : Path.Settled base) : GoesOn (Behind base) :=
  fun _ h => .inr (exists_of_oneFurther hbase h)

theorem goesOn_relative : GoesOn fun x => Path.isAbsolute x = false := by
  rintro x ⟨dir, seg, hdir, hseg, hx⟩
  have hjoin := Path.isAbsolute_join_relative hdir (Path.isAbsolute_of_no_slash hseg)
  rcases hx with rfl | rfl
  · exact hjoin
  · unfold inDir
    split
    · exact Path.isAbsolute_of_no_slash hseg
    · exact hjoin

theorem goesOn_settled : GoesOn Path.Settled := by
  rintro x ⟨dir, seg, hdir, hseg, hx⟩
  rw [hdir.inDir, or_self] at hx
  rw [hx]
  exact hdir.join (Path.isAbsolute_of_no_slash hseg)

/-- What parts behind the current directory come to: another path, or one behind a `.` that was found
there by its name. -/
def FromHere (x : String) : Prop := x = "" ∨ Path.Settled x ∨ Behind "." x

theorem fromHere_of_no_slash {seg : String} (hseg : '/' ∉ seg.toList) : FromHere seg := by
  cases hc : Path.componentOf seg with
  | some c => exact .inr (.inl (Path.settled_of_componentOf hseg hc))
  | none =>
    rcases Path.componentOf_eq_none hc with rfl | rfl
    · exact .inl rfl
    · exact .inr (.inr (.inl rfl))

theorem goesOn_fromHere : GoesOn FromHere := by
  rintro x ⟨dir, seg, hdir, hseg, hx⟩
  have hjoin : FromHere (Path.join dir seg) := by
    rcases hdir with rfl | hdir | hdir
    · rw [Path.join_relative (Path.isAbsolute_of_no_slash hseg)]
      exact fromHere_of_no_slash hseg
    · exact .inr (.inl (hdir.join (Path.isAbsolute_of_no_slash hseg)))
    · exact .inr (.inr (.inr (hdir.join hseg)))
  rcases hx with rfl | rfl
  · exact hjoin
  · unfold inDir
    split
    · exact fromHere_of_no_slash hseg
    · exact hjoin

/-- What a kind of paths has of the current directory it has of every relative root. -/
theorem Glob.Include.GoesOn.rootText {kind : String → Prop} (h : GoesOn kind) {root : String}
    (hrel : Path.isAbsolute root = false) (hhere : kind ".") : kind (rootText root) := by
  have hfold : ∀ (segs : List String) (start : String), kind start → (∀ s ∈ segs, '/' ∉ s.toList) →
      kind (segs.foldl inDir start) := by
    intro segs
    induction segs with
    | nil => exact fun _ hstart _ => hstart
    | cons seg segs ih =>
      intro start hstart hsegs
      rw [List.forall_mem_cons] at hsegs
      exact ih _ (h _ ⟨start, seg, hstart, hsegs.1, .inr rfl⟩) hsegs.2
  refine hfold _ _ ?_ (no_slash_rootParts root)
  rwa [rootStart, if_neg (by simp [hrel])]

/-! ## What is listed -/

namespace Path

/-- The first component of `root` is `.`, and not the only one. -/
def DotLed (root : String) : Prop := ∃ c cs, components root = .here :: c :: cs

theorem components_eq_nil {path : String} : components path = [] ↔ path = "" := by
  refine ⟨fun h => ?_, fun h => by rw [h]; decide⟩
  by_contra hne
  cases habs : isAbsolute path with
  | true =>
    rw [components_absolute habs] at h
    cases h
  | false =>
    obtain ⟨p, rest, hp, -, more, hmore⟩ := pieces_relative hne habs
    by_cases hdot : String.ofList p = "."
    · rw [components, habs, parts_relative habs hmore, if_pos hdot] at h
      cases h
    · rw [components_of_ne_here habs hmore hdot, hmore, List.filterMap_eq_nil_iff] at h
      rcases componentOf_eq_none (h _ List.mem_cons_self) with hempty | hhere
      · exact hp (by simpa using hempty)
      · exact hdot hhere

/-- A path that begins with `.` is made of it and of parts that are read alike. -/
theorem segments_of_here {path : String} {cs : List Component} (h : components path = .here :: cs) :
    isAbsolute path = false ∧
      ∃ segs, segments path = "." :: segs ∧ segs.filterMap componentOf = cs := by
  cases habs : isAbsolute path with
  | true =>
    rw [components_absolute habs] at h
    exact absurd (List.cons.inj h).1 nofun
  | false =>
    refine ⟨rfl, ?_⟩
    obtain ⟨seg, segs, hsegs⟩ := List.exists_cons_of_ne_nil (segments_ne_nil path)
    by_cases hdot : seg = "."
    · subst hdot
      rw [components, habs, parts_relative habs hsegs, if_pos rfl] at h
      refine ⟨segs, hsegs, ?_⟩
      have hmore := (List.cons.inj h).2
      rwa [List.filterMap_map] at hmore
    · -- No other part than the first is ever read as the current directory.
      have hmem : Component.here ∈ (segments path).filterMap componentOf := by
        rw [← components_of_ne_here habs hsegs hdot, h]
        exact List.mem_cons_self
      obtain ⟨s, -, hs⟩ := List.mem_filterMap.1 hmem
      exact absurd hs (componentOf_ne_here s)

/-- A root is nothing, the current directory, begins with `.` and goes on, or is settled. -/
theorem settled_or (root : String) :
    root = "" ∨ components root = [.here] ∨ DotLed root ∨ Settled root := by
  match h : components root with
  | [] => exact .inl (components_eq_nil.1 h)
  | c :: cs =>
    by_cases hc : c = .here
    · subst hc
      match cs with
      | [] => exact .inr (.inl rfl)
      | c :: cs => exact .inr (.inr (.inl ⟨c, cs, h⟩))
    · exact .inr (.inr (.inr ⟨c, cs, h, hc⟩))

/-- Nothing is left out of a path that begins with other than the root. -/
theorem stripPrefix?_eq_none {root path : String} {c d : Component} {cs ds : List Component}
    (hroot : components root = c :: cs) (hpath : components path = d :: ds) (h : c ≠ d) :
    stripPrefix? root path = none := by
  unfold stripPrefix?
  rw [if_neg]
  rw [hroot, hpath]
  simp [h]

/-- Behind nothing stands the whole path, if its last part counts. -/
theorem stripPrefix?_empty {path : String} (hrel : isAbsolute path = false) {init : List String} {l : String}
    (hlast : segments path = init ++ [l]) {c : Component} (hl : componentOf l = some c) :
    stripPrefix? "" path = some path := by
  obtain ⟨seg, segs, hsegs⟩ := List.exists_cons_of_ne_nil (segments_ne_nil path)
  have hparts := parts_relative hrel hsegs
  have htext : ofParts (parts path) = path := by
    have hfirsts : (parts path).map (·.1) = segments path := by
      rw [hparts, hsegs, List.map_cons, List.map_map]
      exact congrArg (seg :: ·) (List.map_id segs)
    rw [ofParts, hfirsts, intercalate_segments]
  have hend : trimEnd (parts path) = parts path := by
    rw [hsegs] at hlast
    cases init with
    | nil =>
      obtain ⟨rfl, rfl⟩ : seg = l ∧ segs = [] := by simpa using hlast
      have hdot : seg ≠ "." := by
        rintro rfl
        cases hl
      rw [hparts, if_neg hdot, List.map_nil, ← List.nil_append [_]]
      exact trimEnd_concat_some hl
    | cons first init =>
      obtain ⟨rfl, rfl⟩ : seg = first ∧ segs = init ++ [l] := by simpa using hlast
      rw [hparts, List.map_append, ← List.cons_append]
      exact trimEnd_concat_some hl
  have hroot : components "" = [] := by decide
  unfold stripPrefix?
  simp only [hroot, List.isPrefixOf, if_true, hend, htext, hrel, Bool.false_eq_true, if_false]

/-! ## How long it is -/

/-- The first component of `root` is not `.`, and no two slashes stand together. -/
def Plain (root : String) : Prop :=
  (components root).head? ≠ some .here ∧ ¬ ['/', '/'] <:+: root.toList

theorem Plain.not_dotLed {root : String} (h : Plain root) : ¬ DotLed root := by
  rintro ⟨c, cs, hcs⟩
  exact h.1 (by rw [hcs]; rfl)

/-- Parts one after the other, with a slash behind each. -/
theorem joinAll_separator {segs : List String} (hsegs : ∀ s ∈ segs, s ≠ "" ∧ '/' ∉ s.toList)
    (base : String) : joinAll base segs ++ separator (joinAll base segs) =
      base ++ separator base ++ String.join (segs.map (· ++ "/")) := by
  induction segs generalizing base with
  | nil => simp
  | cons seg segs ih =>
    rw [List.forall_mem_cons] at hsegs
    rw [joinAll_cons, ih hsegs.2, join_relative (isAbsolute_of_no_slash hsegs.1.2),
      separator_append _ hsegs.1.1 hsegs.1.2, List.map_cons, String.join_cons]
    simp only [String.append_assoc]

theorem join_separated {segs : List String} (hne : segs ≠ []) :
    String.join (segs.map (· ++ "/")) = "/".intercalate segs ++ "/" := by
  induction segs with
  | nil => exact absurd rfl hne
  | cons seg segs ih =>
    by_cases hnil : segs = []
    · rw [hnil, String.intercalate_singleton]
      simp
    · rw [List.map_cons, String.join_cons, ih hnil, String.intercalate_cons_of_ne_nil hnil]
      simp only [String.append_assoc]

theorem root_separator {root : String} (hne : root ≠ "") : root ++ separator root =
    String.join (((pieces root.toList).map String.ofList).map (· ++ "/")) := by
  by_cases hlast : root.toList.getLast? = some '/'
  · obtain ⟨cs, hcs⟩ := List.getLast?_eq_some_iff.1 hlast
    have hroot : root = String.ofList cs ++ "/" := String.toList_injective (by simp [hcs])
    have hsegs : (splitSlash cs).map String.ofList = segments (String.ofList cs) := by
      rw [segments, String.toList_ofList]
    rw [separator, if_pos (.inr hlast), String.append_empty, hcs, pieces_of_slash, hsegs,
      join_separated (segments_ne_nil _), intercalate_segments, ← hroot]
  · rw [separator, if_neg (by simp [String.isEmpty_iff, hne, hlast]),
      pieces_of_no_slash (mt String.toList_eq_nil_iff.1 hne) hlast]
    change _ = String.join ((segments root).map (· ++ "/"))
    rw [join_separated (segments_ne_nil _), intercalate_segments]

/-- Behind the first of them there is no empty piece, if no two slashes stand side by side. -/
theorem ne_empty_of_mem_tail {cs : List Char} (h : ¬ ['/', '/'] <:+: cs) :
    ∀ p ∈ (pieces cs).tail, p ≠ [] := by
  rintro p hp rfl
  obtain ⟨first, rest, hpieces⟩ : ∃ first rest, pieces cs = first :: rest :=
    List.exists_cons_of_ne_nil fun hnil => by rw [hnil] at hp; cases hp
  rw [hpieces] at hp
  obtain ⟨front, back, rfl⟩ := List.append_of_mem hp
  -- An empty piece at the end is left out, so another one comes behind this one.
  obtain ⟨more, hmore, hsplit⟩ : ∃ more, more ≠ [] ∧
      splitSlash cs = (first :: front) ++ [] :: more := by
    unfold pieces at hpieces
    by_cases hlast : (splitSlash cs).getLast? = some []
    · simp only [if_pos hlast] at hpieces
      obtain ⟨init, hinit⟩ := List.getLast?_eq_some_iff.1 hlast
      rw [hinit, List.dropLast_concat] at hpieces
      exact ⟨back ++ [[]], by simp, by rw [hinit, hpieces]; simp⟩
    · simp only [if_neg hlast] at hpieces
      refine ⟨back, ?_, hpieces⟩
      rintro rfl
      refine hlast ?_
      rw [hpieces, ← List.cons_append, List.getLast?_concat]
  refine h ⟨joinSlash (first :: front), joinSlash more, ?_⟩
  have hempty : joinSlash ([] :: more) = '/' :: joinSlash more :=
    joinSlash_append (List.cons_ne_nil [] []) hmore
  rw [← joinSlash_splitSlash cs, hsplit, joinSlash_append (by simp) (by simp), hempty,
    List.append_assoc]
  rfl

theorem rootText_separator {root : String} (hroot : Settled root) (hplain : ¬ ['/', '/'] <:+: root.toList) :
    rootText root ++ separator (rootText root) = root ++ separator root := by
  obtain ⟨base, segs, -, hsegs, htext, -, -, p, ps, hpieces, rfl, hbase⟩ := rootText_parts hroot
  have hne : ∀ s ∈ ps.map String.ofList, s ≠ "" ∧ '/' ∉ s.toList := by
    intro s hs
    refine ⟨?_, hsegs s hs⟩
    obtain ⟨q, hq, rfl⟩ := List.mem_map.1 hs
    have := ne_empty_of_mem_tail hplain q (by rwa [hpieces])
    simpa using this
  rw [htext, joinAll_separator hne, hbase, root_separator hroot.ne_empty, hpieces, List.map_cons,
    List.map_cons, String.join_cons]

end Path

namespace FileSet

variable {t : FileTree} {root x : String}

/-- What the file `x` that was come to is listed as below `root`, and where that leads. -/
structure Listed (t : FileTree) (root x : String) : Prop where
  relative : Path.isAbsolute (relativeTo root x) = false
  /-- Behind the root it is no longer than a path may be, if that has no empty parts and does not begin
  with `.`. -/
  fits : Path.Plain root → (Path.join root (relativeTo root x)).utf8ByteSize ≤ maxPath
  /-- Behind the root it leads to a file, if it can be a path at all, -/
  opens : ¬ Path.DotLed root → (Path.join root (relativeTo root x)).utf8ByteSize ≤ maxPath →
    t.isFile (Path.join root (relativeTo root x)) = true
  /-- but behind a root that begins with `.` and goes on it does so by itself. -/
  elsewhere : Path.DotLed root → t.isFile (relativeTo root x) = true

/-- Behind a settled root. -/
theorem listed_settled (hroot : Path.Settled root) (hx : OneFurther (Behind (rootText root)) x)
    (hfile : t.isFile x = true) : Listed t root x := by
  have htext := settled_rootText hroot
  have habs := isAbsolute_rootText hroot
  obtain ⟨q, hq, rfl⟩ := exists_of_oneFurther htext hx
  obtain ⟨hne, init, l, c, hlast, hl⟩ := last_counts_behind htext.ne_empty hq hfile
  have hcs : Path.components root ≠ [] := mt Path.components_eq_nil.1 hroot.ne_empty
  have hleft := Path.left_counted hlast hl
  have hrelative : relativeTo root (Path.join (rootText root) q) =
      "/".intercalate (Path.counted (Path.segments q)) := by
    rw [relativeTo, Path.stripPrefix?_join_relative htext.ne_empty (components_rootText hroot) habs hcs
      hq hlast hl, Option.getD_some]
  have hnul : '\x00' ∉ root.toList := by
    have hno := no_nul_of_isFile hfile
    rw [Path.join_relative hq, String.toList_append, String.toList_append, List.mem_append,
      List.mem_append, not_or, not_or] at hno
    exact fun hmem => hno.1.1 ((Path.mem_toList_rootText hroot (by decide)).2 hmem)
  have hsteps := filterMap_rootText hroot (fun s => (stepOf s).filter (· ≠ .here)) (by rfl)
  refine ⟨?_, fun hplain => ?_, fun _ hsize => ?_, fun ⟨c, cs, hdot⟩ => ?_⟩
  · rw [hrelative]
    exact hleft.relative
  · have hlong := size_of_isFile hfile
    obtain ⟨front, hfront⟩ := hleft.chars
    have hq' : q = String.ofList front ++ "/".intercalate (Path.counted (Path.segments q)) :=
      String.toList_injective (by rw [String.toList_append, String.toList_ofList, hfront])
    have hsize := congrArg String.utf8ByteSize hq'
    rw [hrelative, Path.join_relative hleft.relative, ← Path.rootText_separator hroot hplain.2]
    rw [Path.join_relative hq] at hlong
    simp only [String.utf8ByteSize_append] at hlong hsize ⊢
    omega
  · rw [hrelative] at hsize ⊢
    refine isFile_join_left hfile hq hne hleft ?_ ?_ hnul hsize
    · rw [Path.isAbsolute_join_of_ne hroot.ne_empty hleft.relative,
        Path.isAbsolute_join_of_ne htext.ne_empty hq, habs]
    · simp only [List.filter_filterMap]
      exact hsteps.symm
  · obtain ⟨d, ds, hd, hne⟩ := hroot
    rw [hd] at hdot
    exact absurd (List.cons.inj hdot).1 hne

/-- A path that does not begin as the root is listed as it is. -/
theorem relativeTo_of_ne {c d : Path.Component} {cs ds : List Path.Component}
    (hroot : Path.components root = c :: cs) (hx : Path.components x = d :: ds) (h : c ≠ d) :
    relativeTo root x = x := by
  rw [relativeTo, Path.stripPrefix?_eq_none hroot hx h, Option.getD_none]

theorem left_self {q : String} (hq : Path.isAbsolute q = false) (hne : q ≠ "") : Path.Left q q :=
  ⟨hq, hne, List.suffix_refl _, [], rfl, by simp⟩

theorem join_empty {q : String} (hq : Path.isAbsolute q = false) : Path.join "" q = q := by
  simp [Path.join_relative hq, Path.separator]

/-- Behind nothing. -/
theorem listed_nothing (hrel : Path.isAbsolute x = false) (hfile : t.isFile x = true) :
    Listed t "" x := by
  obtain ⟨init, l, c, hlast, hl⟩ := last_counts (ne_empty_of_isFile hfile) (getLast?_of_isFile hfile)
  have hrelative : relativeTo "" x = x := by
    rw [relativeTo, Path.stripPrefix?_empty hrel hlast hl, Option.getD_some]
  refine ⟨by rw [hrelative, hrel], fun _ => ?_, fun _ _ => ?_, fun ⟨c, cs, hdot⟩ => ?_⟩
  · rw [hrelative, join_empty hrel]
    exact size_of_isFile hfile
  · rwa [hrelative, join_empty hrel]
  · cases hdot

/-- A root that is the current directory in other words leads nowhere. -/
theorem steps_of_here {root : String} (h : Path.components root = [.here]) :
    Path.isAbsolute root = false ∧ '\x00' ∉ root.toList ∧
      ((Path.segments root).filterMap stepOf).filter (· ≠ .here) = [] := by
  obtain ⟨habs, segs, hsegs, hnone⟩ := Path.segments_of_here h
  have hall : ∀ s ∈ Path.segments root, s = "" ∨ s = "." := by
    intro s hs
    rw [hsegs] at hs
    rcases List.mem_cons.1 hs with rfl | hs
    · exact .inr rfl
    · exact Path.componentOf_eq_none (List.filterMap_eq_nil_iff.1 hnone s hs)
  refine ⟨habs, fun hmem => ?_, ?_⟩
  · obtain ⟨s, hs, hc⟩ := (Path.mem_toList_iff (by decide) root).1 hmem
    rcases hall s hs with rfl | rfl <;> simp at hc
  · rw [List.filter_eq_nil_iff]
    intro step hstep
    obtain ⟨s, hs, heq⟩ := List.mem_filterMap.1 hstep
    rcases hall s hs with rfl | rfl
    · cases heq
    · simp [← Option.some_inj.1 heq]

/-- Behind the current directory. -/
theorem listed_here (hroot : Path.components root = [.here]) (hrel : Path.isAbsolute x = false)
    (hx : FromHere x) (hfile : t.isFile x = true) : Listed t root x := by
  obtain ⟨habs, hnul, hsteps⟩ := steps_of_here hroot
  have hne : root ≠ "" := by
    rintro rfl
    cases hroot
  have hopens : ∀ {base q f : String}, t.isFile (Path.join base q) = true →
      Path.isAbsolute q = false → q ≠ "" → Path.Left q f → Path.isAbsolute (Path.join base q) = false →
      ((Path.segments base).filterMap stepOf).filter (· ≠ .here) = [] →
      (Path.join root f).utf8ByteSize ≤ maxPath → t.isFile (Path.join root f) = true := by
    intro base q f hfile hq hne' hleft hbase hbasesteps hsize
    refine isFile_join_left hfile hq hne' hleft ?_ (hsteps.trans hbasesteps.symm) hnul hsize
    rw [Path.isAbsolute_join_of_ne hne hleft.relative, habs, hbase]
  have hnot : ¬ Path.DotLed root := by
    rintro ⟨c, cs, hdot⟩
    rw [hroot] at hdot
    cases hdot
  have hplain : ¬ Path.Plain root := fun h => h.1 (by rw [hroot]; rfl)
  rcases hx with rfl | ⟨c, cs, hcs, hc⟩ | rfl | ⟨q, hq, rfl⟩
  · exact absurd rfl (ne_empty_of_isFile hfile)
  · have hrelative := relativeTo_of_ne hroot hcs hc.symm
    refine ⟨by rw [hrelative, hrel], fun h => absurd h hplain, fun _ hsize => ?_,
      fun hdot => absurd hdot hnot⟩
    have hjoin := join_empty hrel
    rw [hrelative] at hsize ⊢
    exact hopens (by rwa [hjoin]) hrel (ne_empty_of_isFile hfile)
      (left_self hrel (ne_empty_of_isFile hfile)) (by rwa [hjoin]) (by rfl) hsize
  · exact absurd (by rfl) (getLast?_of_isFile hfile)
  · have hdot : Path.components "." = [.here] := by decide
    obtain ⟨hneq, init, l, c, hlast, hl⟩ := last_counts_behind (by decide) hq hfile
    have hleft := Path.left_counted hlast hl
    have hrelative : relativeTo root (Path.join "." q) =
        "/".intercalate (Path.counted (Path.segments q)) := by
      rw [relativeTo, Path.stripPrefix?_join_relative (by decide) (hdot.trans hroot.symm)
        (by rw [habs]; decide) (by rw [hroot]; exact List.cons_ne_nil _ _) hq hlast hl,
        Option.getD_some]
    refine ⟨by rw [hrelative]; exact hleft.relative, fun h => absurd h hplain, fun _ hsize => ?_,
      fun hdot => absurd hdot hnot⟩
    rw [hrelative] at hsize ⊢
    exact hopens hfile hq hneq hleft hrel (by decide) hsize

/-- Behind a root that begins with `.` and goes on. -/
theorem listed_dotLed (hroot : Path.DotLed root) (hrel : Path.isAbsolute x = false)
    (hx : Path.Settled x) (hfile : t.isFile x = true) : Listed t root x := by
  obtain ⟨c, cs, hcs⟩ := id hroot
  obtain ⟨d, ds, hds, hd⟩ := hx
  have hrelative := relativeTo_of_ne hcs hds hd.symm
  refine ⟨by rw [hrelative, hrel], fun hplain => absurd hroot hplain.not_dotLed,
    fun hnot => absurd hroot hnot, fun _ => ?_⟩
  rwa [hrelative]

/-- Every file that an entry leads to is listed so. -/
theorem listed_of_mem_leadsTo (wf : t.WellFormed) {entry : String} (hrel : Path.isAbsolute entry = false)
    (hx : x ∈ leadsTo t root entry) (hfile : t.isFile x = true) : Listed t root x := by
  have hfurther : ∀ {kind : String → Prop}, GoesOn kind → kind (rootText root) → OneFurther kind x :=
    fun hkind htext => oneFurther_of_mem_leadsTo wf hkind htext hrel hx hfile
  have hrelative : Path.isAbsolute root = false → Path.isAbsolute x = false := by
    intro habs
    exact goesOn_relative x (hfurther goesOn_relative (goesOn_relative.rootText habs (by decide)))
  rcases Path.settled_or root with rfl | hhere | hdot | hsettled
  · exact listed_nothing (hrelative (by decide)) hfile
  · obtain ⟨habs, segs, hsegs, hnone⟩ := Path.segments_of_here hhere
    exact listed_here hhere (hrelative habs) (goesOn_fromHere x
      (hfurther goesOn_fromHere (goesOn_fromHere.rootText habs (.inr (.inr (.inl rfl)))))) hfile
  · obtain ⟨c, cs, hcs⟩ := id hdot
    obtain ⟨habs, segs, hsegs, hcount⟩ := Path.segments_of_here hcs
    refine listed_dotLed hdot (hrelative habs) (goesOn_settled x (hfurther goesOn_settled ?_)) hfile
    refine Path.settled_foldl_inDir ?_ (no_slash_rootParts root) ?_
    · exact .inl (by rw [rootStart, if_neg (by simp [habs])])
    · rw [filterMap_rootParts _ Path.componentOf_empty, hsegs, List.filterMap_cons_none (by rfl), hcount]
      exact List.cons_ne_nil _ _
  · exact listed_settled hsettled (hfurther (goesOn_behind (settled_rootText hsettled)) (.inl rfl)) hfile

end FileSet

end BuildGate
