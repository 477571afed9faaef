import BuildGate.Path

/-!
# Parts of joined paths

What counts in a path are the parts between its slashes, and a part that is empty never does. So a
reading of a path that gives nothing for the empty part (`components`, and the steps of a
resolution) goes part by part: of a joined path it is the reading of the first path and then that of
the second one.

**Results.**
* `splitSlash_eq_splitOn`: cutting at slashes is the library's cutting at a separator.
* `filterMap_segments_join`: the parts of a joined path that count.
* `components_join`, `components_ofNames`: components of joined paths and of paths made of names.
-/
namespace BuildGate

/-- `s` is a part of a path that stands for a name. -/
structure Path.IsPart (s : String) : Prop where
  ne_empty : s ≠ ""
  ne_here : s ≠ "."
  ne_up : s ≠ ".."
  no_slash : '/' ∉ s.toList

/-- `s` can be the name of an entry of a directory. -/
structure IsName (s : String) : Prop extends Path.IsPart s where
  no_nul : '\x00' ∉ s.toList

theorem isName_iff (s : String) :
    IsName s ↔ s ≠ "" ∧ s ≠ "." ∧ s ≠ ".." ∧ '/' ∉ s.toList ∧ '\x00' ∉ s.toList :=
  ⟨fun ⟨⟨a, b, c, d⟩, e⟩ => ⟨a, b, c, d, e⟩, fun ⟨a, b, c, d, e⟩ => ⟨⟨a, b, c, d⟩, e⟩⟩

instance (s : String) : Decidable (IsName s) := decidable_of_iff' _ (isName_iff s)

namespace Path

/-! ## Cutting at slashes -/

theorem splitSlash_eq_splitOn (cs : List Char) : splitSlash cs = cs.splitOn '/' := by
  induction cs with
  | nil => rfl
  | cons c rest ih =>
    unfold splitSlash List.splitOn
    rw [List.splitOnP_cons_eq_if_modifyHead]
    by_cases hc : c = '/'
    · simp [hc, ih, List.splitOn]
    · simp only [hc, if_false, beq_iff_eq, ih, List.splitOn]
      cases hs : rest.splitOnP (· == '/') with
      | nil => exact absurd hs (List.splitOnP_ne_nil _ _)
      | cons p ps => rfl

theorem splitSlash_append (as bs : List Char) :
    splitSlash (as ++ '/' :: bs) = splitSlash as ++ splitSlash bs := by
  simp only [splitSlash_eq_splitOn, List.splitOn]
  exact List.splitOnP_append_cons as bs (by simp)

theorem splitSlash_of_not_mem {cs : List Char} (h : '/' ∉ cs) : splitSlash cs = [cs] := by
  rw [splitSlash_eq_splitOn]
  exact List.splitOnP_eq_singleton fun c hc => by
    have : c ≠ '/' := fun e => h (e ▸ hc)
    simpa using this

theorem no_slash_of_mem_splitSlash {cs p : List Char} (h : p ∈ splitSlash cs) : '/' ∉ p := by
  induction cs generalizing p with
  | nil =>
    rw [List.mem_singleton.1 h]
    simp
  | cons c cs ih =>
    unfold splitSlash at h
    split at h
    · rcases List.mem_cons.1 h with rfl | h
      · simp
      · exact ih h
    · rename_i hc
      split at h
      · rename_i hnil
        exact absurd hnil (splitSlash_ne_nil cs)
      · rename_i q qs hq
        rcases List.mem_cons.1 h with rfl | h
        · have := ih (p := q) (by simp [hq])
          simp [Ne.symm hc, this]
        · exact ih (by simp [hq, h])

theorem segments_append (a b : String) : segments (a ++ "/" ++ b) = segments a ++ segments b := by
  have : (a ++ "/" ++ b).toList = a.toList ++ '/' :: b.toList := by simp
  rw [segments, this, splitSlash_append, List.map_append]
  rfl

theorem segments_of_no_slash {s : String} (h : '/' ∉ s.toList) : segments s = [s] := by
  rw [segments, splitSlash_of_not_mem h]
  simp

theorem segments_intercalate {names : List String} (hne : names ≠ [])
    (h : ∀ n ∈ names, '/' ∉ n.toList) : segments ("/".intercalate names) = names := by
  induction names with
  | nil => exact absurd rfl hne
  | cons n rest ih =>
    have hn := segments_of_no_slash (h n List.mem_cons_self)
    by_cases hr : rest = []
    · rw [hr, String.intercalate_singleton, hn]
    · rw [String.intercalate_cons_of_ne_nil hr, segments_append, hn,
        ih hr fun m hm => h m (List.mem_cons_of_mem _ hm)]
      rfl

/-- A text that is not empty ends in a slash or in a part that is not empty. -/
theorem getLast?_splitSlash {cs : List Char} (hne : cs ≠ []) (h : cs.getLast? ≠ some '/') :
    ∃ p, (splitSlash cs).getLast? = some p ∧ p ≠ [] := by
  induction cs with
  | nil => exact absurd rfl hne
  | cons c rest ih =>
    unfold splitSlash
    by_cases hr : rest = []
    · subst hr
      have hc : c ≠ '/' := by simpa using h
      simp [hc, splitSlash]
    · obtain ⟨p, hp, hpne⟩ := ih hr (by rwa [List.getLast?_cons_of_ne_nil hr] at h)
      split
      · exact ⟨p, by rwa [List.getLast?_cons_of_ne_nil (splitSlash_ne_nil rest)], hpne⟩
      · split
        · exact ⟨[c], rfl, by simp⟩
        · rename_i q qs hq
          rw [hq] at hp
          by_cases hqs : qs = []
          · subst hqs
            exact ⟨c :: q, rfl, by simp⟩
          · refine ⟨p, ?_, hpne⟩
            rwa [List.getLast?_cons_of_ne_nil hqs] at hp ⊢

/-! ## Joined paths -/

theorem isAbsolute_iff (p : String) : isAbsolute p = true ↔ ∃ cs, p.toList = '/' :: cs := by
  unfold isAbsolute
  cases p.toList with
  | nil => simp
  | cons c cs => simp

theorem isAbsolute_append {a b : String} (h : isAbsolute a = true) : isAbsolute (a ++ b) = true := by
  obtain ⟨cs, hcs⟩ := (isAbsolute_iff a).1 h
  exact (isAbsolute_iff _).2 ⟨cs ++ b.toList, by simp [hcs]⟩

theorem isAbsolute_join {base : String} (h : isAbsolute base = true) (path : String) :
    isAbsolute (join base path) = true := by
  unfold join
  split
  · assumption
  · split
    · exact isAbsolute_append h
    · rw [String.append_assoc]
      exact isAbsolute_append h

/-- What is put between `base` and a path behind it. -/
def separator (base : String) : String :=
  if base.isEmpty ∨ base.toList.getLast? = some '/' then "" else "/"

theorem join_relative {path : String} (h : isAbsolute path = false) (base : String) :
    join base path = base ++ separator base ++ path := by
  unfold join separator
  rw [if_neg (by simp [h])]
  split
  · simp
  · rfl

theorem isAbsolute_of_no_slash {seg : String} (hseg : '/' ∉ seg.toList) : isAbsolute seg = false := by
  rw [Bool.eq_false_iff]
  intro h
  obtain ⟨cs, hcs⟩ := (isAbsolute_iff seg).1 h
  exact hseg (by rw [hcs]; exact List.mem_cons_self)

/-- A text that ends in one without slashes does not end in a slash. -/
theorem getLast?_append_no_slash (s : String) {n : String} (hne : n ≠ "") (h : '/' ∉ n.toList) :
    (s ++ n).toList.getLast? ≠ some '/' := by
  have hlist : n.toList ≠ [] := by simpa using hne
  rw [String.toList_append, List.getLast?_append, List.getLast?_eq_some_getLast hlist]
  intro hl
  have hlast : n.toList.getLast hlist = '/' := by simpa using hl
  exact h (hlast ▸ List.getLast_mem hlist)

/-- Behind a text that ends in one without slashes stands a slash. -/
theorem separator_append (s : String) {n : String} (hne : n ≠ "") (h : '/' ∉ n.toList) :
    separator (s ++ n) = "/" := by
  have hempty : (s ++ n).isEmpty = false := by
    rw [Bool.eq_false_iff, ne_eq, String.isEmpty_iff, String.append_eq_empty_iff]
    exact fun h => hne h.2
  rw [separator, if_neg]
  simp only [hempty, Bool.false_eq_true, false_or]
  exact getLast?_append_no_slash s hne h

/-- What counts in a joined path, for a reading by parts in which the empty part is nothing. -/
theorem filterMap_segments_join {β : Type} (f : String → Option β) (hf : f "" = none)
    (base : String) {path : String} (hp : isAbsolute path = false) :
    (segments (join base path)).filterMap f =
      (segments base).filterMap f ++ (segments path).filterMap f := by
  have hempty : segments "" = [""] := segments_of_no_slash (by simp)
  unfold join
  simp only [hp, Bool.false_eq_true, if_false]
  split
  · rename_i hb
    rcases hb with hb | hb
    · have hb : base = "" := String.isEmpty_iff.1 hb
      simp [hb, hempty, hf]
    · -- The base ends in a slash already, behind which stands an empty part.
      obtain ⟨cs, hcs⟩ := List.getLast?_eq_some_iff.1 hb
      have hbase : base = String.ofList cs ++ "/" ++ "" := by
        apply String.toList_injective
        simp [hcs]
      have hjoin : base ++ path = String.ofList cs ++ "/" ++ path := by
        rw [hbase, String.append_empty]
      rw [hjoin, segments_append, hbase, segments_append, hempty]
      simp [hf]
  · rw [segments_append, List.filterMap_append]

/-- `base` with `segs` behind it, one after the other. -/
def joinAll (base : String) (segs : List String) : String := segs.foldl join base

@[simp] theorem joinAll_nil (base : String) : joinAll base [] = base := rfl

@[simp] theorem joinAll_cons (base seg : String) (segs : List String) :
    joinAll base (seg :: segs) = joinAll (join base seg) segs := rfl

theorem joinAll_append (base : String) (a b : List String) :
    joinAll base (a ++ b) = joinAll (joinAll base a) b := by
  simp [joinAll]

theorem isAbsolute_joinAll {base : String} (h : isAbsolute base = true) (segs : List String) :
    isAbsolute (joinAll base segs) = true := by
  induction segs generalizing base with
  | nil => exact h
  | cons seg segs ih => exact ih (isAbsolute_join h seg)

/-! ## Components -/

/-- The component that `segment` stands for behind the start of a path. -/
def componentOf (segment : String) : Option Component := (partOf segment).2

@[simp] theorem componentOf_empty : componentOf "" = none := by simp [componentOf, partOf]

theorem componentOf_name {n : String} (h : IsPart n) : componentOf n = some (.name n) := by
  simp [componentOf, partOf, h.ne_empty, h.ne_here, h.ne_up]

theorem componentOf_eq_none {seg : String} (h : componentOf seg = none) : seg = "" ∨ seg = "." := by
  unfold componentOf partOf at h
  split at h
  · assumption
  · split at h
    · cases h
    · cases h

theorem componentOf_eq_name {seg n : String} (h : componentOf seg = some (.name n)) :
    seg = n ∧ seg ≠ "" := by
  unfold componentOf partOf at h
  split at h
  · cases h
  next hcounts =>
    split at h
    · cases h
    · cases h
      exact ⟨rfl, (not_or.1 hcounts).1⟩

theorem ofParts_map_partOf (segs : List String) :
    ofParts (segs.map partOf) = "/".intercalate segs := by
  rw [ofParts, List.map_map]
  congr 1
  exact List.map_id segs

/-- The root is what stands before the first slash, so an absolute path is read part by part. -/
theorem components_absolute {p : String} (h : isAbsolute p = true) :
    components p = .root :: (segments p).filterMap componentOf := by
  obtain ⟨cs, hcs⟩ := (isAbsolute_iff p).1 h
  have hseg : segments p = "" :: (splitSlash cs).map String.ofList := by
    simp [segments, hcs, splitSlash]
  simp only [components, h, if_true, parts, hseg, List.tail_cons, List.filterMap_map,
    List.singleton_append, List.filterMap_cons, componentOf_empty]
  rfl

theorem components_eq_parts {p : String} (h : isAbsolute p = true) :
    components p = .root :: (parts p).filterMap (·.2) := by
  simp [components, h]

theorem components_join {base path : String} (hb : isAbsolute base = true)
    (hp : isAbsolute path = false) :
    components (join base path) = components base ++ (segments path).filterMap componentOf := by
  rw [components_absolute (isAbsolute_join hb path), components_absolute hb,
    filterMap_segments_join componentOf componentOf_empty base hp]
  rfl

theorem components_join_name {base n : String} (hb : isAbsolute base = true) (hn : IsPart n) :
    components (join base n) = components base ++ [.name n] := by
  rw [components_join hb (isAbsolute_of_no_slash hn.no_slash), segments_of_no_slash hn.no_slash]
  simp [componentOf_name hn]

section
variable {dir path : String}

/-- In a relative path the first part counts where it is `.`, and no other such part does. -/
theorem parts_relative (hpath : isAbsolute path = false) {seg : String} {segs : List String}
    (hsegs : segments path = seg :: segs) : parts path =
      (seg, if seg = "." then some .here else componentOf seg) :: segs.map partOf := by
  unfold parts
  rw [if_neg (by simp [hpath]), hsegs]
  split
  next heq =>
    obtain ⟨rfl, rfl⟩ := List.cons.inj heq
    rfl
  next hdot =>
    have hseg : seg ≠ "." := fun h => hdot segs (by rw [h])
    rw [if_neg hseg]
    rfl

theorem isAbsolute_behind (hne : dir ≠ "") (rest : String) :
    isAbsolute (dir ++ "/" ++ rest) = isAbsolute dir := by
  obtain ⟨c, cs, hcs⟩ := List.exists_cons_of_ne_nil (mt String.toList_eq_nil_iff.1 hne)
  simp [isAbsolute, hcs]

theorem components_behind (hne : dir ≠ "") (hdir : isAbsolute dir = false) (rest : String) :
    components (dir ++ "/" ++ rest) = components dir ++ (segments rest).filterMap componentOf := by
  have habs := (isAbsolute_behind hne rest).trans hdir
  obtain ⟨seg, segs, hsegs⟩ := List.exists_cons_of_ne_nil (segments_ne_nil dir)
  have hmore : segments (dir ++ "/" ++ rest) = seg :: (segs ++ segments rest) := by
    rw [segments_append, hsegs, List.cons_append]
  rw [components, components, habs, hdir, parts_relative habs hmore, parts_relative hdir hsegs,
    List.map_append, ← List.cons_append, List.filterMap_append, ← List.append_assoc,
    List.filterMap_map (l := segments rest)]
  rfl

theorem components_join_relative (hne : dir ≠ "") (hdir : isAbsolute dir = false)
    (hpath : isAbsolute path = false) :
    components (join dir path) = components dir ++ (segments path).filterMap componentOf := by
  rw [join_relative hpath]
  by_cases hlast : dir.toList.getLast? = some '/'
  · -- What stands before the slash at the end is not empty, since the path is relative.
    obtain ⟨cs, hcs⟩ := List.getLast?_eq_some_iff.1 hlast
    have hfront : String.ofList cs ≠ "" := by
      intro hnil
      rw [show cs = [] by simpa using congrArg String.toList hnil, List.nil_append] at hcs
      rw [isAbsolute, hcs] at hdir
      cases hdir
    have htext : dir = String.ofList cs ++ "/" := String.toList_injective (by simp [hcs])
    have habs : isAbsolute (String.ofList cs) = false := by
      rw [← isAbsolute_behind hfront "", String.append_empty, ← htext, hdir]
    have hsame : components dir = components (String.ofList cs) := by
      have hempty : dir = String.ofList cs ++ "/" ++ "" := by rw [String.append_empty, ← htext]
      rw [hempty, components_behind hfront habs, segments_of_no_slash (by simp)]
      simp
    rw [separator, if_pos (.inr hlast), String.append_empty, hsame, htext,
      components_behind hfront habs]
  · rw [separator, if_neg (by simp [String.isEmpty_iff, hne, hlast]), components_behind hne hdir]

/-- What stands behind a path adds its parts that count. -/
theorem components_join_of_ne (hne : dir ≠ "") (hpath : isAbsolute path = false) :
    components (join dir path) = components dir ++ (segments path).filterMap componentOf := by
  cases hdir : isAbsolute dir with
  | true => exact components_join hdir hpath
  | false => exact components_join_relative hne hdir hpath

theorem components_part {n : String} (hn : IsPart n) : components n = [.name n] := by
  have hsegs := segments_of_no_slash hn.no_slash
  have habs := isAbsolute_of_no_slash hn.no_slash
  rw [components, habs, parts_relative habs hsegs, if_neg hn.ne_here, componentOf_name hn]
  rfl

theorem fileName?_join {n : String} (hn : IsPart n) (dir : String) :
    fileName? (join dir n) = some n := by
  have habs := isAbsolute_of_no_slash hn.no_slash
  by_cases hdir : dir = ""
  · have hjoin : join dir n = n := by
      rw [join_relative habs, hdir]
      simp [separator]
    rw [hjoin, fileName?, components_part hn]
    rfl
  · rw [fileName?, components_join_of_ne hdir habs, segments_of_no_slash hn.no_slash,
      List.filterMap_cons_some (componentOf_name hn), List.filterMap_nil, List.getLast?_concat]

end

theorem filterMap_componentOf {names : List String} (h : ∀ n ∈ names, IsPart n) :
    names.filterMap componentOf = names.map Component.name := by
  induction names with
  | nil => rfl
  | cons n rest ih =>
    rw [List.filterMap_cons, componentOf_name (h n List.mem_cons_self),
      ih fun m hm => h m (List.mem_cons_of_mem _ hm)]
    rfl

/-- The components of the text that joins names behind the root. -/
theorem components_ofNames {names : List String} (h : ∀ n ∈ names, IsPart n) :
    components ("/" ++ "/".intercalate names) = .root :: names.map Component.name := by
  have habs : isAbsolute ("/" ++ "/".intercalate names) = true :=
    isAbsolute_append (by decide)
  have hsplit : "/" ++ "/".intercalate names = "" ++ "/" ++ "/".intercalate names := by simp
  rw [components_absolute habs, hsplit, segments_append, segments_of_no_slash (s := "") (by simp)]
  by_cases hne : names = []
  · subst hne
    rw [String.intercalate_nil, segments_of_no_slash (s := "") (by simp)]
    simp
  · rw [segments_intercalate hne fun n hn => (h n hn).no_slash]
    simp [filterMap_componentOf h]

end Path

end BuildGate
