import BuildGate.Proofs.NamedFiles
import BuildGate.Proofs.SharedSyntax

/-!
# One pattern on both sides

A pattern can select files, and with a mark before it take them away. Where both readers come to the
same components, the two sides are compared path by path: selecting, each component takes one name,
and taking away, one or several, since a star stands for slashes as well. So what a pattern selects
it takes away, and nothing else if each of its stars stands beside a `**`. With `**` at its end the
sides part: no file is selected, and every file below what the components match is taken away.

A listed path is compared where it is names with slashes between them. In other texts a component
may stand for a part that is empty, `.` or `..`, which no component selects by.

**Results.**
* `readAlike_patternText`: the patterns that are spelled with what both readers know.
* `takesAway_iff`, `mem_remaining_alone`: what such a pattern takes away and what it selects.
* `filesOf_without`: a list of entries with one more that takes away, against the pattern by itself.
* `filesOf_beyond_pattern`: patterns that take away more than they select.
-/
namespace BuildGate

open Glob Glob.Include FileTree

namespace FileSet

/-! ## Patterns that are read alike -/

/-- What takes away the paths that `comps` match, or what is below them if `below`. -/
def removingTokens (comps : List (List Include)) (below : Bool) : List Exclude :=
  if comps = [] then [.recursivePrefix]
  else Exclude.ofComponents comps ++ if below then [.recursiveSuffix] else []

/-- Both readers take `glob` for `comps`, with two stars behind them if `below`. -/
structure ReadAlike (ascii : Bool) (comps : List (List Include)) (below : Bool) (glob : String) :
    Prop where
  shared : Shared ascii comps
  nonempty : comps = [] → below = true
  selecting : readComponents (Path.splitSlash glob.toList) =
    .ok (comps ++ if below then [[.recursive]] else [])
  removing : Exclude.read glob = .ok (removingTokens comps below)

theorem readAlike_patternText {ascii below : Bool} {comps : List (List Include)}
    (h : AllSpelled comps) (hne : comps ≠ []) (hshared : Shared ascii comps) :
    ReadAlike ascii comps below (String.ofList (patternText comps below)) where
  shared := hshared
  nonempty hnil := absurd hnil hne
  selecting := by
    rw [String.toList_ofList]
    exact readComponents_patternText h hne below
  removing := by
    rw [removingTokens, if_neg hne]
    exact Exclude.read_patternText h hne below

/-- Two stars alone stand for all there is. -/
theorem readAlike_stars (ascii : Bool) : ReadAlike ascii [] true "**" where
  shared := ⟨by simp, by simp, by simp⟩
  nonempty _ := rfl
  selecting := by rfl
  removing := by rfl

/-- Such a pattern does not nest. -/
theorem not_nestsTooDeep_removingTokens (comps : List (List Include)) (below : Bool) :
    Exclude.nestsTooDeep (removingTokens comps below) = false := by
  refine Exclude.not_nestsTooDeep ?_
  rw [removingTokens]
  split
  · exact List.forall_mem_singleton.2 trivial
  · refine List.forall_mem_append.2 ⟨Exclude.noBraces_ofComponents comps, ?_⟩
    cases below <;> simp [Exclude.NoBraces]

/-! ## What is taken away -/

/-- `path` is `names` with slashes between them, and ASCII if `ascii`. -/
structure Spells (ascii : Bool) (path : String) (names : List String) : Prop where
  nonempty : names ≠ []
  parts : ∀ n ∈ names, Path.IsPart n
  text : path = "/".intercalate names
  legible : Exclude.Legible ascii path.toList

/-- `comps` match all of `names`, or if `below` a part of them with more behind it. -/
def Taken (comps : List (List Include)) (below : Bool) (names : List String) : Prop :=
  ∃ front back, names.map String.toList = front ++ back ∧ (back = [] ↔ below = false) ∧
    Matched Across comps front

section
variable {ascii below : Bool} {comps : List (List Include)} {glob path : String}
  {names : List String}

theorem Spells.splitSlash (h : Spells ascii path names) :
    Path.splitSlash path.toList = names.map String.toList := by
  have hsegs : Path.segments path = names := by
    rw [h.text]
    exact Path.segments_intercalate h.nonempty fun n hn => (h.parts n hn).no_slash
  rw [← hsegs, Path.segments, List.map_map]
  simp [Function.comp_def]

/-- The last of the names is no `..`. -/
theorem Spells.hasFileName (h : Spells ascii path names) : Exclude.hasFileName path = true := by
  rw [Exclude.hasFileName, h.splitSlash, List.getLast?_map, bne_iff_ne]
  intro hlast
  obtain ⟨n, hn, hdots⟩ := Option.map_eq_some_iff.1 hlast
  have hparent : n = ".." := String.toList_injective (by rw [hdots]; rfl)
  exact (h.parts n (List.mem_of_getLast? hn)).ne_up hparent

theorem accepts_stars (path : String) : Exclude.accepts [.recursivePrefix] path = true := by
  have hneeds : Exclude.needsFileName [.recursivePrefix] = false := by decide
  rw [Exclude.accepts]
  simp [hneeds]

theorem takesAway_iff (h : ReadAlike ascii comps below glob) (hpath : Spells ascii path names) :
    takesAway glob path = true ↔ Taken comps below names := by
  have htakes : takesAway glob path = Exclude.accepts (removingTokens comps below) path := by
    delta takesAway
    rw [h.removing]
  rw [htakes, removingTokens, Taken, ← hpath.splitSlash]
  by_cases hnil : comps = []
  · rw [if_pos hnil, h.nonempty hnil, hnil]
    refine iff_of_true (accepts_stars path) ⟨[], Path.splitSlash path.toList, rfl, ?_, rfl⟩
    simp [Path.splitSlash_ne_nil]
  · rw [if_neg hnil]
    cases below with
    | false =>
      rw [if_neg (by simp), List.append_nil,
        Exclude.accepts_ofComponents h.shared hnil hpath.legible hpath.hasFileName]
      constructor
      · exact fun hm => ⟨_, [], (List.append_nil _).symm, by simp, hm⟩
      · rintro ⟨front, back, heq, hback, hm⟩
        rwa [heq, hback.2 rfl, List.append_nil]
    | true =>
      rw [if_pos rfl, Exclude.accepts_below h.shared hnil hpath.legible]
      simp

end

/-! ## Entries at the end and alone -/

section
variable {t : FileTree} {root glob : String} {entries : List String}

theorem selecting_mark : selecting (entries ++ ["!" ++ glob]) = selecting entries := by
  simp [selecting, List.filter_append, negated?_mark]

theorem removing_mark : removing (entries ++ ["!" ++ glob]) = removing entries ++ [glob] := by
  simp [removing, List.filterMap_append, negated?_mark]

theorem removes_mark (hremoves : ∀ g ∈ removing entries, Removes g) (hglob : Removes glob) :
    ∀ g ∈ removing (entries ++ ["!" ++ glob]), Removes g := by
  rw [removing_mark, List.forall_mem_append, List.forall_mem_singleton]
  exact ⟨hremoves, hglob⟩

theorem filesOf_mark (hremoves : ∀ g ∈ removing entries, Removes g)
    (hselects : ∀ e ∈ selecting entries, Selects root e) (hglob : Removes glob)
    (hcompile : Compile (removing entries ++ [glob])) :
    filesOf t root (entries ++ ["!" ++ glob]) =
      .ok (firsts ((remaining t root entries).filter fun p => !takesAway glob p)) := by
  rw [filesOf_eq_ok (removes_mark hremoves hglob), chosen, remaining_oneMore, List.append_nil]
  · rwa [removing_mark]
  · rwa [selecting_mark]

/-- If the set compiles without the pattern and not with it, it has become too big. -/
theorem filesOf_mark_tooBig (hremoves : ∀ g ∈ removing entries, Removes g)
    (hbefore : Compile (removing entries)) {tokens : List Exclude}
    (hread : Exclude.read glob = .ok tokens) (hdepth : Exclude.nestsTooDeep tokens = false)
    (hcompile : ¬ Compile (removing entries ++ [glob])) :
    ∃ alone, filesOf t root (entries ++ ["!" ++ glob]) =
      .error (.pattern (excludeEntries (entries ++ ["!" ++ glob])) (.expression alone .tooBig)) := by
  have hmore : tokensOf (removing entries ++ [glob]) = tokensOf (removing entries) ++ [tokens] := by
    rw [tokensOf, List.filterMap_append, List.filterMap_cons_some (tokens?_eq_some.2 hread)]
    rfl
  obtain ⟨reason, hreason⟩ := Option.ne_none_iff_exists'.1 hcompile
  obtain ⟨alone, rfl⟩ := Exclude.setFault?_concat hbefore hdepth (hmore ▸ hreason)
  refine ⟨alone, ?_⟩
  rw [filesOf, read_eq_error_together (removes_mark hremoves ⟨_, hread⟩) (by rwa [removing_mark])]
  rfl

variable (hmark : negated? glob = none)
include hmark

/-- What remains of an entry by itself is what it leads to. -/
theorem remaining_alone :
    remaining t root [glob] = ((leadsTo t root glob).filter t.isFile).map (relativeTo root) := by
  have hselecting : selecting [glob] = [glob] := by simp [selecting, hmark]
  have hremoving : removing [glob] = [] := by simp [removing, hmark]
  rw [remaining, candidates, hselecting, hremoving]
  simp

theorem filesOf_alone (hselects : Selects root glob) :
    filesOf t root [glob] = .ok (chosen t root [glob]) :=
  filesOf_eq_ok (by simp [removing, hmark]) (by simpa [removing, hmark] using compile_nil)
    (by simpa [selecting, hmark] using hselects)

end

/-! ## What is selected -/

section
variable {t : FileTree} {root glob : String} {ascii below : Bool} {comps : List (List Include)}

theorem ReadAlike.last_piece (h : ReadAlike ascii comps below glob) :
    glob.toList ≠ [] ∧ glob.toList.getLast? ≠ some '/' := by
  -- An empty last piece would be an empty component.
  have hpiece : ∀ init, Path.splitSlash glob.toList ≠ init ++ [[]] := by
    intro init heq
    have hread := h.selecting
    rw [heq, readComponents_append] at hread
    obtain ⟨us, -, hread⟩ := FileTree.bind_eq_ok.1 hread
    have hlast : comps ++ (if below then [[.recursive]] else []) = us ++ [[]] :=
      (Except.ok.inj hread).symm
    have hend := congrArg List.getLast? hlast
    rw [List.getLast?_concat] at hend
    cases below with
    | true =>
      rw [if_pos rfl, List.getLast?_concat] at hend
      cases hend
    | false =>
      rw [if_neg (by simp), List.append_nil] at hend
      exact (h.shared.names [] (List.mem_of_getLast? hend)).1 rfl
  constructor
  · intro hnil
    exact hpiece [] (by rw [hnil]; rfl)
  · intro hlast
    obtain ⟨cs, hcs⟩ := List.getLast?_eq_some_iff.1 hlast
    exact hpiece (Path.splitSlash cs) (by rw [hcs]; exact Path.splitSlash_append cs [])

variable (habs : Path.isAbsolute root = true) (hrel : Path.isAbsolute glob = false)
  (hselects : Selects root glob)
include habs hrel hselects

theorem ReadAlike.read_rooted (h : ReadAlike ascii comps below glob) :
    Selector.read (rootedPattern root glob) = .ok ⟨"/", (rootPieces root).map (·.map literalToken) ++
      (comps ++ if below then [[.recursive]] else []), false⟩ := by
  obtain ⟨s, hs⟩ := hselects
  obtain ⟨hne, hlast⟩ := h.last_piece
  have hend : (rootedPattern root glob).toList.getLast? ≠ some '/' :=
    mt (getLast?_rootedPattern habs hrel).1 (not_or.2 ⟨mt String.toList_eq_nil_iff.2 hne, hlast⟩)
  obtain ⟨comps', -, hread, rfl⟩ := Selector.eq_of_read_rooted habs hrel hend hs
  obtain rfl := Except.ok.inj (h.selecting.symm.trans hread)
  exact hs

/-- With two stars at its end a pattern selects directories only. -/
theorem remaining_alone_below (hmark : negated? glob = none) (wf : t.WellFormed)
    (h : ReadAlike ascii comps true glob) : remaining t root [glob] = [] := by
  rw [remaining_alone hmark, List.map_eq_nil_iff, List.filter_eq_nil_iff]
  intro x hx
  have hread := h.read_rooted habs hrel hselects
  rw [leadsTo_eq hread] at hx
  obtain ⟨hslash, -⟩ := Selector.of_read hread
  have hdir : t.isDir x = true := by
    refine Selector.isDir_of_mem_expand wf hslash (.inr ?_) hx
    simp only [if_true]
    rw [← List.append_assoc, List.getLast?_concat]
  simp [not_isFile_of_isDir hdir]

/-- What a pattern selects are the files whose names its components match one by one. -/
theorem mem_remaining_alone (hmark : negated? glob = none) (wf : t.WellFormed) (lf : t.LinkFree)
    (h : ReadAlike ascii comps false glob) {f : String} :
    f ∈ remaining t root [glob] ↔ ∃ names : List String, names ≠ [] ∧ (∀ n ∈ names, IsName n) ∧
      f = "/".intercalate names ∧ t.isFile (Path.joinAll (rootPath root) names) = true ∧
        Matched OneName comps (names.map String.toList) := by
  have hne : comps ≠ [] := fun hnil => by cases h.nonempty hnil
  have hroot := isAbsolute_rootPath root
  have hleads : leadsTo t root glob = Selector.expand t
      ⟨"/", (rootPieces root).map (·.map literalToken) ++ comps, false⟩ := by
    rw [leadsTo_eq (h.read_rooted habs hrel hselects), if_neg (by simp), List.append_nil]
  have hrelative : ∀ names : List String, names ≠ [] → (∀ n ∈ names, IsName n) →
      relativeTo root (Path.joinAll (rootPath root) names) = "/".intercalate names := by
    intro names hnames hparts
    have hparts : ∀ n ∈ names, Path.IsPart n := fun n hn => (hparts n hn).toIsPart
    rw [relativeTo, Path.joinAll_names hnames hparts,
      Path.stripPrefix?_join habs hroot (components_rootPath habs) hnames hparts, Option.getD_some]
  rw [remaining_alone hmark, hleads, List.mem_map]
  constructor
  · rintro ⟨x, hx, rfl⟩
    obtain ⟨hx, hfile⟩ := List.mem_filter.1 hx
    obtain ⟨names, rfl, hnames, hm⟩ := (mem_expand_matched wf lf h.shared hne root hfile).1 hx
    have hnonempty : names ≠ [] := by
      rintro rfl
      exact h.shared.ne_nil_of_matched hne (hm.mono fun _ _ hone => hone.across) rfl
    exact ⟨names, hnonempty, hnames, hrelative names hnonempty hnames, hfile, hm⟩
  · rintro ⟨names, hnonempty, hnames, rfl, hfile, hm⟩
    refine ⟨_, List.mem_filter.2 ⟨?_, hfile⟩, hrelative names hnonempty hnames⟩
    exact (mem_expand_matched wf lf h.shared hne root hfile).2 ⟨names, rfl, hnames, hm⟩

end

/-! ## Both sides -/

/-- How `rest`, the files of a list with one more entry that takes away, come out of its `files`,
beside the files `own` that `comps` select by themselves; `listed` are the files before each path is
kept once. -/
structure Compared (ascii : Bool) (comps : List (List Include)) (below : Bool)
    (listed files own rest : List String) : Prop where
  /-- What stays is what the components do not match. -/
  kept : ∀ f ∈ files, ∀ names, Spells ascii f names → (f ∈ rest ↔ ¬ Taken comps below names)
  /-- What the pattern selects does not stay. -/
  own_gone : ∀ f ∈ files, ∀ names, Spells ascii f names → f ∈ own → f ∉ rest
  /-- A pattern for what is below selects no file. -/
  own_below : below = true → own = []
  /-- Where no star takes slashes in effect, all else stays. -/
  others_kept : below = false → Harmless false comps →
    ∀ f ∈ files, ∀ names, Spells ascii f names → (f ∈ rest ↔ f ∉ own)
  /-- The order stays as it was, and where no star takes slashes the files are the others. -/
  in_order : (∀ f ∈ listed, ∃ names, Spells ascii f names) → rest.Sublist files ∧
    (below = false → Harmless false comps → rest = files.filter fun f => f ∉ own)

section
variable {t : FileTree} {root glob : String} {ascii below : Bool} {comps : List (List Include)}
  {entries : List String}

theorem eq_of_same_of_spells {ascii : Bool} {a b : String} {as bs : List String}
    (ha : Spells ascii a as) (hb : Spells ascii b bs) (h : Path.same a b = true) : a = b := by
  rw [ha.text, hb.text] at h ⊢
  rw [Path.names_inj ha.parts hb.parts (beq_iff_eq.1 h)]

/-- Of the paths that are listed the pattern selects those whose names its components match. -/
theorem mem_own_iff (wf : t.WellFormed) (lf : t.LinkFree) (habs : Path.isAbsolute root = true)
    (hentries : ∀ e ∈ selecting entries, Path.isAbsolute e = false)
    (h : ReadAlike ascii comps false glob) (hrel : Path.isAbsolute glob = false)
    (hmark : negated? glob = none) (hselects : Selects root glob) {f : String} {names : List String}
    (hf : f ∈ candidates t root entries) (hnames : Spells ascii f names) :
    f ∈ chosen t root [glob] ↔ Matched OneName comps (names.map String.toList) := by
  have hmem := fun f => @mem_remaining_alone t root glob ascii comps habs hrel hselects hmark wf lf h f
  have hdistinct : ∀ a ∈ remaining t root [glob], ∀ b ∈ remaining t root [glob],
      Path.components a = Path.components b → a = b := by
    intro a ha b hb heq
    obtain ⟨as, -, has, rfl, -⟩ := (hmem a).1 ha
    obtain ⟨bs, -, hbs, rfl, -⟩ := (hmem b).1 hb
    rw [Path.names_inj (fun n hn => (has n hn).toIsPart) (fun n hn => (hbs n hn).toIsPart) heq]
  rw [chosen, ← distinctPaths_eq, mem_distinctPaths hdistinct, hmem]
  constructor
  · rintro ⟨names', -, hnames', heq, -, hm⟩
    have : names = names' := Path.names_inj hnames.parts (fun n hn => (hnames' n hn).toIsPart)
      (by rw [← hnames.text, heq])
    rwa [this]
  · intro hm
    obtain ⟨hfile, hisName⟩ := isFile_of_mem_candidates wf lf habs hentries hnames.nonempty
      hnames.parts (hnames.text ▸ hf)
    exact ⟨names, hnames.nonempty, hisName, hnames.text, hfile, hm⟩

theorem taken_iff_across {names : List String} :
    Taken comps false names ↔ Matched Across comps (names.map String.toList) := by
  constructor
  · rintro ⟨front, back, heq, hback, hm⟩
    rwa [heq, hback.2 rfl, List.append_nil]
  · exact fun hm => ⟨_, [], (List.append_nil _).symm, by simp, hm⟩

theorem Spells.areNames {path : String} {names : List String} (h : Spells ascii path names) :
    AreNames (names.map String.toList) := by
  intro n hn
  obtain ⟨m, hm, rfl⟩ := List.mem_map.1 hn
  exact ⟨by simpa using (h.parts m hm).ne_empty, (h.parts m hm).no_slash⟩

/-- Where every star stands beside a `**`, a path is taken away by the names it is selected by. -/
theorem taken_iff_of_harmless (h : Harmless false comps) (hshared : Shared ascii comps)
    {path : String} {names : List String} (hnames : Spells ascii path names) :
    Taken comps false names ↔ Matched OneName comps (names.map String.toList) := by
  rw [taken_iff_across]
  constructor
  · intro hm
    obtain ⟨front, back, heq, hfront, hone⟩ := h.matched hshared hnames.areNames hm
    rwa [heq, hfront rfl]
  · exact fun hm => hm.mono fun _ _ hone => hone.across

theorem compared (wf : t.WellFormed) (lf : t.LinkFree) (habs : Path.isAbsolute root = true)
    (hentries : ∀ e ∈ selecting entries, Path.isAbsolute e = false)
    (h : ReadAlike ascii comps below glob) (hrel : Path.isAbsolute glob = false)
    (hmark : negated? glob = none) (hselects : Selects root glob) :
    Compared ascii comps below (remaining t root entries) (chosen t root entries)
      (chosen t root [glob])
      (firsts ((remaining t root entries).filter fun p => !takesAway glob p)) := by
  generalize hrest : firsts ((remaining t root entries).filter fun p => !takesAway glob p) = rest
  have hlisted : ∀ f ∈ chosen t root entries, f ∈ candidates t root entries := fun f hf =>
    (mem_remaining.1 ((firsts_sublist _).subset hf)).1
  have hbelow : below = true → chosen t root [glob] = [] := by
    rintro rfl
    rw [chosen, remaining_alone_below habs hrel hselects hmark wf h]
    rfl
  have hkept : ∀ f ∈ chosen t root entries, ∀ names, Spells ascii f names →
      (f ∈ rest ↔ ¬ Taken comps below names) := by
    intro f hf names hnames
    rw [← hrest, ← takesAway_iff h hnames, Bool.not_eq_true]
    constructor
    · intro hmem
      simpa using (List.mem_filter.1 ((firsts_sublist _).subset hmem)).2
    · exact fun hno => mem_firsts_filter hf (by simp [hno])
  have hothers : below = false → Harmless false comps → ∀ f ∈ chosen t root entries, ∀ names,
      Spells ascii f names → (f ∈ rest ↔ f ∉ chosen t root [glob]) := by
    rintro rfl hharmless f hf names hnames
    rw [hkept f hf names hnames, mem_own_iff wf lf habs hentries h hrel hmark hselects
      (hlisted f hf) hnames, taken_iff_of_harmless hharmless h.shared hnames]
  refine ⟨hkept, fun f hf names hnames hown => ?_, hbelow, hothers, fun hall => ?_⟩
  · cases below with
    | true =>
      rw [hbelow rfl] at hown
      cases hown
    | false =>
      rw [mem_own_iff wf lf habs hentries h hrel hmark hselects (hlisted f hf) hnames] at hown
      rw [hkept f hf names hnames, not_not, taken_iff_across]
      exact hown.mono fun _ _ hone => hone.across
  · -- No path has two texts, so none moves up.
    have hfilter : rest = (chosen t root entries).filter fun p => !takesAway glob p := by
      rw [← hrest, chosen, firsts_filter]
      intro f hf htaken p hp hsame
      obtain ⟨as, has⟩ := hall f ((firsts_sublist _).subset hf)
      obtain ⟨bs, hbs⟩ := hall p hp
      rwa [← eq_of_same_of_spells has hbs hsame]
    refine ⟨hfilter ▸ List.filter_sublist, fun hword hharmless => ?_⟩
    rw [hfilter]
    refine List.filter_congr fun f hf => ?_
    obtain ⟨names, hnames⟩ := hall f ((firsts_sublist _).subset hf)
    rw [Bool.eq_iff_iff, decide_eq_true_iff, ← hothers hword hharmless f hf names hnames, hfilter,
      List.mem_filter]
    simp [hf]

end

/-- Two stars are read alike, and so is whatever is `AllSpelled` and `Shared`. With such a `glob`,
if `entries` come to `files`, so do `glob` by itself and the list with the entry `!glob` more; these
files are `Compared` path by path. Only a set of patterns that becomes too big fails, to which a
pattern adds nothing that needs no expression. -/
theorem filesOf_without :
    ((∀ ascii, ReadAlike ascii [] true "**") ∧
      ∀ ascii comps below, AllSpelled comps → comps ≠ [] → Shared ascii comps →
        ReadAlike ascii comps below (String.ofList (patternText comps below))) ∧
    ∀ (t : FileTree) (root : String) (entries files : List String) (ascii : Bool)
      (comps : List (List Include)) (below : Bool) (glob : String),
      t.WellFormed → t.LinkFree → Path.isAbsolute root = true →
      (∀ e ∈ selecting entries, Path.isAbsolute e = false) →
      filesOf t root entries = .ok files → ReadAlike ascii comps below glob →
      Path.isAbsolute glob = false → negated? glob = none → Selects root glob →
      ∃ own, filesOf t root [glob] = .ok own ∧
        (Compile (removing entries ++ [glob]) →
          ∃ rest, filesOf t root (entries ++ ["!" ++ glob]) = .ok rest ∧
            Compared ascii comps below (remaining t root entries) files own rest) ∧
        (¬ Compile (removing entries ++ [glob]) →
          ∃ alone, filesOf t root (entries ++ ["!" ++ glob]) = .error
            (.pattern (excludeEntries (entries ++ ["!" ++ glob])) (.expression alone .tooBig))) ∧
        (Exclude.needsExpression (removingTokens comps below) = false →
          Compile (removing entries ++ [glob])) := by
  refine ⟨⟨readAlike_stars, fun ascii comps below h hne hshared =>
    readAlike_patternText h hne hshared⟩, ?_⟩
  intro t root entries files ascii comps below glob wf lf habs hentries hfiles h hrel hmark hselects
  obtain ⟨⟨hremoves, hbefore, hall⟩, rfl⟩ := filesOf_eq_ok_iff.1 hfiles
  refine ⟨_, filesOf_alone hmark hselects, fun hcompile => ?_, ?_, fun hneeds => ?_⟩
  · exact ⟨_, filesOf_mark hremoves hall ⟨_, h.removing⟩ hcompile,
      compared wf lf habs hentries h hrel hmark hselects⟩
  · exact filesOf_mark_tooBig hremoves hbefore h.removing
      (not_nestsTooDeep_removingTokens comps below)
  · rw [compile_insert h.removing hneeds, List.append_nil]
    exact hbefore

/-! ## Two scripts -/

/-- The components of `lib/**/*.js`. -/
def scriptsBelow : List (List Include) :=
  ["lib".toList.map .char, [.recursive], .many :: ".js".toList.map .char]

theorem allSpelled_scriptsBelow : AllSpelled scriptsBelow where
  words := by decide
  last := by decide

theorem shared_scriptsBelow : Shared false scriptsBelow where
  tokens := by decide
  names := by decide
  last := by decide

def bothScripts : List String := ["lib/a.js", "b.js"]

theorem selects_bothScripts : ∀ e ∈ selecting bothScripts, Selects "/proj" e := by
  have hselecting : selecting bothScripts = ["lib/a.js", "b.js"] := by decide
  rw [hselecting]
  simp only [List.forall_mem_cons, List.not_mem_nil, false_implies, implies_true, and_true]
  exact ⟨⟨_, by rfl⟩, ⟨_, by rfl⟩⟩

theorem remaining_bothScripts : remaining twoScripts "/proj" bothScripts = bothScripts := by
  have ha := files_spelled "lib/a.js" ["proj", "lib", "a.js"]
    (by rfl) (by decide) (by decide) (by rfl) (by rfl)
  have hb := files_spelled "b.js" ["proj", "b.js"]
    (by rfl) (by decide) (by decide) (by rfl) (by rfl)
  have hselecting : selecting bothScripts = ["lib/a.js", "b.js"] := by decide
  have hremoving : removing bothScripts = [] := by decide
  rw [remaining, candidates, hselecting, hremoving]
  simp only [List.flatMap_cons, List.flatMap_nil, ha, hb]
  decide +kernel

theorem filesOf_bothScripts : filesOf twoScripts "/proj" bothScripts = .ok bothScripts := by
  have hremoving : removing bothScripts = [] := by decide
  rw [filesOf_eq_ok (by simp [hremoving]) (by rw [hremoving]; exact compile_nil) selects_bothScripts,
    chosen, remaining_bothScripts]
  exact congrArg Except.ok (by decide +kernel)

/-- With two stars between, a pattern takes away the one script that it selects. -/
theorem filesOf_without_scriptsBelow :
    ∃ own rest, filesOf twoScripts "/proj" ["lib/**/*.js"] = .ok own ∧
      filesOf twoScripts "/proj" (bothScripts ++ ["!" ++ "lib/**/*.js"]) = .ok rest ∧
      rest = bothScripts.filter fun f => f ∉ own := by
  have htext : String.ofList (patternText scriptsBelow false) = "lib/**/*.js" := by decide
  have hread : ReadAlike false scriptsBelow false "lib/**/*.js" := by
    rw [← htext]
    exact filesOf_without.1.2 false scriptsBelow false allSpelled_scriptsBelow (by decide)
      shared_scriptsBelow
  obtain ⟨own, hown, hwithout, -⟩ := filesOf_without.2 twoScripts "/proj" bothScripts
    bothScripts false scriptsBelow false "lib/**/*.js" (by decide) (by decide) (by decide)
    (by decide) filesOf_bothScripts hread (by decide) (by decide) ⟨_, by rfl⟩
  obtain ⟨rest, hrest, hcompared⟩ := hwithout (by decide +kernel)
  have isPart : ∀ names : List String, (∀ n ∈ names, IsName n) → ∀ n ∈ names, Path.IsPart n :=
    fun names h n hn => (h n hn).toIsPart
  have hspells : ∀ f ∈ remaining twoScripts "/proj" bothScripts, ∃ names, Spells false f names := by
    rw [remaining_bothScripts, bothScripts, List.forall_mem_cons, List.forall_mem_singleton]
    refine ⟨⟨["lib", "a.js"], ?_⟩, ⟨["b.js"], ?_⟩⟩
    · exact ⟨by decide, isPart ["lib", "a.js"] (by decide), by decide, by simp [Exclude.Legible]⟩
    · exact ⟨by decide, isPart ["b.js"] (by decide), by decide, by simp [Exclude.Legible]⟩
  have hharmless : Harmless false scriptsBelow := by
    simp [Harmless, scriptsBelow, isRecursive, StarsAhead, crosses, Include.takes]
  exact ⟨own, rest, hown, hrest, (hcompared.in_order hspells).2 rfl hharmless⟩

theorem filesOf_bothScripts_mark {glob : String} (h : Removes glob) (hcompile : Compile [glob]) :
    filesOf twoScripts "/proj" (bothScripts ++ ["!" ++ glob]) =
      .ok (firsts (bothScripts.filter fun p => !takesAway glob p)) := by
  have hremoving : removing bothScripts = [] := by decide
  rw [filesOf_mark (by simp [hremoving]) selects_bothScripts h (by rwa [hremoving]),
    remaining_bothScripts]

/-- Two patterns take away a script that they do not select: one is for what is below a directory,
where it selects directories only, and one has a star that stands for a slash where it takes away. -/
theorem filesOf_beyond_pattern :
    filesOf twoScripts "/proj" bothScripts = .ok ["lib/a.js", "b.js"] ∧
      (filesOf twoScripts "/proj" ["lib/**"] = .ok [] ∧
        filesOf twoScripts "/proj" (bothScripts ++ ["!" ++ "lib/**"]) = .ok ["b.js"]) ∧
      (∃ own, filesOf twoScripts "/proj" ["*.js"] = .ok own ∧ "lib/a.js" ∉ own) ∧
        filesOf twoScripts "/proj" (bothScripts ++ ["!" ++ "*.js"]) = .ok [] := by
  have habs : Path.isAbsolute "/proj" = true := by decide
  have hbelow : ReadAlike false ["lib".toList.map .char] true "lib/**" :=
    ⟨⟨by decide, by decide, by decide⟩, by decide, by rfl, by rfl⟩
  have hstar : ReadAlike false [.many :: ".js".toList.map .char] false "*.js" :=
    ⟨⟨by decide, by decide, by decide⟩, by decide, by rfl, by rfl⟩
  have hselects : Selects "/proj" "lib/**" := ⟨_, by rfl⟩
  have hselects' : Selects "/proj" "*.js" := ⟨_, by rfl⟩
  refine ⟨filesOf_bothScripts, ⟨?_, ?_⟩, ⟨_, filesOf_alone (by decide) hselects', ?_⟩, ?_⟩
  · rw [filesOf_alone (by decide) hselects, chosen,
      remaining_alone_below habs (by decide) hselects (by decide) (by decide) hbelow]
    rfl
  · rw [filesOf_bothScripts_mark ⟨_, hbelow.removing⟩ (by decide +kernel)]
    exact congrArg Except.ok (by decide +kernel)
  · -- The one component takes one name, and the path has two.
    intro hmem
    obtain ⟨names, -, hnames, hpath, -, hm⟩ := (mem_remaining_alone habs (by decide) hselects'
      (by decide) (by decide) (by decide) hstar).1 ((firsts_sublist _).subset hmem)
    have htwo : names = ["lib", "a.js"] := Path.names_inj (fun n hn => (hnames n hn).toIsPart)
      (fun n hn => ((by decide : ∀ n ∈ ["lib", "a.js"], IsName n) n hn).toIsPart)
      (congrArg Path.components hpath.symm)
    subst htwo
    obtain ⟨front, back, hcut, hone, rfl⟩ := hm
    obtain ⟨n, rfl, -⟩ := hone (by decide)
    cases hcut
  · rw [filesOf_bothScripts_mark ⟨_, hstar.removing⟩ (by decide +kernel)]
    exact congrArg Except.ok (by decide +kernel)

end FileSet

end BuildGate
