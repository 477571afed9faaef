import BuildGate.Proofs.BoundedWalk
import BuildGate.Proofs.SamePattern
import BuildGate.Settings.Basic

/-!
# The scripts of modules

The style check looks at the scripts of the modules whose names begin with `gh-`, at any depth, and
not at what such a module has in a `node_modules` directory of its own. The entry that selects takes
the path name by name. In the one that takes away, the star behind `gh-` stands for slashes as well,
so it can go on through the module's directories to any `node_modules` below it.

**Results.**
* `matched_moduleScripts`: the names of the paths that are selected.
* `across_nestedScripts`: of these, the ones with `node_modules` among the module's directories are
  taken away.
* `filesOf_styleFiles`: the files that the style check takes without other settings.
-/
namespace BuildGate

open Glob Glob.Include

/-! ## The patterns -/

/-- The scripts of modules, at any depth. -/
def moduleScripts : List (List Include) :=
  ["node_modules".toList.map .char, "gh-".toList.map .char ++ [.many], [.recursive],
    .many :: ".js".toList.map .char]

/-- The scripts of what a module has in a directory of its own for modules. -/
def nestedScripts : List (List Include) :=
  ["node_modules".toList.map .char, "gh-".toList.map .char ++ [.many],
    "node_modules".toList.map .char, [.recursive], .many :: ".js".toList.map .char]

theorem readAlike_moduleScripts :
    FileSet.ReadAlike false moduleScripts false "node_modules/gh-*/**/*.js" := by
  have htext : String.ofList (patternText moduleScripts false) = "node_modules/gh-*/**/*.js" := by
    decide
  rw [← htext]
  exact FileSet.readAlike_patternText ⟨by decide, by decide⟩ (by decide)
    ⟨by decide, by decide, by decide⟩

theorem readAlike_nestedScripts :
    FileSet.ReadAlike false nestedScripts false "node_modules/gh-*/node_modules/**/*.js" := by
  have htext : String.ofList (patternText nestedScripts false) =
      "node_modules/gh-*/node_modules/**/*.js" := by
    decide
  rw [← htext]
  exact FileSet.readAlike_patternText ⟨by decide, by decide⟩ (by decide)
    ⟨by decide, by decide, by decide⟩

theorem selects_moduleScripts {root : String} (habs : Path.isAbsolute root = true) :
    FileSet.Selects root "node_modules/gh-*/**/*.js" := by
  have hrel : Path.isAbsolute "node_modules/gh-*/**/*.js" = false := by decide
  have hread : ∀ fuel pos, ∃ us, readTokens (fuel + 1 + "node_modules/gh-*/**/*.js".toList.length) pos
      (some '/') "node_modules/gh-*/**/*.js".toList = .ok us := fun _ _ => ⟨_, by rfl⟩
  obtain ⟨us, hus⟩ := read_rootedPattern habs hrel hread
  refine ⟨⟨"/", (rootPieces root).map (·.map literalToken) ++ moduleScripts, false⟩, ?_⟩
  have hcomponents := readAlike_moduleScripts.selecting
  rw [if_neg (by decide), List.append_nil] at hcomponents
  rw [Selector.read_rooted habs hrel (by decide) (by decide), hus, hcomponents]
  rfl

/-! ## The names that they match -/

section
variable {names : List (List Char)}

theorem accepts_chars_many (cs name : List Char) :
    accepts (cs.map .char ++ [.many]) name = true ↔ cs <+: name := by
  induction cs generalizing name with
  | nil => exact iff_of_true (accepts_many_alone name) (List.nil_prefix)
  | cons c cs ih =>
    cases name with
    | nil => simp [accepts]
    | cons d name =>
      rw [List.map_cons, List.cons_append, accepts, Bool.and_eq_true, ih, beq_iff_eq,
        List.cons_prefix_cons, eq_comm]

/-- A component of characters takes one name, also where it may take several. -/
theorem across_chars {cs : List Char} (hcs : '/' ∉ cs) (hnames : ∀ n ∈ names, '/' ∉ n) :
    Across (cs.map .char) names ↔ names = [cs] := by
  rw [Across, accepts_chars]
  constructor
  · rintro ⟨hne, rfl⟩
    rw [← Path.splitSlash_of_not_mem hcs, Path.splitSlash_joinSlash hne hnames]
  · rintro rfl
    exact ⟨List.cons_ne_nil _ _, by rw [Path.joinSlash, List.intercalate_singleton]⟩

theorem matched_word {takes : List Include → List (List Char) → Prop} (ts : List Include)
    {more : List (List Include)} (hts : isRecursive ts = false) : Matched takes (ts :: more) names ↔
      ∃ front back, names = front ++ back ∧ takes ts front ∧ Matched takes more back := by
  simp only [Matched, hts, forall_const]

theorem matched_stars {takes : List Include → List (List Char) → Prop} {more : List (List Include)} :
    Matched takes ([.recursive] :: more) names ↔
      ∃ front back, names = front ++ back ∧ Matched takes more back := by
  have hstars : isRecursive [.recursive] = true := by decide
  simp only [Matched, hstars, Bool.true_eq_false, false_implies, true_and]

theorem matched_last {takes : List Include → List (List Char) → Prop} (ts : List Include)
    (hts : isRecursive ts = false) : Matched takes [ts] names ↔ takes ts names := by
  simp only [matched_word ts hts]
  constructor
  · rintro ⟨front, _, rfl, h, rfl⟩
    rwa [List.append_nil]
  · exact fun h => ⟨names, [], (List.append_nil _).symm, h, rfl⟩

theorem matched_moduleScripts : Matched OneName moduleScripts names ↔
    ∃ m dirs n, names = "node_modules".toList :: m :: (dirs ++ [n]) ∧ "gh-".toList <+: m ∧
      ".js".toList <:+ n := by
  rw [moduleScripts, matched_word _ (by decide)]
  simp only [matched_word ("gh-".toList.map .char ++ [.many]) (by decide), matched_stars,
    matched_last (.many :: ".js".toList.map .char) (by decide), OneName, accepts_chars,
    accepts_chars_many, accepts_many_chars]
  constructor
  · rintro ⟨_, _, rfl, ⟨_, rfl, rfl⟩, _, _, rfl, ⟨m, rfl, hm⟩, dirs, _, rfl, n, rfl, hn⟩
    exact ⟨m, dirs, n, rfl, hm, hn⟩
  · rintro ⟨m, dirs, n, rfl, hm, hn⟩
    exact ⟨[_], _, rfl, ⟨_, rfl, rfl⟩, [m], _, rfl, ⟨m, rfl, hm⟩, dirs, _, rfl, n, rfl, hn⟩

/-- The star behind `gh-` can take the module's directories up to any `node_modules`. -/
theorem across_nestedScripts {m n : List Char} {dirs : List (List Char)} (hm : "gh-".toList <+: m)
    (hn : ".js".toList <:+ n) (hslash : ∀ d ∈ m :: (dirs ++ [n]), '/' ∉ d) :
    Matched Across nestedScripts ("node_modules".toList :: m :: (dirs ++ [n])) ↔
      "node_modules".toList ∈ dirs := by
  have hmodules : '/' ∉ "node_modules".toList := by decide
  rw [nestedScripts, matched_word _ (by decide)]
  simp only [matched_word ("gh-".toList.map .char ++ [.many]) (by decide),
    matched_word ("node_modules".toList.map .char) (by decide), matched_stars,
    matched_last (.many :: ".js".toList.map .char) (by decide)]
  constructor
  · rintro ⟨front, _, hnames, hfront, as, _, rfl, hgh, word, _, rfl, hword, bs, last, rfl, hlast, -⟩
    have hall : ∀ d ∈ front ++ (as ++ (word ++ (bs ++ last))), '/' ∉ d := by
      rw [← hnames]
      exact List.forall_mem_cons.2 ⟨hmodules, hslash⟩
    simp only [List.forall_mem_append] at hall
    obtain rfl := (across_chars hmodules hall.1).1 hfront
    obtain rfl := (across_chars hmodules hall.2.2.1).1 hword
    obtain ⟨a, as, rfl⟩ := List.exists_cons_of_ne_nil hgh.1
    have htail : dirs ++ [n] = as ++ "node_modules".toList :: (bs ++ last) := by
      simpa using (List.cons.inj (List.cons.inj hnames).2).2
    -- Something stands behind that name, so it is not the script's.
    have hdirs := congrArg List.dropLast htail
    rw [List.dropLast_concat, List.dropLast_append_of_ne_nil (List.cons_ne_nil _ _),
      List.dropLast_cons_of_ne_nil (List.append_ne_nil_of_right_ne_nil _ hlast)] at hdirs
    rw [hdirs]
    simp
  · intro hmem
    obtain ⟨as, bs, rfl⟩ := List.append_of_mem hmem
    have hgh : Across ("gh-".toList.map .char ++ [.many]) (m :: as) := by
      refine ⟨List.cons_ne_nil _ _, (accepts_chars_many _ _).2 (hm.trans ?_)⟩
      rw [Path.joinSlash]
      cases as with
      | nil => exact (List.intercalate_singleton ..) ▸ List.prefix_rfl
      | cons a as =>
        rw [List.intercalate_cons_of_ne_nil (List.cons_ne_nil _ _), List.append_assoc]
        exact List.prefix_append ..
    refine ⟨[_], _, rfl, (across_chars hmodules (by simp)).2 rfl, m :: as,
      "node_modules".toList :: (bs ++ [n]), by simp, hgh, ["node_modules".toList], bs ++ [n], rfl,
      (across_chars hmodules (by simp)).2 rfl, bs, [n], rfl, ?_⟩
    exact (OneName.across ⟨n, rfl, (accepts_many_chars _ _).2 hn⟩)

end

/-! ## The files -/

namespace FileSet

section
variable {t : FileTree} {root : String} (wf : t.WellFormed) (lf : t.LinkFree)
  (habs : Path.isAbsolute root = true)
include wf lf habs

/-- What the selecting entry leads to by itself. -/
theorem mem_remaining_moduleScripts {f : String} :
    f ∈ remaining t root ["node_modules/gh-*/**/*.js"] ↔ ∃ module dirs name,
      f = "/".intercalate ("node_modules" :: module :: (dirs ++ [name])) ∧
        (∀ n ∈ module :: (dirs ++ [name]), IsName n) ∧ "gh-".toList <+: module.toList ∧
          ".js".toList <:+ name.toList ∧ t.isFile (Path.join (rootPath root) f) = true := by
  have hmodules : IsName "node_modules" := by decide
  rw [mem_remaining_alone habs (by decide) (selects_moduleScripts habs) (by decide) wf lf
    readAlike_moduleScripts]
  simp only [matched_moduleScripts]
  constructor
  · rintro ⟨names, hne, hnames, rfl, hfile, m, ds, n, heq, hm, hn⟩
    rw [Path.joinAll_names hne fun n hn => (hnames n hn).toIsPart] at hfile
    obtain ⟨first, names, rfl, hfirst, htail⟩ := List.map_eq_cons_iff.1 heq
    obtain ⟨module, below, rfl, rfl, hbelow⟩ := List.map_eq_cons_iff.1 htail
    obtain ⟨dirs, last, rfl, rfl, hlast⟩ := List.map_eq_append_iff.1 hbelow
    obtain ⟨name, rest, rfl, rfl, hrest⟩ := List.map_eq_cons_iff.1 hlast
    obtain rfl := List.map_eq_nil_iff.1 hrest
    obtain rfl := String.toList_injective hfirst
    exact ⟨module, dirs, name, rfl, (List.forall_mem_cons.1 hnames).2, hm, hn, hfile⟩
  · rintro ⟨module, dirs, name, rfl, hnames, hm, hn, hfile⟩
    have hall := List.forall_mem_cons.2 ⟨hmodules, hnames⟩
    refine ⟨_, List.cons_ne_nil _ _, hall, rfl, ?_, module.toList, dirs.map String.toList,
      name.toList, by simp, hm, hn⟩
    rwa [Path.joinAll_names (List.cons_ne_nil _ _) fun n hn => (hall n hn).toIsPart]

omit wf lf habs in
/-- The other entry takes such a path away where the module's directories are not free of
`node_modules`. -/
theorem takesAway_nestedScripts {module name : String} {dirs : List String}
    (hnames : ∀ n ∈ module :: (dirs ++ [name]), IsName n) (hm : "gh-".toList <+: module.toList)
    (hn : ".js".toList <:+ name.toList) :
    takesAway "node_modules/gh-*/node_modules/**/*.js"
      ("/".intercalate ("node_modules" :: module :: (dirs ++ [name]))) = true ↔
        "node_modules" ∈ dirs := by
  have hmodules : IsName "node_modules" := by decide
  have hall := List.forall_mem_cons.2 ⟨hmodules, hnames⟩
  have hspells : Spells false ("/".intercalate ("node_modules" :: module :: (dirs ++ [name])))
      ("node_modules" :: module :: (dirs ++ [name])) :=
    ⟨List.cons_ne_nil _ _, fun n hn => (hall n hn).toIsPart, rfl, fun h => by cases h⟩
  have hslash : ∀ d ∈ module.toList :: (dirs.map String.toList ++ [name.toList]), '/' ∉ d := by
    intro d hd
    obtain ⟨n, hn, rfl⟩ := List.mem_map.1
      (show d ∈ (module :: (dirs ++ [name])).map String.toList by simpa using hd)
    exact (hnames n hn).no_slash
  have hchars : ("node_modules" :: module :: (dirs ++ [name])).map String.toList =
      "node_modules".toList :: module.toList :: (dirs.map String.toList ++ [name.toList]) := by
    simp
  rw [takesAway_iff readAlike_nestedScripts hspells, taken_iff_across, hchars,
    across_nestedScripts hm hn hslash, List.mem_map_of_injective fun _ _ => String.toList_injective]

/-- The `files` of `StyleSettings` as they are by default lead to the scripts of the modules whose
names begin with `gh-`, at any depth, but for those with a `node_modules` anywhere among the
module's directories, and to each once. -/
theorem filesOf_styleFiles :
    ∃ files, filesOf t root ({} : StyleSettings).files = .ok files ∧
      files.Pairwise (fun a b => Path.same a b = false) ∧
      ∀ f, f ∈ files ↔ ∃ module dirs name,
        f = "/".intercalate ("node_modules" :: module :: (dirs ++ [name])) ∧
          (∀ n ∈ module :: (dirs ++ [name]), IsName n) ∧ "gh-".toList <+: module.toList ∧
            "node_modules" ∉ dirs ∧ ".js".toList <:+ name.toList ∧
              t.isFile (Path.join (rootPath root) f) = true := by
  have hentries : ({} : StyleSettings).files =
      ["node_modules/gh-*/**/*.js"] ++ ["!" ++ "node_modules/gh-*/node_modules/**/*.js"] := by
    decide
  have hfiles : filesOf t root ({} : StyleSettings).files =
      .ok (firsts ((remaining t root ["node_modules/gh-*/**/*.js"]).filter
        fun p => !takesAway "node_modules/gh-*/node_modules/**/*.js" p)) := by
    rw [hentries]
    have hremoving : removing ["node_modules/gh-*/**/*.js"] = [] := by decide
    refine filesOf_mark ?_ ?_ ?_ (by rw [hremoving]; decide +kernel)
    · simp [hremoving]
    · have hselecting : selecting ["node_modules/gh-*/**/*.js"] = ["node_modules/gh-*/**/*.js"] := by
        decide
      rw [hselecting, List.forall_mem_singleton]
      exact selects_moduleScripts habs
    · exact ⟨_, readAlike_nestedScripts.removing⟩
  refine ⟨_, hfiles, firsts_pairwise _, fun f => ?_⟩
  have hmem := fun f => @mem_remaining_moduleScripts t root wf lf habs f
  -- No file has two texts: a text is its names.
  have hdistinct : ∀ a ∈ (remaining t root ["node_modules/gh-*/**/*.js"]).filter
        fun p => !takesAway "node_modules/gh-*/node_modules/**/*.js" p,
      ∀ b ∈ (remaining t root ["node_modules/gh-*/**/*.js"]).filter
        fun p => !takesAway "node_modules/gh-*/node_modules/**/*.js" p,
      Path.components a = Path.components b → a = b := by
    have hparts : ∀ a ∈ remaining t root ["node_modules/gh-*/**/*.js"], ∃ names,
        a = "/".intercalate names ∧ ∀ n ∈ names, Path.IsPart n := by
      intro a ha
      obtain ⟨module, dirs, name, rfl, hnames, -⟩ := (hmem a).1 ha
      have hmodules : IsName "node_modules" := by decide
      exact ⟨_, rfl, fun n hn => (List.forall_mem_cons.2 ⟨hmodules, hnames⟩ n hn).toIsPart⟩
    intro a ha b hb heq
    obtain ⟨as, rfl, has⟩ := hparts a (List.mem_filter.1 ha).1
    obtain ⟨bs, rfl, hbs⟩ := hparts b (List.mem_filter.1 hb).1
    rw [Path.names_inj has hbs heq]
  rw [← distinctPaths_eq, mem_distinctPaths hdistinct, List.mem_filter, hmem]
  constructor
  · rintro ⟨⟨module, dirs, name, rfl, hnames, hm, hn, hfile⟩, hkept⟩
    refine ⟨module, dirs, name, rfl, hnames, hm, fun hnested => ?_, hn, hfile⟩
    rw [(takesAway_nestedScripts hnames hm hn).2 hnested] at hkept
    cases hkept
  · rintro ⟨module, dirs, name, rfl, hnames, hm, hnested, hn, hfile⟩
    refine ⟨⟨module, dirs, name, rfl, hnames, hm, hn, hfile⟩, ?_⟩
    rw [Bool.not_eq_true', ← Bool.not_eq_true, takesAway_nestedScripts hnames hm hn]
    exact hnested

end

/-- A module with a script of its own and one of a module that it brings along. -/
def nestedModule : FileTree where
  entries :=
    [(["proj"], .dir), (["proj", "node_modules"], .dir), (["proj", "node_modules", "gh-a"], .dir),
      (["proj", "node_modules", "gh-a", "lib"], .dir),
      (["proj", "node_modules", "gh-a", "lib", "a.js"], .file ⟨#[]⟩),
      (["proj", "node_modules", "gh-a", "lib", "node_modules"], .dir),
      (["proj", "node_modules", "gh-a", "lib", "node_modules", "b.js"], .file ⟨#[]⟩)]

theorem filesOf_styleFiles_nestedModule :
    ∃ files, filesOf nestedModule "/proj" ({} : StyleSettings).files = .ok files ∧
      "node_modules/gh-a/lib/a.js" ∈ files ∧ "node_modules/gh-a/lib/node_modules/b.js" ∉ files := by
  obtain ⟨files, hfiles, -, hmem⟩ := @filesOf_styleFiles nestedModule "/proj" (by decide)
    (by decide) (by decide)
  refine ⟨files, hfiles, (hmem _).2 ?_, fun hb => ?_⟩
  · exact ⟨"gh-a", ["lib"], "a.js", by decide, by decide, by decide, by decide, by decide,
      FileTree.isFile_of_within 10 (by rfl)⟩
  · obtain ⟨module, dirs, name, heq, hnames, -, hnested, -⟩ := (hmem _).1 hb
    have hmodules : IsName "node_modules" := by decide
    have hown : ∀ n ∈ ["node_modules", "gh-a", "lib", "node_modules", "b.js"], IsName n := by decide
    have htext : "node_modules/gh-a/lib/node_modules/b.js" =
        "/".intercalate ["node_modules", "gh-a", "lib", "node_modules", "b.js"] := by decide
    have hsame := Path.names_inj (fun n hn => (hown n hn).toIsPart)
      (fun n hn => (List.forall_mem_cons.2 ⟨hmodules, hnames⟩ n hn).toIsPart)
      (congrArg Path.components (htext.symm.trans heq))
    have hdirs := congrArg (fun names => (names.drop 2).dropLast) hsame
    simp only [List.drop_succ_cons, List.drop_zero, List.dropLast_concat] at hdirs
    exact hnested (hdirs ▸ by decide)

end FileSet

end BuildGate
