import BuildGate.Proofs.ModuleTests

/-!
# Names that name a module

A name with an operator is a pattern of its own. If it can be read, it does not match itself, so that
the tests of the module are missed; or it matches another name or leads out of the modules, so that
there is a project in which the tests of something else are loaded.

**Results.**
* `LoadsTestsOf.exists_iff`: a call that loads the tests of a module finds a file if and only if the
  module has one.
* `not_loadsTestsOf`: for a name with an operator there is a project where it does not.
* `testCall_module`: the names with which it always does.
-/
namespace BuildGate

open FileTree Glob.Include

/-- A project with a module that has one test file. -/
def oneModule (name : String) : FileTree where
  entries :=
    [(["proj"], .dir), (["proj", "node_modules"], .dir), (["proj", "node_modules", name], .dir),
      (["proj", "node_modules", name, "tests"], .dir),
      (["proj", "node_modules", name, "tests", "api.js"], .file ⟨#[]⟩)]

/-- A project without modules, with tests where the modules would be and beside them. -/
def noModule : FileTree where
  entries :=
    [(["proj"], .dir), (["proj", "tests"], .dir), (["proj", "tests", "api.js"], .file ⟨#[]⟩),
      (["proj", "node_modules"], .dir), (["proj", "node_modules", "tests"], .dir),
      (["proj", "node_modules", "tests", "api.js"], .file ⟨#[]⟩)]

section
variable {name : String} (hn : IsName name) (hsize : name.utf8ByteSize ≤ maxName)
include hn hsize

theorem wellFormed_oneModule : (oneModule name).WellFormed where
  ne_root := by simp [oneModule]
  names := by
    have hproj : ∀ n ∈ ["proj", "node_modules", "tests", "api.js"],
        IsName n ∧ n.utf8ByteSize ≤ maxName := by decide
    simp only [List.forall_mem_cons] at hproj
    obtain ⟨h₁, h₂, h₃, h₄, -⟩ := hproj
    simp only [oneModule, List.forall_mem_cons, h₁, h₂, h₃, h₄, hn, hsize,
      and_self, List.not_mem_nil, false_imp_iff, implies_true]
  above := by simp [oneModule, get?, List.lookup_cons]
  once := by simp [oneModule]

end

theorem linkFree_oneModule (name : String) : (oneModule name).LinkFree := by
  simp [oneModule, LinkFree, Entry.IsPlace]

theorem get?_oneModule (name : String) :
    (oneModule name).get? ["proj", "node_modules", name, "tests", "api.js"] =
      some (.file ⟨#[]⟩) := by
  simp [oneModule, get?, List.lookup_cons]

theorem resolve_oneModule {name : String} (hn : IsName name) (hsize : name.utf8ByteSize ≤ maxName) :
    (oneModule name).resolve
        (Path.joinAll "/" ["proj", "node_modules", name, "tests", "api.js"]) =
      .ok ["proj", "node_modules", name, "tests", "api.js"] := by
  refine resolve_joinAll (wellFormed_oneModule hn hsize) (by simp) (get?_oneModule name) trivial ?_
  have hpath : pathOf ["proj", "node_modules", name, "tests", "api.js"] =
      "/" ++ ("proj" ++ "/" ++ "node_modules" ++ "/" ++ name ++ "/" ++ "tests" ++ "/" ++ "api.js") :=
    rfl
  rw [hpath]
  simp only [String.utf8ByteSize_append]
  have hrest : "/".utf8ByteSize + ("proj".utf8ByteSize + "/".utf8ByteSize +
      "node_modules".utf8ByteSize + "/".utf8ByteSize + maxName + "/".utf8ByteSize +
      "tests".utf8ByteSize + "/".utf8ByteSize + "api.js".utf8ByteSize) ≤ maxPath := by decide
  omega

theorem wellFormed_noModule : noModule.WellFormed := by decide

theorem linkFree_noModule : noModule.LinkFree := by decide

theorem eq_of_get?_oneModule {m n : String}
    (h : (oneModule m).get? ["proj", "node_modules", n] = some .dir) : n = m := by
  by_contra hne
  simp [oneModule, get?, List.lookup_cons, beq_eq_false_iff_ne.2 hne] at h

theorem eq_of_get?_noModule {n : String}
    (h : noModule.get? ["proj", "node_modules", n] = some .dir) : n = "tests" := by
  by_contra hne
  simp [noModule, get?, List.lookup_cons, beq_eq_false_iff_ne.2 hne] at h

/-- A module with tests has a directory. -/
theorem get?_of_tests {t : FileTree} (wf : t.WellFormed) (lf : t.LinkFree) {name : String}
    (hn : IsName name) {dirs : List String} {n : String} (hdirs : ∀ d ∈ dirs, IsName d)
    (hlast : IsName n) (h : t.isFile (Path.joinAll "/"
      (["proj", "node_modules", name] ++ "tests" :: (dirs ++ [n]))) = true) :
    t.get? ["proj", "node_modules", name] = some .dir := by
  have hproj : ∀ s ∈ ["proj", "node_modules", "tests"], IsName s := by decide
  simp only [List.forall_mem_cons] at hproj
  obtain ⟨h₁, h₂, h₃, -⟩ := hproj
  refine get?_of_isFile wf lf (by simp) ?_ h
  simp only [List.forall_mem_append, List.forall_mem_cons]
  exact ⟨⟨h₁, h₂, hn, by simp⟩, h₃, hdirs, hlast, by simp⟩

/-! ## What the pattern leads to -/

/-- What the default pattern leads to below `root`, with the tokens `ts` for a name. -/
def moduleFiles (t : FileTree) (root : String) (ts : List Glob.Include) : List String :=
  Selector.expand t ⟨"/", (rootPieces root).map (·.map literalToken) ++ moduleComponents ts, false⟩

theorem joinAll_rootPath_proj (names : List String) :
    Path.joinAll (rootPath "/proj") names = Path.joinAll "/" ("proj" :: names) := by
  have hpieces : (rootPieces "/proj").map String.ofList = ["proj"] := by decide
  rw [rootPath, hpieces, ← Path.joinAll_append, List.singleton_append]

theorem isAbsolute_modules : Path.isAbsolute (Path.joinAll "/" ["proj", "node_modules"]) = true := by
  decide

/-- The components before the name stand for the directory of the modules. -/
theorem standsFor_front : List.Forall₂ StandsFor
    ((rootPieces "/proj").map (·.map literalToken) ++ [("node_modules".toList).map .char])
    ["proj", "node_modules"] :=
  .cons (.escaped "proj") (.cons (.plain "node_modules") .nil)

/-- The expansion goes through the components before the name first, with more than enough fuel. -/
theorem moduleFiles_eq (t : FileTree) (ts : List Glob.Include) :
    ∃ depth, 6 ≤ depth ∧ moduleFiles t "/proj" ts =
      pathsFrom t depth ((rootPieces "/proj").map (·.map literalToken) ++
        [("node_modules".toList).map .char] ++ (moduleComponents ts).tail) "/" := by
  have hlength : ((rootPieces "/proj").map (·.map literalToken) ++ moduleComponents ts).length = 6 :=
    rfl
  have hdepth : 6 ≤ ((rootPieces "/proj").map (·.map literalToken) ++ moduleComponents ts).length +
      (maxLinks + 1) * (t.entries.length + 1) + 1 := by omega
  refine ⟨_, hdepth, ?_⟩
  rw [List.append_assoc]
  rfl

section
variable {t : FileTree} (wf : t.WellFormed) (lf : t.LinkFree) {ts : List Glob.Include}
include wf lf

/-- Where tokens with wildcards match no special name, the files lie in directories whose names they
match. -/
theorem exists_of_mem_moduleFiles (hl : literal? ts = none) (hts : isRecursive ts = false)
    (hspecial : ts.head? = some (.char '.') → ∀ name ∈ ["..", "."], accepts ts name.toList = false)
    {x : String} (hx : x ∈ moduleFiles t "/proj" ts) (hfile : t.isFile x = true) :
    ∃ n, accepts ts n.toList = true ∧ t.get? ["proj", "node_modules", n] = some .dir := by
  have habs := isAbsolute_modules
  obtain ⟨depth, -, heq⟩ := moduleFiles_eq t ts
  rw [heq] at hx
  obtain ⟨fuel, hx⟩ := pathsFrom_standsFor_all wf standsFor_front (by simp [moduleComponents])
    (by decide : Path.isAbsolute "/" = true) hx
  obtain ⟨n, fuel, hn, ha, hx⟩ := pathsFrom_names wf hl hts (by simp) habs hspecial hx
  obtain ⟨fuel, hx⟩ := pathsFrom_standsFor wf (.plain "tests") (by simp)
    (Path.isAbsolute_join habs n) hx
  obtain ⟨names, last, rfl, hnames, hlast, -⟩ := pathsFrom_recursive wf (by rfl)
    (Path.isAbsolute_join (Path.isAbsolute_join habs n) "tests") hx
  refine ⟨n, ha, get?_of_tests wf lf hn hnames hlast ?_⟩
  rw [List.cons_append, List.cons_append, List.cons_append]
  simpa only [Path.joinAll_cons, Path.joinAll_nil, List.nil_append] using hfile

/-- What the tokens lead to from the directory of the modules, the pattern leads to. -/
theorem mem_moduleFiles {segs : List String} (hsegs : ∀ s ∈ segs, '/' ∉ s.toList) {k : Nat}
    (hk : k ≤ 2)
    (hlead : ∀ fuel, ∀ x ∈ pathsFrom t fuel [[.recursive], .many :: (".js".toList).map .char]
        (Path.joinAll (Path.joinAll "/" ["proj", "node_modules"]) segs),
      x ∈ pathsFrom t (fuel + k) (moduleComponents ts).tail
        (Path.joinAll "/" ["proj", "node_modules"])) {loc : Location}
    (hr : t.resolve (Path.joinAll "/" (["proj", "node_modules"] ++ segs ++ ["api.js"])) = .ok loc) :
    Path.joinAll "/" (["proj", "node_modules"] ++ segs ++ ["api.js"]) ∈
      moduleFiles t "/proj" ts := by
  have habs := Path.isAbsolute_joinAll isAbsolute_modules segs
  have hslash : ∀ s ∈ ["proj", "node_modules"], '/' ∉ s.toList := by decide
  have hscript : accepts (.many :: (".js".toList).map .char) "api.js".toList = true :=
    (accepts_many_chars _ _).2 (by decide)
  rw [Path.joinAll_append, Path.joinAll_append] at hr ⊢
  obtain ⟨dir, hdir, -⟩ := resolve_of_joinAll lf habs (by decide) hr
  obtain ⟨dir', hdir', -⟩ := resolve_of_joinAll lf isAbsolute_modules hsegs hdir
  have hmore : (moduleComponents ts).tail ≠ [] := by simp [moduleComponents]
  obtain ⟨k', hk', hmem⟩ := mem_pathsFrom_standsFor_all wf lf standsFor_front hmore
    (by decide) hslash hdir'
  obtain ⟨depth, hdepth, heq⟩ := moduleFiles_eq t ts
  simp only [List.length_cons, List.length_nil] at hk'
  obtain ⟨fuel, rfl⟩ : ∃ fuel, depth = fuel + 1 + k + k' := ⟨depth - 1 - k - k', by omega⟩
  have hlast : Path.joinAll (Path.joinAll (Path.joinAll "/" ["proj", "node_modules"]) segs)
      ([] ++ ["api.js"]) ∈ pathsFrom t (fuel + 1) [[.recursive], .many :: (".js".toList).map .char]
        (Path.joinAll (Path.joinAll "/" ["proj", "node_modules"]) segs) :=
    mem_pathsFrom_recursive wf lf (by rfl) habs (by simp) (by decide) hscript hr (Nat.succ_pos _)
  rw [heq]
  exact hmem _ _ (hlead _ _ hlast)

/-- The same where the tokens lead on to one place, which has tests. -/
theorem mem_moduleFiles_below {n : String} (hn : '/' ∉ n.toList) {k : Nat} (hk : k ≤ 1)
    (hlead : ∀ fuel, ∀ x ∈ pathsFrom t fuel (moduleComponents ts).tail.tail
        (Path.join (Path.joinAll "/" ["proj", "node_modules"]) n),
      x ∈ pathsFrom t (fuel + k) (moduleComponents ts).tail
        (Path.joinAll "/" ["proj", "node_modules"])) {loc : Location}
    (hr : t.resolve (Path.joinAll "/" ["proj", "node_modules", n, "tests", "api.js"]) = .ok loc) :
    Path.joinAll "/" ["proj", "node_modules", n, "tests", "api.js"] ∈ moduleFiles t "/proj" ts := by
  have habs : Path.isAbsolute (Path.joinAll "/" ["proj", "node_modules", n]) = true :=
    Path.isAbsolute_joinAll (by decide) _
  have hsegs : ∀ s ∈ [n, "tests"], '/' ∉ s.toList := by
    simp only [List.forall_mem_cons]
    exact ⟨hn, by decide, by simp⟩
  have htests : Path.isAbsolute (Path.joinAll "/" ["proj", "node_modules", n, "tests"]) = true :=
    Path.isAbsolute_joinAll (by decide) _
  have hlast : t.resolve (Path.joinAll (Path.joinAll "/" ["proj", "node_modules", n, "tests"])
      ["api.js"]) = .ok loc := by
    rw [← Path.joinAll_append]
    exact hr
  obtain ⟨dir, hdir, -⟩ := resolve_of_joinAll lf htests (by decide) hlast
  have hmore : (moduleComponents ts).tail.tail.tail ≠ [] := by simp [moduleComponents]
  obtain ⟨k', hk', htests⟩ := mem_pathsFrom_standsFor wf lf (.plain "tests") hmore habs (by decide)
    hdir
  have hboth : ∀ fuel, ∀ x ∈ pathsFrom t fuel [[.recursive], .many :: (".js".toList).map .char]
      (Path.joinAll (Path.joinAll "/" ["proj", "node_modules"]) [n, "tests"]),
      x ∈ pathsFrom t (fuel + (k' + k)) (moduleComponents ts).tail
        (Path.joinAll "/" ["proj", "node_modules"]) := by
    intro fuel x hx
    rw [← Nat.add_assoc]
    exact hlead _ x (htests fuel x hx)
  have hx := mem_moduleFiles wf lf hsegs (by omega) hboth hr
  exact hx

end

/-! ## Two kinds of project -/

theorem resolve_noModule : noModule.resolve (Path.joinAll "/" ["proj", "node_modules"]) =
    .ok ["proj", "node_modules"] := resolve_of_within 10 (by rfl)

section
variable {ts : List Glob.Include}
  (h : ∀ x ∈ moduleFiles noModule "/proj" ts, noModule.isFile x = false)
include h

/-- `**` leads to the tests in place of a module. -/
theorem not_recursive_of_noModule : isRecursive ts = false := by
  rw [Bool.eq_false_iff]
  intro hrec
  obtain rfl : ts = [.recursive] := by simpa [isRecursive] using hrec
  have hlead : ∀ fuel, ∀ x ∈ pathsFrom noModule fuel
      [[.recursive], .many :: (".js".toList).map .char]
        (Path.joinAll (Path.joinAll "/" ["proj", "node_modules"]) ["tests"]),
      x ∈ pathsFrom noModule (fuel + 1) (moduleComponents [.recursive]).tail
        (Path.joinAll "/" ["proj", "node_modules"]) := by
    intro fuel x hx
    refine (mem_pathsFrom_wild (by rfl) (by simp) isAbsolute_modules).2
      ⟨_, resolve_noModule, by rfl, .inr ⟨"tests", by rfl, ?_⟩⟩
    rw [visit_recursive (by rfl) isAbsolute_modules (by decide),
      if_pos ((accepts_chars _ _).2 rfl), if_neg (by simp)]
    exact List.mem_append_left _ hx
  have hx := mem_moduleFiles wellFormed_noModule linkFree_noModule (by decide) (by decide) hlead
    (resolve_of_within 10 (by rfl))
  have hfile : noModule.isFile (Path.joinAll "/" ["proj", "node_modules", "tests", "api.js"]) =
      true := isFile_of_within 10 (by rfl)
  cases hfile.symm.trans (h _ hx)

/-- `..` leads to the tests beside the modules, `.` to those in place of one. -/
theorem not_special_of_noModule (hl : literal? ts = none) (hdot : ts.head? = some (.char '.')) :
    ∀ name ∈ ["..", "."], accepts ts name.toList = false := by
  intro name hname
  rw [Bool.eq_false_iff]
  intro ha
  have hslash : '/' ∉ name.toList := by
    have : ∀ s ∈ ["..", "."], '/' ∉ s.toList := by decide
    exact this name hname
  have hfile : ∃ bytes loc, noModule.resolve
      (Path.joinAll "/" ["proj", "node_modules", name, "tests", "api.js"]) = .ok loc ∧
        noModule.get? loc = some (.file bytes) := by
    rcases List.mem_cons.1 hname with rfl | hname
    · exact ⟨_, _, resolve_of_within 10 (by rfl), by rfl⟩
    · rw [List.mem_singleton.1 hname]
      exact ⟨_, _, resolve_of_within 10 (by rfl), by rfl⟩
  obtain ⟨bytes, loc, hr, hg⟩ := hfile
  have hlead : ∀ fuel, ∀ x ∈ pathsFrom noModule fuel (moduleComponents ts).tail.tail
      (Path.join (Path.joinAll "/" ["proj", "node_modules"]) name),
      x ∈ pathsFrom noModule (fuel + 0) (moduleComponents ts).tail
        (Path.joinAll "/" ["proj", "node_modules"]) := fun fuel x hx =>
    (mem_pathsFrom_wild hl (by simp) isAbsolute_modules).2
      ⟨_, resolve_noModule, by rfl, .inl ⟨hdot, name, hname, ha, hx⟩⟩
  have hx := mem_moduleFiles_below wellFormed_noModule linkFree_noModule hslash (Nat.zero_le 1)
    hlead hr
  cases (isFile_iff.2 ⟨loc, bytes, hr, hg⟩).symm.trans (h _ hx)

end

/-- The tests of a module whose name the tokens match are found. -/
theorem exists_mem_oneModule {ts : List Glob.Include} (hl : literal? ts = none)
    (hts : isRecursive ts = false) {m : String} (hm : IsName m) (hsize : m.utf8ByteSize ≤ maxName)
    (ha : accepts ts m.toList = true) :
    ∃ x ∈ moduleFiles (oneModule m) "/proj" ts, (oneModule m).isFile x = true := by
  have wf := wellFormed_oneModule hm hsize
  have hdir : (oneModule m).resolve (Path.joinAll "/" ["proj", "node_modules"]) =
      .ok ["proj", "node_modules"] :=
    resolve_joinAll wf (by simp) (e := .dir) (by rfl) trivial (by decide)
  have hr := resolve_oneModule hm hsize
  refine ⟨_, mem_moduleFiles_below wf (linkFree_oneModule m) hm.no_slash (k := 1) (by decide)
    (fun fuel x hx => mem_pathsFrom_name wf hl hts (by simp) isAbsolute_modules hdir (by rfl) ?_ ha hx) hr,
    isFile_iff.2 ⟨_, _, hr, get?_oneModule m⟩⟩
  simp [oneModule, get?, List.lookup_cons]

namespace Pipeline

variable {p : Pipeline} {w : World} {name : String}

/-- A call that loads the tests of a module is one of a pattern, which leads to a file if and only if
the module has one. -/
theorem LoadsTestsOf.exists_iff (h : p.LoadsTestsOf w name)
    (hmodule : p.settings.test.moduleFiles = ({} : TestSettings).moduleFiles)
    (habs : Path.isAbsolute p.root = true) (hname : isModuleName name = true) :
    ∃ ts, read name = .ok ts ∧
      ((∃ x ∈ moduleFiles w.tree p.root ts, w.tree.isFile x = true) ↔
        ∃ dirs n, (∀ d ∈ dirs, IsName d) ∧ IsName n ∧ ".js".toList <:+ n.toList ∧
          w.tree.isFile (Path.joinAll (rootPath p.root)
            (["node_modules", name, "tests"] ++ (dirs ++ [n]))) = true) := by
  obtain ⟨files, hcall, -, hmem⟩ := h
  rw [p.testCall_moduleEntry w hmodule hname] at hcall
  have hpart := isPart_of_isModuleName hname
  rw [FileSet.selected, Selector.read_moduleEntry hpart habs] at hcall
  cases hwhole : Glob.Include.read (FileSet.rootedPattern p.root (moduleEntry name)) with
  | error f => rw [hwhole] at hcall; cases hcall
  | ok us =>
    cases hread : read name with
    | error f => rw [hwhole, hread] at hcall; cases hcall
    | ok ts =>
      rw [hwhole, hread] at hcall
      have hfiles := p.runnerCall_inj (Except.ok.inj hcall)
      refine ⟨ts, rfl, ?_⟩
      have hsome : (∃ x ∈ moduleFiles w.tree p.root ts, w.tree.isFile x = true) ↔ files ≠ [] := by
        rw [← hfiles, ne_eq, FileSet.distinctPaths_eq_nil, List.map_eq_nil_iff,
          List.filter_eq_nil_iff]
        simp [moduleFiles]
      rw [hsome]
      constructor
      · intro hne
        obtain ⟨f, hf⟩ := List.exists_mem_of_ne_nil _ hne
        obtain ⟨dirs, n, rfl, hdirs, hn, hjs, hfile⟩ := (hmem f).1 hf
        rw [← Path.joinAll_names (by simp) (isPart_testFile hpart hdirs hn)] at hfile
        exact ⟨dirs, n, hdirs, hn, hjs, hfile⟩
      · rintro ⟨dirs, n, hdirs, hn, hjs, hfile⟩
        rw [Path.joinAll_names (by simp) (isPart_testFile hpart hdirs hn)] at hfile
        exact List.ne_nil_of_mem ((hmem _).2 ⟨dirs, n, rfl, hdirs, hn, hjs, hfile⟩)

/-- For a name with an operator there is a project in which the call loads other files than the tests
of the module. -/
theorem not_loadsTestsOf (run : Runner) (hname : isModuleName name = true) (hn : IsName name)
    (hsize : name.utf8ByteSize ≤ maxName) (hop : ∃ c ∈ name.toList, ¬ Plain c) :
    ∃ t : FileTree, t.WellFormed ∧ t.LinkFree ∧
      ¬ (⟨{}, "/proj", run⟩ : Pipeline).LoadsTestsOf { tree := t } name := by
  by_contra hnone
  have hall : ∀ t : FileTree, t.WellFormed → t.LinkFree →
      ∃ ts, read name = .ok ts ∧ ((∃ x ∈ moduleFiles t "/proj" ts, t.isFile x = true) ↔
        ∃ dirs n, (∀ d ∈ dirs, IsName d) ∧ IsName n ∧ ".js".toList <:+ n.toList ∧
          t.isFile (Path.joinAll "/"
            (["proj", "node_modules", name] ++ "tests" :: (dirs ++ [n]))) = true) := by
    intro t wf lf
    by_contra h
    refine hnone ⟨t, wf, lf, fun hloads => h ?_⟩
    have hiff := hloads.exists_iff rfl (by decide : Path.isAbsolute "/proj" = true) hname
    simpa only [joinAll_rootPath_proj, List.cons_append, List.nil_append] using hiff
  obtain ⟨ts, hread, hempty⟩ := hall noModule wellFormed_noModule linkFree_noModule
  have hl : literal? ts = none := ((reads_of_read hread).operator.2 hop).2
  -- Nothing is found without modules, as no name with an operator is that of the tests there.
  have hnothing : ∀ x ∈ moduleFiles noModule "/proj" ts, noModule.isFile x = false := by
    intro x hx
    rw [Bool.eq_false_iff]
    intro hfile
    obtain ⟨dirs, n, hdirs, hlast, -, hfile⟩ := hempty.1 ⟨x, hx, hfile⟩
    have htests := eq_of_get?_noModule
      (get?_of_tests wellFormed_noModule linkFree_noModule hn hdirs hlast hfile)
    obtain ⟨c, hc, hop⟩ := hop
    rw [htests] at hc
    exact hop (plain_of_all (by decide) c hc)
  have hts := not_recursive_of_noModule hnothing
  have hspecial := not_special_of_noModule hnothing hl
  -- The tests of the module itself are found, so the tokens match its name.
  have ha : accepts ts name.toList = true := by
    have wf := wellFormed_oneModule hn hsize
    have lf := linkFree_oneModule name
    obtain ⟨ts', hread', hiff⟩ := hall (oneModule name) wf lf
    obtain rfl : ts = ts' := Except.ok.inj (hread.symm.trans hread')
    obtain ⟨x, hx, hfile⟩ := hiff.2 ⟨[], "api.js", by simp, by decide, by decide,
      isFile_iff.2 ⟨_, _, resolve_oneModule hn hsize, get?_oneModule name⟩⟩
    obtain ⟨n, ha, hdir⟩ := exists_of_mem_moduleFiles wf lf hl hts hspecial hx hfile
    rwa [← eq_of_get?_oneModule hdir]
  -- Then they match another name, and the tests of a module of that name are found too.
  obtain ⟨m, hne, hm, hle, ham⟩ := exists_other_name hread hop hn ha
  have wf := wellFormed_oneModule hm (Nat.le_trans hle hsize)
  have lf := linkFree_oneModule m
  obtain ⟨ts', hread', hiff⟩ := hall (oneModule m) wf lf
  obtain rfl : ts = ts' := Except.ok.inj (hread.symm.trans hread')
  obtain ⟨dirs, n, hdirs, hlast, -, hfile⟩ :=
    hiff.1 (exists_mem_oneModule hl hts hm (Nat.le_trans hle hsize) ham)
  exact hne (eq_of_get?_oneModule (get?_of_tests wf lf hn hdirs hlast hfile)).symm

/-- The call for the module `name` `LoadsTestsOf` that module in every project, if `name` holds none
of `?`, `*` and `[`; and if it does, there is a project with such a root where the call does not, as
long as a directory can have that name. -/
theorem testCall_module (hname : isModuleName name = true) :
    ((∀ c ∈ name.toList, c ∉ "?*[".toList) → ∀ (p : Pipeline) (w : World),
      p.settings.test.moduleFiles = ({} : TestSettings).moduleFiles →
      Path.isAbsolute p.root = true → w.tree.WellFormed → w.tree.LinkFree →
        p.LoadsTestsOf w name) ∧
    (IsName name → name.utf8ByteSize ≤ maxName → (∃ c ∈ name.toList, c ∈ "?*[".toList) →
      ∃ (p : Pipeline) (w : World),
        p.settings.test.moduleFiles = ({} : TestSettings).moduleFiles ∧
        Path.isAbsolute p.root = true ∧ w.tree.WellFormed ∧ w.tree.LinkFree ∧
          ¬ p.LoadsTestsOf w name) := by
  refine ⟨fun hplain p w hmodule habs wf lf =>
    p.loadsTestsOf_of_plain w hmodule habs wf lf hname hplain, fun hn hsize hop => ?_⟩
  obtain ⟨c, hc, hop⟩ := hop
  obtain ⟨t, wf, lf, hnot⟩ :=
    not_loadsTestsOf Runner.scripted hname hn hsize ⟨c, hc, not_not_intro hop⟩
  exact ⟨_, _, rfl, by decide, wf, lf, hnot⟩

theorem testCall_module_oneModule :
    let p : Pipeline := ⟨{}, "/proj", Runner.scripted⟩
    let w : World := { tree := oneModule "gh-core" }
    (isModuleName "gh-core" = true ∧ w.tree.WellFormed ∧ w.tree.LinkFree ∧
      ∃ files, (p.testCall (.module "gh-core") w).1 = .ok (p.runnerCall files) ∧
        "node_modules/gh-core/tests/api.js" ∈ files) ∧
    isModuleName "*" = true ∧ IsName "*" ∧
      ∃ (p : Pipeline) (w : World), w.tree.WellFormed ∧ w.tree.LinkFree ∧ ¬ p.LoadsTestsOf w "*" := by
  intro p w
  have wf : w.tree.WellFormed := by decide
  have lf : w.tree.LinkFree := by decide
  have hname : isModuleName "gh-core" = true := by decide
  have hstar : isModuleName "*" = true := by decide
  obtain ⟨files, hcall, -, hmem⟩ := (testCall_module hname).1 (plain_of_all (by decide)) p w rfl
    (by decide) wf lf
  obtain ⟨q, v, -, -, hv, hv', hnot⟩ := (testCall_module hstar).2 (by decide) (by decide)
    ⟨'*', by decide, by decide⟩
  have hapi : (oneModule "gh-core").isFile "/proj/node_modules/gh-core/tests/api.js" = true :=
    isFile_of_within 10 (by rfl)
  have hpath : Path.join (rootPath "/proj") "node_modules/gh-core/tests/api.js" =
      "/proj/node_modules/gh-core/tests/api.js" := by decide
  exact ⟨⟨hname, wf, lf, files, hcall, (hmem _).2 ⟨[], "api.js", by decide, by decide, by decide,
    by decide, hpath ▸ hapi⟩⟩, hstar, by decide, q, v, hv, hv', hnot⟩

end Pipeline

end BuildGate
