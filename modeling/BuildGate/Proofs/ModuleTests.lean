import BuildGate.Pipeline
import BuildGate.Proofs.BoundedWalk
import BuildGate.Proofs.Selection
import BuildGate.Proofs.Steps
import BuildGate.Proofs.Wildcards

/-!
# The tests of one module

A run of the tests of one module loads the files that the patterns of a module lead to once its name
has taken the place of the mark. The name is checked to be one component of a path, but it becomes a
part of a pattern, so it names its directory only if none of its characters begins an operator.

**Results.**
* `fillModule_mark`, `fillModule_of_not_mem`: a name takes the place of the mark and of nothing else.
* `Selector.read_moduleEntry`: what is read of the default pattern with a name in it.
* `testCall_moduleEntry`: the call loads what that pattern leads to.
* `loadsTestsOf_of_plain`: without operators that is the tests of the module.
-/
namespace BuildGate

open FileTree Glob.Include

/-! ## The name in the pattern -/

theorem fillModule_of_not_mem (name : List Char) {front : List Char} (h : '\x7b' ∉ front)
    (rest : List Char) : fillModule name (front ++ rest) = front ++ fillModule name rest := by
  induction front with
  | nil => rfl
  | cons c front ih =>
    have hc : moduleMark.toList.isPrefixOf (c :: (front ++ rest)) = false := by
      have hne : ('\x7b' == c) = false := by
        rw [beq_eq_false_iff_ne]
        rintro rfl
        exact h List.mem_cons_self
      simp [moduleMark, List.isPrefixOf, hne]
    rw [List.cons_append, fillModule]
    simp only [hc, Bool.false_eq_true, if_false]
    rw [ih fun hm => h (List.mem_cons_of_mem _ hm), List.cons_append]

theorem fillModule_mark (name rest : List Char) :
    fillModule name (moduleMark.toList ++ rest) = name ++ fillModule name rest := by
  have hmark : moduleMark.toList = '\x7b' :: "module\x7d".toList := rfl
  have hstarts : moduleMark.toList.isPrefixOf ('\x7b' :: ("module\x7d".toList ++ rest)) = true := by
    rw [List.isPrefixOf_iff_prefix]
    exact ⟨rest, rfl⟩
  have hdrop : ("module\x7d".toList ++ rest).drop (moduleMark.toList.length - 1) = rest := rfl
  rw [hmark, List.cons_append, fillModule]
  simp only [hstarts, if_true, hdrop]

/-- The default pattern for a module's test files with `name` in it. -/
def moduleEntry (name : String) : String := "node_modules/" ++ name ++ "/tests/**/*.js"

theorem fillModule_default (name : String) :
    String.ofList (fillModule name.toList
      ("node_modules/" ++ moduleMark ++ "/tests/**/*.js").toList) = moduleEntry name := by
  have hend : fillModule name.toList "/tests/**/*.js".toList = "/tests/**/*.js".toList := by
    have hmark : '\x7b' ∉ "/tests/**/*.js".toList := by decide
    have := fillModule_of_not_mem name.toList hmark []
    rwa [List.append_nil, fillModule, List.append_nil] at this
  apply String.toList_injective
  rw [String.toList_ofList, String.toList_append, String.toList_append, List.append_assoc,
    fillModule_of_not_mem _ (by decide), fillModule_mark, hend]
  simp [moduleEntry]

/-! ## Reading the pattern -/

/-- The components of that pattern, with the tokens `ts` for the name. -/
def moduleComponents (ts : List Glob.Include) : List (List Glob.Include) :=
  [("node_modules".toList).map .char, ts, ("tests".toList).map .char, [.recursive],
    .many :: (".js".toList).map .char]

section
variable {name : String}

theorem splitSlash_moduleEntry (hname : Path.IsPart name) :
    Path.splitSlash (moduleEntry name).toList =
      ["node_modules".toList, name.toList, "tests".toList, "**".toList, "*.js".toList] := by
  have hchars : (moduleEntry name).toList =
      "node_modules".toList ++ '/' :: (name.toList ++ '/' :: "tests/**/*.js".toList) := by
    simp [moduleEntry]
  have hend : Path.splitSlash "tests/**/*.js".toList =
      ["tests".toList, "**".toList, "*.js".toList] := by decide
  rw [hchars, Path.splitSlash_append, Path.splitSlash_append,
    Path.splitSlash_of_not_mem hname.no_slash, hend]
  rfl

theorem readComponents_moduleEntry (hname : Path.IsPart name) :
    readComponents (Path.splitSlash (moduleEntry name).toList) =
      (read name).map moduleComponents := by
  have hfront : read (String.ofList "node_modules".toList) =
      .ok (("node_modules".toList).map .char) := read_plain (plain_of_all (by decide))
  have hback : readComponents ["tests".toList, "**".toList, "*.js".toList] =
      .ok [("tests".toList).map .char, [.recursive], .many :: (".js".toList).map .char] := rfl
  rw [splitSlash_moduleEntry hname, readComponents, readComponents, hfront, hback,
    String.ofList_toList]
  cases read name <;> rfl

/-- What is read of the pattern below a root, if it can be read. -/
theorem Selector.read_moduleEntry (hname : Path.IsPart name) {root : String}
    (habs : Path.isAbsolute root = true) :
    Selector.read (FileSet.rootedPattern root (moduleEntry name)) =
      (Glob.Include.read (FileSet.rootedPattern root (moduleEntry name))).bind fun _ =>
        (read name).map fun ts =>
          ⟨"/", (rootPieces root).map (·.map literalToken) ++ moduleComponents ts, false⟩ := by
  have hrel : Path.isAbsolute (moduleEntry name) = false := by simp [moduleEntry, Path.isAbsolute]
  have hlast : (moduleEntry name).toList.getLast? ≠ some '/' := by
    rw [moduleEntry, String.toList_append, List.getLast?_append]
    exact (by decide : some 's' ≠ some '/')
  rw [Selector.read_rooted habs hrel (by simp [moduleEntry]) hlast,
    readComponents_moduleEntry hname]
  cases read name <;> rfl

/-- Behind a slash the whole entry is a pattern too, if the name has no operators. -/
theorem readTokens_moduleEntry (hplain : ∀ c ∈ name.toList, Plain c) (fuel pos : Nat) :
    ∃ us, readTokens (fuel + 1 + (moduleEntry name).toList.length) pos (some '/')
      (moduleEntry name).toList = .ok us := by
  have hchars : (moduleEntry name).toList =
      "node_modules/".toList ++ name.toList ++ "/tests/".toList ++ "**/*.js".toList := by
    simp [moduleEntry]
  have hfront : ∀ c ∈ "node_modules/".toList ++ name.toList ++ "/tests/".toList, Plain c := by
    have hbefore : ∀ c ∈ "node_modules/".toList, Plain c := plain_of_all (by decide)
    have hbehind : ∀ c ∈ "/tests/".toList, Plain c := plain_of_all (by decide)
    simp only [List.forall_mem_append]
    exact ⟨⟨hbefore, hplain⟩, hbehind⟩
  have hlast : (("node_modules/".toList ++ name.toList ++ "/tests/".toList).getLast?.or
      (some '/')) = some '/' := by
    rw [List.getLast?_append]
    rfl
  have hfuel : fuel + 1 + (moduleEntry name).toList.length = fuel + 8 +
      ("node_modules/".toList ++ name.toList ++ "/tests/".toList).length := by
    rw [hchars, List.length_append, show ("**/*.js".toList).length = 7 from rfl]
    omega
  have hstars : ∀ pos, readTokens (fuel + 8) pos (some '/') "**/*.js".toList =
      .ok [.recursive, .many, .char '.', .char 'j', .char 's'] := fun _ => rfl
  rw [hfuel, hchars, readTokens_plain hfront, hlast, hstars]
  exact ⟨_, rfl⟩

theorem Selector.read_moduleEntry_plain (hname : Path.IsPart name)
    (hplain : ∀ c ∈ name.toList, Plain c) {root : String} (habs : Path.isAbsolute root = true) :
    Selector.read (FileSet.rootedPattern root (moduleEntry name)) =
      .ok ⟨"/", (rootPieces root).map (·.map literalToken) ++
        moduleComponents (name.toList.map .char), false⟩ := by
  have hread : read name = .ok (name.toList.map .char) := by
    simpa using read_plain hplain
  obtain ⟨us, hus⟩ := read_rootedPattern habs (by simp [moduleEntry, Path.isAbsolute])
    (readTokens_moduleEntry hplain)
  rw [Selector.read_moduleEntry hname habs, hus, hread]
  rfl

end

theorem isPart_of_isModuleName {name : String} (h : isModuleName name = true) :
    Path.IsPart name := by
  simp only [isModuleName, Bool.and_eq_true, decide_eq_true_eq, Bool.not_eq_true',
    List.contains_eq_mem, decide_eq_false_iff_not] at h
  obtain ⟨⟨⟨⟨h₁, h₂⟩, h₃⟩, h₄⟩, -⟩ := h
  exact ⟨h₁, h₂, h₃, h₄⟩

/-! ## The paths of the tests -/

section
variable {name : String} (hname : Path.IsPart name)
include hname

theorem isPart_testDir : ∀ s ∈ ["node_modules", name, "tests"], Path.IsPart s := by
  have hmodules : IsName "node_modules" := by decide
  have htests : IsName "tests" := by decide
  simp only [List.forall_mem_cons]
  exact ⟨hmodules.toIsPart, hname, htests.toIsPart, by simp⟩

theorem isPart_testFile {dirs : List String} {n : String} (hdirs : ∀ d ∈ dirs, IsName d)
    (hn : IsName n) : ∀ s ∈ ["node_modules", name, "tests"] ++ (dirs ++ [n]), Path.IsPart s := by
  rw [List.forall_mem_append, List.forall_mem_append, List.forall_mem_singleton]
  exact ⟨isPart_testDir hname, fun d hd => (hdirs d hd).toIsPart, hn.toIsPart⟩

end

/-! ## The call -/

namespace Pipeline

variable (p : Pipeline)

/-- The call of `test.program` that loads `files` behind `test.setup`. -/
def runnerCall (files : List String) : Invocation :=
  (p.call p.settings.test.program).withArgs
    (p.settings.test.args ++ ["--timeout", toString p.settings.test.timeoutMs] ++
      (match p.settings.test.grep with | some g => ["--grep", g] | none => []) ++
      p.settings.test.setup ++ files)

/-- An entry that selects is expanded to what it leads to, each path once. -/
theorem expand_entry (w : World) {entry : String} (h : FileSet.negated? entry = none) :
    ∃ w', p.expand [entry] w =
      ((FileSet.selected w.tree p.root entry).map FileSet.distinctPaths, w') := by
  have hexpand := FileSet.expand_single w.tree p.root entry
  unfold expand
  rw [Step.ofExcept_bind_ok (FileSet.read_single h), Step.bind_ok (Step.tree_run w), ← hexpand]
  cases hfiles : FileSet.expand ⟨[entry], []⟩ w.tree p.root with
  | error f => exact ⟨w, Step.ofExcept_bind_error rfl _ w⟩
  | ok files =>
    obtain ⟨w', hlog, -⟩ := Step.log_run .debug .fileSets "expanded file patterns"
      [("count", toString files.length)] w
    refine ⟨w', ?_⟩
    rw [Step.ofExcept_bind_ok rfl, Step.bind_ok hlog]
    rfl

/-- The call for a module loads what the default pattern leads to with its name in it. -/
theorem testCall_moduleEntry (w : World) {name : String}
    (hmodule : p.settings.test.moduleFiles = ({} : TestSettings).moduleFiles)
    (hname : isModuleName name = true) :
    (p.testCall (.module name) w).1 =
      (FileSet.selected w.tree p.root (moduleEntry name)).map fun files =>
        p.runnerCall (FileSet.distinctPaths files) := by
  have hpatterns : p.testPatterns (.module name) = .ok [moduleEntry name] := by
    simp only [testPatterns, hname, if_true, hmodule, List.map_cons, List.map_nil,
      fillModule_default]
  have hselects : FileSet.negated? (moduleEntry name) = none := by
    simp [FileSet.negated?, moduleEntry]
  obtain ⟨w₁, hrun⟩ := p.expand_entry w hselects
  unfold testCall
  rw [Step.ofExcept_bind_ok hpatterns]
  cases hfiles : FileSet.selected w.tree p.root (moduleEntry name) with
  | error f =>
    rw [hfiles] at hrun
    rw [Step.bind_error hrun]
    rfl
  | ok files =>
    rw [hfiles] at hrun
    rw [Step.bind_ok hrun]
    by_cases hempty : (FileSet.distinctPaths files).isEmpty = true
    · simp only [hempty, if_true]
      obtain ⟨w₂, hwarn, -⟩ := Step.log_run .warn .pipeline "no test files matched"
        [("selection", (TestSelection.module name).display)] w₁
      rw [Step.bind_ok hwarn]
      rfl
    · simp only [hempty]
      rfl

theorem runnerCall_inj {as bs : List String} (h : p.runnerCall as = p.runnerCall bs) : as = bs := by
  have hargs := congrArg Invocation.args h
  simpa only [runnerCall, Invocation.withArgs, List.append_cancel_left_eq] using hargs

/-- From `w` the call for the module `name` loads the scripts at any depth below
`node_modules/name/tests`, each once and nothing else. -/
def LoadsTestsOf (w : World) (name : String) : Prop :=
  ∃ files, (p.testCall (.module name) w).1 = .ok (p.runnerCall files) ∧ files.Nodup ∧
    ∀ f, f ∈ files ↔ ∃ dirs n,
      f = "/".intercalate (["node_modules", name, "tests"] ++ (dirs ++ [n])) ∧
        (∀ d ∈ dirs, IsName d) ∧ IsName n ∧ ".js".toList <:+ n.toList ∧
        w.tree.isFile (Path.join (rootPath p.root) f) = true

/-- A name without operators loads the tests of its module. -/
theorem loadsTestsOf_of_plain (w : World) {name : String}
    (hmodule : p.settings.test.moduleFiles = ({} : TestSettings).moduleFiles)
    (habs : Path.isAbsolute p.root = true) (wf : w.tree.WellFormed) (lf : w.tree.LinkFree)
    (hname : isModuleName name = true) (hplain : ∀ c ∈ name.toList, Plain c) :
    p.LoadsTestsOf w name := by
  have hpart := isPart_of_isModuleName hname
  have hparts : ∀ s ∈ ["node_modules", name, "tests"], Path.IsPart s := isPart_testDir hpart
  obtain ⟨files, hfiles, hmem⟩ := FileSet.selected_recursive wf lf habs
    (.cons (.plain "node_modules") (.cons (.plain name) (.cons (.plain "tests") .nil))) hparts
    (by rfl) (Selector.read_moduleEntry_plain hpart hplain habs)
  -- No file has two texts: a text is its names.
  have hinj : ∀ a ∈ files, ∀ b ∈ files, Path.components a = Path.components b → a = b := by
    have hall : ∀ f ∈ files, ∃ names, f = "/".intercalate names ∧ ∀ n ∈ names, Path.IsPart n := by
      intro f hf
      obtain ⟨dirs, n, rfl, hdirs, hn, -⟩ := (hmem f).1 hf
      exact ⟨_, rfl, isPart_testFile hpart hdirs hn⟩
    intro a ha b hb hab
    obtain ⟨as, rfl, has⟩ := hall a ha
    obtain ⟨bs, rfl, hbs⟩ := hall b hb
    rw [Path.names_inj has hbs hab]
  refine ⟨FileSet.distinctPaths files, ?_, FileSet.nodup_distinctPaths files, fun f => ?_⟩
  · rw [p.testCall_moduleEntry w hmodule hname, hfiles]
    rfl
  · rw [FileSet.mem_distinctPaths hinj, hmem]
    simp only [accepts_many_chars]

end Pipeline

end BuildGate
