import BuildGate.Proofs.ListedFiles
import BuildGate.Proofs.SamePattern
import BuildGate.Proofs.ScanOutput

/-!
# Stages open the files they list

A scan reads each listed file behind the root, and a tool gets the listed files as arguments and works
in the root. So a scan never fails for a file that it cannot read, unless the file is no text, and no
tool is given a file that is not there.

Two things are asked of the root. It must not begin with `.` and go on, since then the files are listed
relative to the working directory. And the paths behind it must be no longer than a path may be, which
is always so if it has no empty parts and does not begin with `.`.

**Results.**
* `FileSet.opened_of_filesOf`: the files that patterns list are there behind the root.
* `Pipeline.stages_open`: so they are where a scan, the linter and the test runner look for them.
* `Pipeline.stages_open_bothScripts`: a project of which all this can be told, and one whose root begins
  with `.`, of which it cannot.
-/
namespace BuildGate

open FileTree Glob.Include

namespace FileSet

/-- Those of `entries` that select are relative, so they lie below the root. -/
def Below (entries : List String) : Prop := ∀ e ∈ selecting entries, Path.isAbsolute e = false

instance (entries : List String) : Decidable (Below entries) :=
  inferInstanceAs (Decidable (∀ e ∈ selecting entries, Path.isAbsolute e = false))

/-- Behind `root` all of `files` can be opened: it is not `DotLed`, and it is `Plain` or no path
becomes too long. -/
structure Opens (root : String) (files : List String) : Prop where
  begins : ¬ Path.DotLed root
  fits : Path.Plain root ∨ ∀ f ∈ files, (Path.join root f).utf8ByteSize ≤ maxPath

/-- The files are relative, and there where they are looked for: behind a root that `Opens` them, or
by their own names if the root is `DotLed`. -/
structure Opened (t : FileTree) (root : String) (files : List String) : Prop where
  relative : ∀ f ∈ files, Path.isAbsolute f = false
  behind : Opens root files → ∀ f ∈ files, t.isFile (Path.join root f) = true
  elsewhere : Path.DotLed root → ∀ f ∈ files, t.isFile f = true

/-- The files that patterns list are there behind the root. -/
theorem opened_of_filesOf {t : FileTree} (wf : t.WellFormed) {root : String} {entries files : List String}
    (hbelow : Below entries) (h : filesOf t root entries = .ok files) : Opened t root files := by
  obtain ⟨-, rfl⟩ := filesOf_eq_ok_iff.1 h
  have hlisted : ∀ f ∈ chosen t root entries, ∃ x, f = relativeTo root x ∧ Listed t root x := by
    intro f hf
    obtain ⟨hmem, -⟩ := mem_remaining.1 ((firsts_sublist _).subset hf)
    obtain ⟨e, he, hmem⟩ := List.mem_flatMap.1 hmem
    obtain ⟨x, hx, rfl⟩ := List.mem_map.1 hmem
    obtain ⟨hx, hfile⟩ := List.mem_filter.1 hx
    exact ⟨x, rfl, listed_of_mem_leadsTo wf (hbelow e he) hx hfile⟩
  refine ⟨fun f hf => ?_, fun hopens f hf => ?_, fun hdot f hf => ?_⟩
  · obtain ⟨x, rfl, hx⟩ := hlisted f hf
    exact hx.relative
  · obtain ⟨x, rfl, hx⟩ := hlisted f hf
    exact hx.opens hopens.begins (hopens.fits.elim hx.fits fun h => h _ hf)
  · obtain ⟨x, rfl, hx⟩ := hlisted f hf
    exact hx.elsewhere hdot

end FileSet

open FileSet (Below Opens Opened)

/-! ## What a scan reads -/

/-- Whatever file is at `path` is text. -/
def HoldsText (t : FileTree) (path : String) : Prop :=
  ∀ bytes, t.readFile path = .ok bytes → (String.fromUTF8? bytes).isSome

theorem readable_of_isFile {t : FileTree} {root file : String}
    (h : t.isFile (Path.join root file) = true) (htext : HoldsText t (Path.join root file)) :
    StyleCheck.Readable t root file := by
  obtain ⟨loc, bytes, hr, hg⟩ := isFile_iff.1 h
  have hread : t.readFile (Path.join root file) = .ok bytes := by
    rw [readFile, find_eq hr hg]
    rfl
  obtain ⟨text, htext⟩ := Option.isSome_iff_exists.1 (htext bytes hread)
  refine ⟨text, ?_⟩
  rw [readText, hread]
  simp only [bind, Except.bind, htext]
  rfl

namespace Pipeline

/-- A scan of files all of which can be read does not fail for one that cannot. -/
theorem ScanEnd.ne_read {p : Pipeline} {t : FileTree} {files : List String}
    {r : Except Failure StyleSummary} {fs : List Finding} (h : p.ScanEnd t files r fs)
    (ht : ∀ targets, p.scanTargets t files = .ok targets → ∀ f ∈ targets, StyleCheck.Readable t p.root f)
    (path : String) (cause : IoFault) : r ≠ .error (.read path cause) := by
  intro heq
  cases h with
  | badRule hg =>
    obtain ⟨pattern, reason, rfl⟩ := invalidRule_of_withCustom hg
    cases heq
  | badPattern hg hbad =>
    obtain ⟨entry, reason, rfl⟩ := pattern_of_scanTargets hbad
    cases heq
  | @unreadable g before after file cause hg hall hb hf =>
    obtain ⟨text, htext⟩ := ht _ hall file (by simp)
    rw [htext] at hf
    cases hf
  | found => cases heq
  | clean => cases heq

/-! ## What the tools are given -/

/-- What the stages of `p` do from `w` with the files that patterns list. -/
structure StagesOpen (p : Pipeline) (w : World) : Prop where
  /-- The files that any patterns below the root list are there. -/
  listed : ∀ entries files, Below entries → FileSet.filesOf w.tree p.root entries = .ok files →
    Opened w.tree p.root files
  /-- If those of a scan are text, it does not fail for a file that it cannot read. -/
  scanned : Below p.settings.style.files →
    (∀ files, FileSet.filesOf w.tree p.root p.settings.style.files = .ok files →
      Opens p.root files ∧ ∀ f ∈ files, HoldsText w.tree (Path.join p.root f)) →
    ∀ path cause, (p.styleScan [] w).1 ≠ .error (.read path cause)
  /-- The linter is called in the root, with files as its last arguments that are there, -/
  linted : Below p.settings.lint.files → ∃ calls, (p.lint w).2.calls = w.calls ++ calls ∧
    ∀ call ∈ calls, ∃ files, call = p.lintCall files ∧ call.workingDir = some p.root ∧
      Opened w.tree p.root files
  /-- and so is the test runner. -/
  tested : ∀ selection, (∀ patterns, p.testPatterns selection = .ok patterns → Below patterns) →
    ∃ calls, (p.test selection w).2.calls = w.calls ++ calls ∧
      ∀ call ∈ calls, ∃ files, call = p.runnerCall files ∧ call.workingDir = some p.root ∧
        Opened w.tree p.root files

/-- The stages open what patterns list, behind a root that `Opens` the files. -/
theorem stages_open (settings : Settings) (root : String) {w : World} (wf : w.tree.WellFormed) :
    StagesOpen ⟨settings, root, Runner.scripted⟩ w := by
  generalize hp : (⟨settings, root, Runner.scripted⟩ : Pipeline) = p
  have hrun : p.run = Runner.scripted := by rw [← hp]
  have hopened : ∀ entries files, Below entries → FileSet.filesOf w.tree p.root entries = .ok files →
      Opened w.tree p.root files := fun _ _ => FileSet.opened_of_filesOf wf
  refine ⟨hopened, fun hbelow htext => ?_, fun hbelow => ?_, fun selection hbelow => ?_⟩
  · obtain ⟨r, fs, hend⟩ := p.exists_scanEnd w.tree []
    rw [(hend.runs rfl).result]
    refine hend.ne_read fun targets htargets f hf => ?_
    obtain ⟨hopens, hall⟩ := htext targets htargets
    exact readable_of_isFile ((hopened _ _ hbelow htargets).behind hopens f hf) (hall f hf)
  · refine ⟨_, (p.lint_runs hrun w).leaves.calls, fun call hcall => ?_⟩
    unfold lintCalls at hcall
    cases hfiles : FileSet.filesOf w.tree p.root p.settings.lint.files with
    | error e => simp [hfiles] at hcall
    | ok files =>
      cases hnone : files.isEmpty with
      | true => simp [hfiles, hnone] at hcall
      | false =>
        obtain rfl : call = p.lintCall files := by simpa [hfiles, hnone] using hcall
        exact ⟨files, rfl, rfl, hopened _ _ hbelow hfiles⟩
  · refine ⟨_, (p.test_selection_runs hrun w selection).leaves.calls, fun call hcall => ?_⟩
    unfold selectionCalls selectionFiles at hcall
    cases hpatterns : p.testPatterns selection with
    | error e => simp [hpatterns, bind, Except.bind] at hcall
    | ok patterns =>
      cases hfiles : FileSet.filesOf w.tree p.root patterns with
      | error e => simp [hpatterns, hfiles, bind, Except.bind] at hcall
      | ok files =>
        obtain rfl : call = p.runnerCall files := by
          simpa [hpatterns, hfiles, bind, Except.bind] using hcall
        exact ⟨files, rfl, rfl, hopened _ _ (hbelow patterns hpatterns) hfiles⟩

end Pipeline

/-! ## Two projects -/

namespace FileSet

/-- A project with one script, in the working directory. -/
def oneScript : FileTree where
  entries := [(["proj"], .dir), (["proj", "a.js"], .file ⟨#[]⟩)]

/-- Below a root that begins with `.` the script is listed relative to the working directory. -/
theorem filesOf_oneScript : filesOf oneScript "./proj" ["a.js"] = .ok ["proj/a.js"] := by
  have hread : Selector.read (rootedPattern "./proj" "a.js") =
      .ok ⟨".", [".", "proj", "a.js"].map fun s => s.toList.map .char, false⟩ := by rfl
  have hselecting : selecting ["a.js"] = ["a.js"] := by decide
  have hremoving : removing ["a.js"] = [] := by decide
  have hdir : oneScript.isDir "." = true :=
    isDir_iff.2 ⟨[], resolve_of_within 10 (by rfl), by rfl⟩
  have hproj : oneScript.hasEntry "proj" = true := hasEntry_iff.2
    ⟨["proj"], resolveWith_of_within 10 (by rfl)⟩
  have hscript : oneScript.hasEntry "proj/a.js" = true := hasEntry_iff.2
    ⟨["proj", "a.js"], resolveWith_of_within 10 (by rfl)⟩
  have hfile : oneScript.isFile "proj/a.js" = true :=
    isFile_iff.2 ⟨["proj", "a.js"], _, resolve_of_within 10 (by rfl), by rfl⟩
  have hlead : leadsTo oneScript "./proj" "a.js" = ["proj/a.js"] := by
    have hhere : inDir "." "." = "." := if_pos (by decide)
    have hfirst : inDir "." "proj" = "proj" := if_pos (by decide)
    have hlast : inDir "proj" "a.js" = "proj/a.js" := by decide
    rw [leadsTo_eq hread, Selector.expand, List.map_cons, List.map_cons, List.map_singleton]
    rw [below_literal (literal?_chars _), String.ofList_toList, if_pos (.inl ⟨.inl rfl, hdir⟩), leadOn,
      if_neg (by simp), Place.path_at, hhere, below_literal (literal?_chars _), String.ofList_toList,
      if_pos (.inr ⟨by decide, by rwa [Place.path_at, hfirst]⟩), leadOn, if_neg (by simp), Place.path_at,
      hfirst, below_literal (literal?_chars _), String.ofList_toList,
      if_pos (.inr ⟨by decide, by rwa [Place.path_at, hlast]⟩), leadOn, if_pos (by rfl), Place.path_at,
      hlast]
    rfl
  have hrelative : relativeTo "./proj" "proj/a.js" = "proj/a.js" := by decide
  have hselects : ∀ e ∈ selecting ["a.js"], Selects "./proj" e := by
    rw [hselecting, List.forall_mem_singleton]
    exact ⟨_, hread⟩
  have hremaining : remaining oneScript "./proj" ["a.js"] = ["proj/a.js"] := by
    rw [remaining, candidates, hselecting, hremoving, List.flatMap_singleton, hlead,
      List.filter_singleton, hfile]
    simp [hrelative]
  rw [filesOf_eq_ok (by simp [hremoving]) (by rw [hremoving]; exact compile_nil) hselects, chosen,
    hremaining]
  exact congrArg Except.ok (by decide +kernel)

end FileSet

/-- Behind `/proj` two scripts are opened that are listed there. The one that is listed behind `./proj`
is not: there is no file of its path behind that root, but one behind the working directory. -/
theorem Pipeline.stages_open_bothScripts :
    (∀ f ∈ FileSet.bothScripts, FileSet.twoScripts.isFile (Path.join "/proj" f) = true) ∧
      FileSet.filesOf FileSet.oneScript "./proj" ["a.js"] = .ok ["proj/a.js"] ∧
      FileSet.oneScript.isFile (Path.join "./proj" "proj/a.js") = false ∧
      FileSet.oneScript.isFile "proj/a.js" = true := by
  have habsolute := (stages_open {} "/proj" (w := { tree := FileSet.twoScripts }) (by decide)).listed
    FileSet.bothScripts FileSet.bothScripts (by decide) FileSet.filesOf_bothScripts
  have hplain : Path.Plain "/proj" := ⟨by decide, by decide⟩
  have hdotted := (stages_open {} "./proj" (w := { tree := FileSet.oneScript }) (by decide)).listed
    ["a.js"] ["proj/a.js"] (by decide) FileSet.filesOf_oneScript
  have hled : Path.DotLed "./proj" := ⟨.name "proj", [], by decide⟩
  exact ⟨habsolute.behind ⟨hplain.not_dotLed, .inl hplain⟩, FileSet.filesOf_oneScript,
    not_isFile_of_within 10 (by rfl), hdotted.elsewhere hled "proj/a.js" List.mem_cons_self⟩

end BuildGate
