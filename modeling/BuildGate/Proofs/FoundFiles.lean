import BuildGate.Proofs.LastWins
import BuildGate.Proofs.ProjectSearch
import BuildGate.Proofs.RootedPatterns

/-!
# The files that are found

Without a marker the search for a project goes up to the root and ends at the first directory that
has files of a project. With or without one, what it finds lies in one directory, which is the one
where it starts or one above it, and that directory becomes the root of the project.

The files of a request are the user's, those of the project and the explicit ones, laid over each
other in this order, so the one of most weight is the last of them. A load that demands files looks
for them by tests of its own, and these agree with what a load finds.

**Results.**
* `searchUp_cases`: a search finds the files of one directory or none.
* `projectFiles_nearest`: the files of a project without a marker, and where those of a load lie.
* `loadOrFail_demands`: when a load that demands files fails for want of them, and that it is a load
  otherwise.
-/
namespace BuildGate

open BuildGate.FileTree BuildGate.Path

namespace Path

open Glob.Include in
/-- The parts of a name in a directory; a slash at the end of the directory makes no part. -/
theorem parts_join {dir n : String} (habs : isAbsolute dir = true) (hn : IsPart n) :
    parts (join dir n) = (rootPieces dir).map (fun p => partOf (String.ofList p)) ++ [partOf n] := by
  have hne : dir ≠ "" := by
    intro h
    subst h
    cases habs
  have hsegments : segments (join dir n) = (pieces dir.toList).map String.ofList ++ segments n := by
    rw [segments, splitSlash_join hne (isAbsolute_of_no_slash hn.no_slash), List.map_append]
    rfl
  rw [parts, if_pos (isAbsolute_join habs n), hsegments, segments_of_no_slash hn.no_slash,
    pieces_absolute habs]
  simp

/-- All names in a directory have the same text for a parent, and it names the directory. -/
theorem exists_parent {dir : String} (habs : isAbsolute dir = true) :
    ∃ q, components q = components dir ∧ ∀ n, IsPart n → parent? (join dir n) = some q := by
  let above := trimEnd ((Glob.Include.rootPieces dir).map fun p => partOf (String.ofList p))
  have hparent : ∀ n, IsPart n → parent? (join dir n) = some ("/" ++ ofParts above) := by
    intro n hn
    unfold parent?
    rw [parts_join habs hn, trimEnd_concat_some (componentOf_name hn)]
    simp [isAbsolute_join habs n, above]
  -- One name is enough to tell what the text names.
  have happ : IsPart Settings.appName := (by decide : IsName Settings.appName).toIsPart
  obtain ⟨q, hq, hcomps⟩ := parent?_join habs happ
  rw [hparent _ happ] at hq
  cases hq
  exact ⟨_, hcomps, hparent⟩

end Path

namespace Settings

open Data

variable {r : Request} {t : FileTree} {env : Environment} {marker : Option String}
  {start dir : String} {fuel : Nat}

/-! ## The directory of a project -/

/-- A search finds the files of one directory, which is the one where it starts or stands above, or
it finds none. -/
theorem searchUp_cases (t : FileTree) (marker : Option String) (start : String) (fuel : Nat)
    (dir : String) : searchUp t marker start fuel dir = [] ∨
    ∃ k D, ancestor? k dir = some D ∧ searchUp t marker start fuel dir = filesIn t D := by
  induction fuel generalizing dir with
  | zero => exact .inl rfl
  | succ fuel ih =>
    by_cases hfound : filesIn t dir = []
    · cases hstop : endsAt t marker start dir with
      | true => exact .inl (searchUp_stop hfound hstop)
      | false =>
        rw [searchUp_above hfound hstop]
        cases habove : parent? dir with
        | none => exact .inl rfl
        | some above =>
          rcases ih above with hnone | ⟨k, D, hD, hfiles⟩
          · exact .inl hnone
          · refine .inr ⟨k + 1, D, ?_, hfiles⟩
            rw [ancestor?, habove]
            exact hD
    · exact .inr ⟨0, dir, rfl, searchUp_found hfound⟩

/-- The names of files of a project from the least weight to the most: hidden ones before others,
and the later `extensions` of each behind the earlier ones. -/
def fileNames : List String :=
  [".stylegate.toml", ".stylegate.yaml", ".stylegate.yml", ".stylegate.json",
    "stylegate.toml", "stylegate.yaml", "stylegate.yml", "stylegate.json"]

theorem filesIn_eq (t : FileTree) (dir : String) :
    filesIn t dir = (fileNames.map (join dir)).filter t.isFile := rfl

/-- One of `fileNames` is a file in `dir`. -/
def HasFiles (t : FileTree) (dir : String) : Prop := ∃ n ∈ fileNames, t.isFile (join dir n) = true

theorem filesIn_eq_nil_iff : filesIn t dir = [] ↔ ¬ HasFiles t dir := by
  simp [filesIn_eq, HasFiles]

/-- What `projectFiles t none start` finds. -/
structure Nearest (t : FileTree) (start : String) : Prop where
  /-- They are those of the directory where it starts or one above, if no nearer one has any, -/
  found : ∀ k D, ancestor? k start = some D → HasFiles t D →
    (∀ i < k, ∀ d, ancestor? i start = some d → ¬ HasFiles t d) →
      projectFiles t none start = (fileNames.map (join D)).filter t.isFile
  /-- and there are none only if no directory up to the root has any. -/
  nothing : projectFiles t none start = [] ↔ ∀ k D, ancestor? k start = some D → ¬ HasFiles t D

theorem projectFiles_of_nearest {k : Nat} {D : String} (habs : isAbsolute start = true)
    (hD : ancestor? k start = some D) (hfound : HasFiles t D)
    (hfree : ∀ i < k, ∀ d, ancestor? i start = some d → ¬ HasFiles t d) :
    projectFiles t none start = filesIn t D := by
  have hfuel : k < (components start).length + 2 := by
    have := ancestor?_lt habs hD
    omega
  refine searchUp_reaches hD hfuel (fun i hi d hd => ?_) ?_
  · exact ⟨filesIn_eq_nil_iff.2 (hfree i hi d hd), rfl⟩
  · intro hnil
    exact filesIn_eq_nil_iff.1 hnil hfound

theorem nearest (habs : isAbsolute start = true) : Nearest t start where
  found k D hD hfound hfree := projectFiles_of_nearest habs hD hfound hfree
  nothing := by
    constructor
    · intro hnil
      by_contra hsome
      push Not at hsome
      -- Of the directories that have files the nearest one is found.
      classical
      obtain ⟨D, hD, hfound⟩ := Nat.find_spec hsome
      have hfiles := projectFiles_of_nearest habs hD hfound fun i hi d hd hfound =>
        Nat.find_min hsome hi ⟨d, hd, hfound⟩
      exact filesIn_eq_nil_iff.1 (hfiles.symm.trans hnil) hfound
    · intro hnone
      rcases searchUp_cases t none start ((components start).length + 2) start with
        hnil | ⟨k, D, hD, hfiles⟩
      · exact hnil
      · exact hfiles.trans (filesIn_eq_nil_iff.2 (hnone k D hD))

/-! ## The files of a load -/

/-- `userFile`, `projectFiles` and `explicitFiles`: those of more weight last. -/
def Sources.files (src : Sources) : List String :=
  src.userFile.toList ++ src.projectFiles ++ src.explicitFiles

theorem Sources.primary_eq (src : Sources) : src.primary = src.files.getLast? := by
  rw [primary, files, List.getLast?_append, List.getLast?_append]
  cases src.userFile <;> simp

/-- The last file is laid over what the others make. -/
theorem layFiles_concat {paths : List String} {path : String} {d : Datum Origin}
    (h : layFiles t (paths ++ [path]) = .ok d) : ∃ below layer,
      layFiles t paths = .ok below ∧ fileLayer t path = .ok layer ∧ d = below.laidOver layer := by
  simp only [layFiles, List.foldl_append, List.foldl_cons, List.foldl_nil] at h
  split at h
  next below layer hbelow hlayer => exact ⟨below, layer, hbelow, hlayer, (Except.ok.inj h).symm⟩
  all_goals cases h

/-- What is loaded is read from the files with the variables over them. -/
theorem exists_of_load {s : Settings} {src : Sources} (h : load r t env = .ok (s, src)) :
    src = sourcesOf r t env ∧ ∃ files, layFiles t src.files = .ok files ∧
      read (files.laidOver (environmentLayer env)) = .ok s := by
  simp only [load, readAll] at h
  split at h
  · cases h
  next files hfiles =>
    cases hread : read (files.laidOver (environmentLayer env)) with
    | error f =>
      rw [hread] at h
      cases h
    | ok s' =>
      rw [hread] at h
      cases h
      exact ⟨rfl, files, hfiles, hread⟩

/-- Where the files `src` of a load of `r` lie that searches from `start`, and which of them weighs
most. -/
structure Located (r : Request) (t : FileTree) (env : Environment) (start : String) (s : Settings)
    (src : Sources) : Prop where
  searched : src.projectFiles = projectFiles t r.marker start
  /-- The files of the project have one parent, which is the root of the project, -/
  together : src.projectFiles ≠ [] →
    ∀ f ∈ src.projectFiles, parent? f = some (src.projectRoot start)
  /-- and that is the directory where the search starts or one above, -/
  above : src.projectFiles ≠ [] →
    ∃ k D, ancestor? k start = some D ∧ same (src.projectRoot start) D = true
  /-- or the one where the search starts if there are none. -/
  alone : src.projectFiles = [] → src.projectRoot start = start
  /-- The file of most weight is laid over what all the others make, -/
  last : ∀ f, src.primary = some f → ∃ others below layer, src.files = others ++ [f] ∧
    layFiles t others = .ok below ∧ fileLayer t f = .ok layer ∧
      read ((below.laidOver layer).laidOver (environmentLayer env)) = .ok s
  /-- and there is one unless there is no file. -/
  nothing : src.primary = none ↔ src.files = []

/-- What a search finds has one parent, and that is where the root of the project comes to lie. -/
theorem projectRoot_searched {src : Sources} (habs : isAbsolute start = true)
    (hsrc : src.projectFiles = projectFiles t marker start) (hne : src.projectFiles ≠ []) :
    (∀ f ∈ src.projectFiles, parent? f = some (src.projectRoot start)) ∧
      ∃ k D, ancestor? k start = some D ∧ same (src.projectRoot start) D = true := by
  rcases searchUp_cases t marker start ((components start).length + 2) start with
    hnil | ⟨k, D, hD, hfiles⟩
  · exact absurd (hsrc.trans hnil) hne
  · have hin : src.projectFiles = filesIn t D := hsrc.trans hfiles
    obtain ⟨q, hq, hparent⟩ := exists_parent (ancestor?_components habs hD).1
    have hall : ∀ f ∈ src.projectFiles, parent? f = some q := by
      intro f hf
      rw [hin] at hf
      obtain ⟨n, hn, rfl⟩ := mem_filesIn hf
      exact hparent n hn
    have hroot : src.projectRoot start = q := by
      have hlast := List.getLast?_eq_getLast_of_ne_nil hne
      rw [Sources.projectRoot, hlast, Option.bind_some, hall _ (List.getLast_mem hne)]
      rfl
    rw [hroot]
    exact ⟨hall, k, D, hD, by simp [same, hq]⟩

theorem located (habs : isAbsolute start = true) (hsearch : r.search = some start) {s : Settings}
    {src : Sources} (hload : load r t env = .ok (s, src)) : Located r t env start s src := by
  obtain ⟨hsrc, files, hfiles, hread⟩ := exists_of_load hload
  have hsearched : src.projectFiles = projectFiles t r.marker start := by
    simp [hsrc, sourcesOf, hsearch]
  refine
    { searched := hsearched
      together := fun hne => (projectRoot_searched habs hsearched hne).1
      above := fun hne => (projectRoot_searched habs hsearched hne).2
      alone := fun hnil => by simp [Sources.projectRoot, hnil]
      last := fun f hf => ?_
      nothing := by rw [Sources.primary_eq, List.getLast?_eq_none_iff] }
  rw [Sources.primary_eq, List.getLast?_eq_some_iff] at hf
  obtain ⟨others, hothers⟩ := hf
  rw [hothers] at hfiles
  obtain ⟨below, layer, hbelow, hlayer, rfl⟩ := layFiles_concat hfiles
  exact ⟨others, below, layer, hothers, hbelow, hlayer, hread⟩

/-- Without a marker `projectFiles` finds the files of the nearest directory that has any. Those of
every load with a search lie together there, or where the search ended before, the `primary` one on
top. -/
theorem projectFiles_nearest (habs : isAbsolute start = true) : Nearest t start ∧
    ∀ r env s src, r.search = some start → load r t env = .ok (s, src) →
      Located r t env start s src :=
  ⟨nearest habs, fun _ _ _ _ hsearch hload => located habs hsearch hload⟩

/-- Searches from below a repository, whose marker does not count. -/
def fromBelow : Request := { user := false, search := some "/proj/repo/src", marker := none }

theorem projectFiles_nearest_below :
    let t := belowSettings .dir
    isAbsolute "/proj/repo/src" = true ∧
      projectFiles t none "/proj/repo/src" = ["/proj/stylegate.toml"] ∧
      ∃ s src, load fromBelow t {} = .ok (s, src) ∧ src.primary = some "/proj/stylegate.toml" ∧
        src.projectRoot "/proj/repo/src" = "/proj" := by
  intro t
  have habs : isAbsolute "/proj/repo/src" = true := by decide
  have habove : filesIn t "/proj" = ["/proj/stylegate.toml"] :=
    filter_isFile_of_within 10 ["/proj/stylegate.toml"] (by decide +kernel)
  have hbelow : ∀ i < 2, ∀ d, ancestor? i "/proj/repo/src" = some d → ¬ HasFiles t d := by
    intro i hi d hd
    apply filesIn_eq_nil_iff.1
    match i, hi with
    | 0, _ =>
      cases hd
      exact filesIn_eq_nil 10 (by decide +kernel)
    | 1, _ =>
      cases hd
      exact filesIn_eq_nil 10 (by decide +kernel)
  have hfiles : projectFiles t none "/proj/repo/src" = ["/proj/stylegate.toml"] := by
    rw [← habove]
    refine (projectFiles_nearest habs).1.found 2 "/proj" (by decide) ?_ hbelow
    exact ⟨"stylegate.toml", by decide, isFile_of_fileWithin 10 (by decide +kernel)⟩
  have htext : t.readText "/proj/stylegate.toml" = .ok "" := readText_of_within 10 (by rfl)
  have hpaths : pathsOf fromBelow t {} = ["/proj/stylegate.toml"] := by
    change [] ++ projectFiles t none "/proj/repo/src" ++ [] = _
    rw [hfiles]
    rfl
  have hlayer := fileLayer_eq_ok htext (show parse? _ "" = some (.table () []) by cbv)
  have hload : load fromBelow t {} = .ok ({}, sourcesOf fromBelow t {}) := by
    refine (load_eq_ok fun p hp => ?_).2 ⟨?_, rfl⟩
    · rw [hpaths, List.mem_singleton] at hp
      subst hp
      exact ⟨_, hlayer⟩
    · simp only [joined, stack, layersOf, hpaths, List.filterMap_cons, List.filterMap_nil, hlayer]
      rfl
  have hlocated := (projectFiles_nearest habs).2 fromBelow {} {} _ rfl hload
  have hsearched := hlocated.searched
  rw [show fromBelow.marker = none from rfl, hfiles] at hsearched
  refine ⟨habs, hfiles, _, _, hload, ?_, ?_⟩
  · rw [Sources.primary, hsearched]
    rfl
  · have hmem : "/proj/stylegate.toml" ∈ (sourcesOf fromBelow t {}).projectFiles := by
      simp [hsearched]
    have hroot := hlocated.together (List.ne_nil_of_mem hmem) _ hmem
    exact (Option.some.inj hroot).symm

/-! ## A load that demands files -/

/-- `r` comes to no file: none of the user if `r.user` asks for it, none of a project if `r.search`
does, and no explicit one. -/
structure NoFiles (r : Request) (t : FileTree) (env : Environment) : Prop where
  user : r.user = true → userFile? t env = none
  project : ∀ start, r.search = some start → projectFiles t r.marker start = []
  explicit : r.explicitFiles = []

theorem noFiles_iff : NoFiles r t env ↔ (sourcesOf r t env).primary = none := by
  rw [Sources.primary_eq_none_iff]
  constructor
  · intro h
    refine ⟨h.explicit, ?_, ?_⟩
    · cases hsearch : r.search with
      | none => simp [sourcesOf, hsearch]
      | some start => simpa [sourcesOf, hsearch] using h.project start hsearch
    · simpa [sourcesOf] using h.user
  · rintro ⟨hexplicit, hproject, huser⟩
    refine ⟨fun hr => ?_, fun start hsearch => ?_, hexplicit⟩
    · simpa [sourcesOf, hr] using huser
    · simpa [sourcesOf, hsearch] using hproject

/-- The tests for files before a load agree with the files that it reads. -/
theorem loadOrFail_eq (r : Request) (t : FileTree) (env : Environment) :
    loadOrFail r t env =
      if (sourcesOf r t env).primary = none then .error .notFound else load r t env := by
  have hproject : (r.search.any fun start => !(projectFiles t r.marker start).isEmpty) =
      !(sourcesOf r t env).projectFiles.isEmpty := by
    cases hsearch : r.search <;> simp [sourcesOf, hsearch]
  have huser : (r.user && (userFile? t env).isSome) = (sourcesOf r t env).userFile.isSome := by
    cases hr : r.user <;> simp [sourcesOf, hr]
  simp only [loadOrFail, hproject, huser]
  refine if_congr ?_ rfl rfl
  rw [Sources.primary_eq_none_iff]
  change _ ↔ r.explicitFiles = [] ∧ _
  simp only [Option.not_isSome, Bool.not_not, Bool.and_eq_true, Option.isNone_iff_eq_none,
    List.isEmpty_iff]
  tauto

theorem load_ne_notFound (r : Request) (t : FileTree) (env : Environment) :
    load r t env ≠ .error .notFound := by
  intro h
  simp only [load, readAll] at h
  split at h
  · cases h
  next files _ =>
    cases hread : read (files.laidOver (environmentLayer env)) <;> rw [hread] at h <;> cases h

/-- `loadOrFail` fails with `notFound` exactly if there are `NoFiles`, whatever the variables set,
and is otherwise `load`. So there is a `primary` file where it succeeds, and it succeeds wherever
`load` does with such a file. -/
theorem loadOrFail_demands (r : Request) (t : FileTree) (env : Environment) :
    (loadOrFail r t env = .error .notFound ↔ NoFiles r t env) ∧
    (∀ env', userDir? env' = userDir? env →
      (loadOrFail r t env' = .error .notFound ↔ loadOrFail r t env = .error .notFound)) ∧
    (¬ NoFiles r t env → loadOrFail r t env = load r t env) ∧
    (∀ s src, loadOrFail r t env = .ok (s, src) → src.primary ≠ none) ∧
    (∀ s src, load r t env = .ok (s, src) → src.primary ≠ none →
      loadOrFail r t env = .ok (s, src)) := by
  have hfails : ∀ env, loadOrFail r t env = .error .notFound ↔ NoFiles r t env := by
    intro env
    rw [noFiles_iff, loadOrFail_eq]
    split
    next hnone => exact iff_of_true rfl hnone
    next hsome => exact iff_of_false (load_ne_notFound r t env) hsome
  have hloads : ¬ NoFiles r t env → loadOrFail r t env = load r t env := by
    intro hsome
    rw [loadOrFail_eq, if_neg (mt noFiles_iff.2 hsome)]
  refine ⟨hfails env, ?_, hloads, ?_, ?_⟩
  · intro env' hdir
    have hsources : sourcesOf r t env' = sourcesOf r t env := by
      simp only [sourcesOf, userFile?, hdir]
    rw [hfails, hfails, noFiles_iff, noFiles_iff, hsources]
  · intro s src hload
    have hsome : ¬ NoFiles r t env := by
      intro hnone
      rw [(hfails env).2 hnone] at hload
      cases hload
    rw [hloads hsome] at hload
    rw [(exists_of_load hload).1]
    exact mt noFiles_iff.2 hsome
  · intro s src hload hprimary
    rw [(exists_of_load hload).1] at hprimary
    rw [hloads (mt noFiles_iff.1 hprimary), hload]

end Settings

end BuildGate
