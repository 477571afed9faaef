import BuildGate.Proofs.BoundedWalk
import BuildGate.Proofs.ParentPaths
import BuildGate.Settings.Load

/-!
# The search for a project's files

The search looks in a directory, then in the one above it, and so on, until files are found. A
directory with the marker is the last one that is looked at, so nothing above it is ever found. The
directory where the search starts is the exception: its own marker does not count.

**Results.**
* `searchUp_found`, `searchUp_stop`, `searchUp_above`: what the search does in one directory.
* `searchUp_within`: no file is found above a directory with the marker.
* `searchUp_reaches`: the files of a directory are found if nothing nearer ends the search.
* `projectFiles_boundary`: both for a whole search, and where the root of the project comes to lie.
-/
namespace BuildGate.Settings

open BuildGate.FileTree BuildGate.Path

variable {t : FileTree} {marker : Option String} {start dir : String} {fuel : Nat}

/-- Whether a search that comes to `dir`, and finds no files there, ends there. -/
def endsAt (t : FileTree) (marker : Option String) (start dir : String) : Bool :=
  (marker.map fun m => t.exists (join dir m)).getD false && !same dir start

/-! ## One directory -/

theorem searchUp_found (h : filesIn t dir ≠ []) :
    searchUp t marker start (fuel + 1) dir = filesIn t dir := by
  have hne : (filesIn t dir).isEmpty = false := by simpa using h
  simp [searchUp, hne]

theorem searchUp_stop (h : filesIn t dir = []) (hend : endsAt t marker start dir = true) :
    searchUp t marker start (fuel + 1) dir = [] := by
  rw [endsAt] at hend
  simp [searchUp, h, hend]

theorem searchUp_above (h : filesIn t dir = []) (hend : endsAt t marker start dir = false) :
    searchUp t marker start (fuel + 1) dir =
      ((parent? dir).map (searchUp t marker start fuel)).getD [] := by
  rw [endsAt] at hend
  simp only [searchUp, h, hend]
  cases parent? dir <;> rfl

/-- A file of a project is a name in its directory. -/
theorem mem_filesIn {f : String} (h : f ∈ filesIn t dir) : ∃ n, IsPart n ∧ f = join dir n := by
  have hnames : ∀ name ∈ ["." ++ appName, appName], ∀ e ∈ extensions, IsName (name ++ "." ++ e) := by
    decide
  obtain ⟨name, hname, h⟩ := List.mem_flatMap.1 (List.mem_filter.1 h).1
  obtain ⟨e, he, rfl⟩ := List.mem_map.1 h
  exact ⟨_, (hnames name hname e he).toIsPart, rfl⟩

/-! ## A whole search -/

/-- What is found lies in a directory that the one with the marker is not below of. -/
theorem searchUp_within {k : Nat} {D f : String} (habs : isAbsolute dir = true)
    (hD : ancestor? k dir = some D) (hend : endsAt t marker start D = true)
    (hf : f ∈ searchUp t marker start fuel dir) :
    ∃ d, isAbsolute d = true ∧ startsWith d D = true ∧ f ∈ filesIn t d := by
  induction fuel generalizing k dir with
  | zero => cases hf
  | succ fuel ih =>
    by_cases hfound : filesIn t dir = []
    · cases k with
      | zero =>
        cases hD
        rw [searchUp_stop hfound hend] at hf
        cases hf
      | succ k =>
        cases hstop : endsAt t marker start dir with
        | true =>
          rw [searchUp_stop hfound hstop] at hf
          cases hf
        | false =>
          obtain ⟨above, habove, hD⟩ := Option.bind_eq_some_iff.1 hD
          rw [searchUp_above hfound hstop, habove] at hf
          have habs' : isAbsolute above = true :=
            (ancestor?_components (k := 1) habs (by simp [ancestor?, habove])).1
          exact ih habs' hD hf
    · rw [searchUp_found hfound] at hf
      exact ⟨dir, habs, startsWith_ancestor habs hD, hf⟩

theorem searchUp_reaches {k : Nat} {D : String} (hD : ancestor? k dir = some D) (hfuel : k < fuel)
    (hfree : ∀ i < k, ∀ d, ancestor? i dir = some d →
      filesIn t d = [] ∧ endsAt t marker start d = false)
    (hfound : filesIn t D ≠ []) : searchUp t marker start fuel dir = filesIn t D := by
  induction k generalizing dir fuel with
  | zero =>
    cases hD
    obtain ⟨fuel, rfl⟩ := Nat.exists_eq_add_of_lt hfuel
    exact searchUp_found hfound
  | succ k ih =>
    obtain ⟨fuel, rfl⟩ := Nat.exists_eq_add_of_lt hfuel
    obtain ⟨above, habove, hD⟩ := Option.bind_eq_some_iff.1 hD
    obtain ⟨hnone, hgoes⟩ := hfree 0 (Nat.succ_pos k) dir rfl
    rw [searchUp_above hnone hgoes, habove]
    refine ih hD (by omega) fun i hi d hd => hfree (i + 1) (by omega) d ?_
    rw [ancestor?, habove]
    exact hd

theorem endsAt_start (t : FileTree) (m start : String) : endsAt t (some m) start start = false := by
  simp [endsAt, same]

/-- Above the directory where the search starts the marker is all that counts. -/
theorem endsAt_ancestor {k : Nat} {D m : String} (habs : isAbsolute start = true)
    (hD : ancestor? k start = some D) (hk : k ≠ 0) :
    endsAt t (some m) start D = t.exists (join D m) := by
  simp [endsAt, not_same_ancestor habs hD hk]

theorem endsAt_eq_false {i : Nat} {m : String} (habs : isAbsolute start = true)
    (hd : ancestor? i start = some dir) (hfree : i ≠ 0 → t.exists (join dir m) = false) :
    endsAt t (some m) start dir = false := by
  by_cases hi : i = 0
  · subst hi
    cases hd
    exact endsAt_start t m start
  · rw [endsAt_ancestor habs hd hi, hfree hi]

theorem parent?_mem_projectFiles {k : Nat} {D m f : String} (habs : isAbsolute start = true)
    (hD : ancestor? k start = some D) (hk : k ≠ 0) (hm : t.exists (join D m) = true)
    (hf : f ∈ projectFiles t (some m) start) : ∃ d, parent? f = some d ∧ startsWith d D = true := by
  have hend : endsAt t (some m) start D = true := by rw [endsAt_ancestor habs hD hk, hm]
  obtain ⟨d, habsd, hbelow, hf⟩ := searchUp_within habs hD hend hf
  obtain ⟨n, hn, rfl⟩ := mem_filesIn hf
  obtain ⟨q, hq, hsame⟩ := parent?_join habsd hn
  exact ⟨q, hq, by rwa [startsWith, hsame]⟩

/-- With the marker `m` in a directory `D` above `start`, all that `projectFiles` finds lies in `D`
or below, and so does the `projectRoot`; and the files of `D` are found if they are the nearest ones
and no marker comes before them. -/
theorem projectFiles_boundary {k : Nat} {D m : String} (habs : isAbsolute start = true)
    (hD : ancestor? k start = some D) (hm : t.exists (join D m) = true) :
    (k ≠ 0 → ∀ f ∈ projectFiles t (some m) start,
      ∃ d, parent? f = some d ∧ startsWith d D = true) ∧
    (k ≠ 0 → ∀ (r : Request) (env : Environment), r.search = some start → r.marker = some m →
      startsWith ((sourcesOf r t env).projectRoot start) D = true) ∧
    (filesIn t D ≠ [] → (∀ i < k, ∀ d, ancestor? i start = some d →
        filesIn t d = [] ∧ (i ≠ 0 → t.exists (join d m) = false)) →
      projectFiles t (some m) start = filesIn t D) := by
  refine ⟨fun hk f hf => parent?_mem_projectFiles habs hD hk hm hf, ?_, ?_⟩
  · intro hk r env hsearch hmarker
    have hfiles : (sourcesOf r t env).projectFiles = projectFiles t (some m) start := by
      simp [sourcesOf, hsearch, hmarker]
    rw [Sources.projectRoot, hfiles]
    cases hlast : (projectFiles t (some m) start).getLast? with
    | none => exact startsWith_ancestor habs hD
    | some f =>
      obtain ⟨d, hd, hbelow⟩ :=
        parent?_mem_projectFiles habs hD hk hm (List.mem_of_getLast? hlast)
      simpa [hd] using hbelow
  · intro hfound hfree
    have hfuel : k < (components start).length + 2 := by
      have := ancestor?_lt habs hD
      omega
    refine searchUp_reaches hD hfuel (fun i hi d hd => ?_) hfound
    obtain ⟨hnone, hfree⟩ := hfree i hi d hd
    exact ⟨hnone, endsAt_eq_false habs hd hfree⟩

/-! ## Two repositories -/

/-- A file of settings above a repository, in which the marker is a directory or something else. -/
def belowSettings (marker : Entry) : FileTree where
  entries :=
    [(["proj"], .dir), (["proj", "stylegate.toml"], .file ⟨#[]⟩), (["proj", "repo"], .dir),
      (["proj", "repo", ".git"], marker), (["proj", "repo", "src"], .dir)]

theorem projectFiles_boundary_below :
    let t := belowSettings .dir
    t.isFile "/proj/stylegate.toml" = true ∧ ancestor? 1 "/proj/repo/src" = some "/proj/repo" ∧
      t.exists (join "/proj/repo" ".git") = true ∧
      "/proj/stylegate.toml" ∉ projectFiles t (some ".git") "/proj/repo/src" := by
  intro t
  have hfile : (belowSettings .dir).isFile "/proj/stylegate.toml" = true :=
    isFile_of_within 10 (by rfl)
  have hancestor : ancestor? 1 "/proj/repo/src" = some "/proj/repo" := by decide
  have hmarker : (belowSettings .dir).exists (join "/proj/repo" ".git") = true :=
    exists_of_within 10 (e := some .dir) (by decide)
  have hproj : parent? "/proj/stylegate.toml" = some "/proj" := by decide
  have hbelow : startsWith "/proj" "/proj/repo" = false := by decide
  refine ⟨hfile, hancestor, hmarker, fun hf => ?_⟩
  obtain ⟨d, hd, hstarts⟩ :=
    (projectFiles_boundary (by decide) hancestor hmarker).1 Nat.one_ne_zero _ hf
  rw [hproj, Option.some.injEq] at hd
  rw [← hd, hbelow] at hstarts
  cases hstarts

theorem filesIn_eq_nil (bound : Nat)
    (h : ∀ path ∈ ["." ++ appName, appName].flatMap fun name =>
      extensions.map fun e => join dir (name ++ "." ++ e), t.entryWithin bound path = some none) :
    filesIn t dir = [] :=
  List.filter_eq_nil_iff.2 fun path hp => by rw [not_isFile_of_within bound (h path hp)]; simp

theorem settings_mem_filesIn (e : Entry) :
    "/proj/stylegate.toml" ∈ filesIn (belowSettings e) "/proj" :=
  List.mem_filter.2 ⟨by decide, isFile_of_within 10 (by cases e <;> rfl)⟩

/-- The search beside the marker, or below a link to nothing, goes on to the settings above. -/
theorem settings_mem_projectFiles {e : Entry} {k : Nat} (hk : ancestor? k start = some "/proj")
    (habs : isAbsolute start = true)
    (hfree : ∀ i < k, ∀ d, ancestor? i start = some d → filesIn (belowSettings e) d = [] ∧
      (i ≠ 0 → (belowSettings e).exists (join d ".git") = false)) :
    "/proj/stylegate.toml" ∈ projectFiles (belowSettings e) (some ".git") start := by
  have hfuel : k < (components start).length + 2 := by
    have := ancestor?_lt habs hk
    omega
  have hfound := settings_mem_filesIn e
  rw [projectFiles, searchUp_reaches hk hfuel (fun i hi d hd => ?_) (List.ne_nil_of_mem hfound)]
  · exact hfound
  · obtain ⟨hnone, hfree⟩ := hfree i hi d hd
    exact ⟨hnone, endsAt_eq_false habs hd hfree⟩

/-- The same with settings beside the marker and in the directory below. -/
def nearerSettings : FileTree where
  entries := (belowSettings .dir).entries ++
    [(["proj", "repo", "stylegate.toml"], .file ⟨#[]⟩),
      (["proj", "repo", "src", "stylegate.toml"], .file ⟨#[]⟩)]

/-- Settings above a marker are found where the search starts beside it, and where it is a link to
nothing; and settings beside a marker are not found where there are nearer ones. -/
theorem projectFiles_crosses :
    parent? "/proj/stylegate.toml" = some "/proj" ∧ startsWith "/proj" "/proj/repo" = false ∧
      ((belowSettings .dir).hasEntry "/proj/repo/.git" = true ∧
        "/proj/stylegate.toml" ∈ projectFiles (belowSettings .dir) (some ".git") "/proj/repo") ∧
      ((belowSettings (.link "gone")).hasEntry "/proj/repo/.git" = true ∧
        ancestor? 1 "/proj/repo/src" = some "/proj/repo" ∧
        "/proj/stylegate.toml" ∈
          projectFiles (belowSettings (.link "gone")) (some ".git") "/proj/repo/src") ∧
      (nearerSettings.hasEntry "/proj/repo/.git" = true ∧
        nearerSettings.isFile "/proj/repo/stylegate.toml" = true ∧
        "/proj/repo/stylegate.toml" ∉
          projectFiles nearerSettings (some ".git") "/proj/repo/src") := by
  have hsrc : ancestor? 1 "/proj/repo/src" = some "/proj/repo" := by decide
  refine ⟨by decide, by decide, ⟨hasEntry_of_within 10 (by rfl), ?_⟩,
    ⟨hasEntry_of_within 10 (by rfl), hsrc, ?_⟩, hasEntry_of_within 10 (by rfl),
    isFile_of_within 10 (by rfl), fun hf => ?_⟩
  · refine settings_mem_projectFiles (k := 1) (by decide) (by decide) fun i hi d hd => ?_
    obtain rfl : i = 0 := by omega
    cases hd
    exact ⟨filesIn_eq_nil 10 (by decide +kernel), fun h => absurd rfl h⟩
  · refine settings_mem_projectFiles (k := 2) (by decide) (by decide) fun i hi d hd => ?_
    match i, hi with
    | 0, _ =>
      cases hd
      exact ⟨filesIn_eq_nil 10 (by decide +kernel), fun h => absurd rfl h⟩
    | 1, _ =>
      rw [hsrc] at hd
      cases hd
      exact ⟨filesIn_eq_nil 10 (by decide +kernel),
        fun _ => exists_of_within 10 (e := none) (by decide)⟩
  · have hnear : "/proj/repo/src/stylegate.toml" ∈ filesIn nearerSettings "/proj/repo/src" :=
      List.mem_filter.2 ⟨by decide, isFile_of_within 10 (by rfl)⟩
    rw [projectFiles, searchUp_found (List.ne_nil_of_mem hnear)] at hf
    exact absurd (List.mem_filter.1 hf).1 (by decide)

end BuildGate.Settings
