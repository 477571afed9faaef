import BuildGate.Proofs.LongEntries
import BuildGate.Proofs.ReadFaults

/-!
# Projects that are moved

A root is taken literally, so what patterns list below it does not depend on its name: a directory with
the same content lists the same files under any other root, or has the same fault in the same entry.

Two things are asked of the entries. None may lead above the root, where the content of the two roots
may differ, and operators do so as well as `..`: `.*` matches it. And no path may become longer than a
path may be, since a file that can be reached below a short name cannot below a long one.

**Results.**
* `samePlace_leadsTo`: the paths that an entry leads to behind two roots.
* `listedOf_moved`: the files that it lists there.
* `scriptAt`: a directory with one script, under any name.
* `FileSet.filesOf_moved`: the files that patterns list, or what is wrong with them.
* `FileSet.filesOf_movedAbove`: an entry that leads above the root, and a path that becomes too long.
-/
namespace BuildGate

open FileTree Glob.Include

/-! ## What an entry leads to -/

/-- The files that `entry` lists in the directory of `p`. -/
def listedOf (p : Placed) (entry : String) : List String :=
  ((FileSet.leadsTo p.tree p.root entry).filter p.tree.isFile).map (FileSet.relativeTo p.root)

/-- An entry for directories lists no files. -/
theorem listedOf_dirs (p : Placed) {entry : String} (hrel : Path.isAbsolute entry = false)
    (h : entry = "" ∨ entry.toList.getLast? = some '/') : listedOf p entry = [] := by
  have hnone : (FileSet.leadsTo p.tree p.root entry).filter p.tree.isFile = [] := by
    rw [List.filter_eq_nil_iff]
    intro x hx
    unfold FileSet.leadsTo at hx
    split at hx
    next s hread =>
      obtain ⟨hslash, hdirs⟩ := Selector.of_read hread
      have hlast := (getLast?_rootedPattern p.absolute hrel).2 h
      rw [not_isFile_of_isDir (Selector.isDir_of_mem_expand p.wf hslash (.inl (hdirs hlast)) hx)]
      exact Bool.false_ne_true
    next => cases hx
  rw [listedOf, hnone, List.map_nil]

/-- Files at one place of the content are listed alike. -/
theorem SamePlace.relativeTo_eq {p q : Placed} {limit : Nat} {x y : String} (h : SamePlace p q limit x y)
    (hx : p.tree.isFile x = true) (hy : q.tree.isFile y = true) :
    FileSet.relativeTo p.root x = FileSet.relativeTo q.root y := by
  obtain ⟨segs, rel, hne, rfl, rfl, hplace⟩ := h.resolve_right fun hno => by simp [hx] at hno
  obtain ⟨seg, segs, rfl⟩ := List.exists_cons_of_ne_nil hne
  have hslash := List.forall_mem_cons.1 hplace.no_slash
  have hrest := fun base =>
    Path.joinAll_join_relative hslash.2 (Path.isAbsolute_of_no_slash hslash.1) base
  rw [Placed.path, Path.joinAll_cons, (hrest _).2] at hx hy ⊢
  rw [Placed.path, Path.joinAll_cons, (hrest _).2]
  rw [p.relativeTo_join (hrest (rootPath p.root)).1 hx, q.relativeTo_join (hrest (rootPath q.root)).1 hy]

section
variable {p q : Placed} (hsame : p.content = q.content) {entry : String}
  (hrel : Path.isAbsolute entry = false) (hstays : StaysBelow entry) (hp : p.Fits entry)
  (hq : q.Fits entry)
include hsame hrel hstays hp hq

theorem samePlace_leadsTo (hne : entry ≠ "") (hlast : entry.toList.getLast? ≠ some '/')
    {s s' : Selector} (hs : Selector.read (FileSet.rootedPattern p.root entry) = .ok s)
    (hs' : Selector.read (FileSet.rootedPattern q.root entry) = .ok s') :
    List.Forall₂ (SamePlace p q (entry.utf8ByteSize + 1)) (FileSet.leadsTo p.tree p.root entry)
      (FileSet.leadsTo q.tree q.root entry) := by
  rw [FileSet.leadsTo_eq hs, FileSet.leadsTo_eq hs']
  obtain ⟨comps, hcomps, hstaying, hlooked, hread, rfl⟩ :=
    exists_staying p.absolute hrel hstays hne hlast hs
  obtain ⟨comps', -, -, -, hread', rfl⟩ := exists_staying q.absolute hrel hstays hne hlast hs'
  obtain rfl := Except.ok.inj (hread.symm.trans hread')
  obtain ⟨fuel, hfuel, hexpand⟩ := expand_rooted p.wf hcomps p.resolve_rootPath
  obtain ⟨fuel', hfuel', hexpand'⟩ := expand_rooted q.wf hcomps q.resolve_rootPath
  rw [hexpand, hexpand']
  exact samePlace_pathsFrom hsame (hp.hasRoom hrel hne hlast) (hq.hasRoom hrel hne hlast) hstaying
    hlooked hfuel hfuel'

/-- An entry that can be read below two roots lists the same files there. -/
theorem listedOf_moved {s s' : Selector} (hs : Selector.read (FileSet.rootedPattern p.root entry) = .ok s)
    (hs' : Selector.read (FileSet.rootedPattern q.root entry) = .ok s') :
    listedOf p entry = listedOf q entry := by
  by_cases hdirs : entry = "" ∨ entry.toList.getLast? = some '/'
  · rw [listedOf_dirs p hrel hdirs, listedOf_dirs q hrel hdirs]
  · obtain ⟨hne, hlast⟩ := not_or.1 hdirs
    have hplaces := samePlace_leadsTo hsame hrel hstays hp hq hne hlast hs hs'
    rw [listedOf, listedOf]
    generalize FileSet.leadsTo p.tree p.root entry = paths at hplaces ⊢
    generalize FileSet.leadsTo q.tree q.root entry = others at hplaces ⊢
    induction hplaces with
    | nil => rfl
    | @cons x y xs ys hxy _ ih =>
      have hfile : p.tree.isFile x = q.tree.isFile y := by
        rcases hxy with ⟨segs, rel, -, rfl, rfl, hplace⟩ | ⟨hx, hy⟩
        · exact hplace.isFile_eq hsame
        · rw [hx, hy]
      cases hx : p.tree.isFile x with
      | true =>
        rw [List.filter_cons_of_pos hx, List.filter_cons_of_pos (hfile ▸ hx), List.map_cons, List.map_cons,
          hxy.relativeTo_eq hx (hfile ▸ hx), ih]
      | false =>
        rw [List.filter_cons_of_neg (by simp [hx]), List.filter_cons_of_neg (by simp [← hfile, hx]), ih]

end

/-! ## A script in a directory of any name -/

/-- A directory with one script. -/
def scriptIn (name : String) : FileTree where
  entries := [([name], .dir), ([name, "a.js"], .file ⟨#[]⟩)]

theorem get?_scriptIn (name : String) (rel : Location) : (scriptIn name).get? ([name] ++ rel) =
    if rel = [] then some .dir else if rel = ["a.js"] then some (.file ⟨#[]⟩) else none := by
  have hfirst : ([name] ++ rel == [name]) = decide (rel = []) := by
    rw [Bool.eq_iff_iff, beq_iff_eq, decide_eq_true_iff]
    exact List.append_right_eq_self
  have hsecond : ([name] ++ rel == [name, "a.js"]) = decide (rel = ["a.js"]) := by
    rw [Bool.eq_iff_iff, beq_iff_eq, decide_eq_true_iff]
    exact List.append_right_inj [name]
  have hne : ([name] ++ rel).isEmpty = false := by simp
  rw [FileTree.get?, hne, if_neg Bool.false_ne_true, scriptIn, List.lookup_cons, List.lookup_cons, hfirst,
    hsecond]
  by_cases hnil : rel = []
  · simp [hnil]
  · by_cases hscript : rel = ["a.js"]
    · simp [hscript]
    · simp [hnil, hscript]

/-- The directory by the path to it. -/
def scriptAt (name root : String) (wf : (scriptIn name).WellFormed) (absolute : Path.isAbsolute root = true)
    (resolve : (scriptIn name).resolve root = .ok [name]) : Placed where
  tree := scriptIn name
  root := root
  dir := [name]
  wf := wf
  absolute := absolute
  resolve := resolve
  isDir := by simpa using get?_scriptIn name []
  plain := by
    intro rel e h
    rw [get?_scriptIn] at h
    split at h
    · cases h
      trivial
    · split at h
      · cases h
        trivial
      · cases h

def inProj : Placed := scriptAt "proj" "/proj" (by decide) (by decide) (resolve_of_within 10 (by rfl))
def inOther : Placed := scriptAt "other" "/other" (by decide) (by decide) (resolve_of_within 10 (by rfl))
def inOperators : Placed :=
  scriptAt "[**" "/[**" (by decide) (by decide) (resolve_of_within 10 (by rfl))
def inP : Placed := scriptAt "p" "/p" (by decide) (by decide) (resolve_of_within 10 (by rfl))
def inProjects : Placed :=
  scriptAt "projects" "/projects" (by decide) (by decide) (resolve_of_within 10 (by rfl))

theorem content_scriptAt {name root : String} (wf : (scriptIn name).WellFormed)
    (absolute : Path.isAbsolute root = true) (resolve : (scriptIn name).resolve root = .ok [name]) :
    (scriptAt name root wf absolute resolve).content =
      fun rel => if rel = [] then some .dir else if rel = ["a.js"] then some (.file ⟨#[]⟩) else none :=
  funext (get?_scriptIn name)

/-- The longest paths into it are the one to the directory and the one to the script. -/
theorem fits_scriptAt {name root : String} (wf : (scriptIn name).WellFormed)
    (absolute : Path.isAbsolute root = true) (resolve : (scriptIn name).resolve root = .ok [name])
    {entry : String}
    (h : (Path.join (Path.join root entry) "").utf8ByteSize ≤ maxPath ∧
      (Path.join (Path.join root entry) "a.js").utf8ByteSize ≤ maxPath) :
    (scriptAt name root wf absolute resolve).Fits entry := by
  intro rel hsome
  rw [content_scriptAt] at hsome
  by_cases hnil : rel = []
  · rw [hnil]
    exact h.1
  · by_cases hscript : rel = ["a.js"]
    · rw [hscript, String.intercalate_singleton]
      exact h.2
    · simp [hnil, hscript] at hsome

/-! ## What patterns list -/

/-- A failure without the position of the fault in a pattern, which counts the root as well. -/
def Failure.unplaced : Failure → Failure
  | .pattern entry (.include _ fault) => .pattern entry (.include 0 fault)
  | failure => failure

/-- Steps that come to the same, or fail alike but for the place of a pattern, one after the other. -/
theorem mapError_bind {α β : Type} {x y : Except Failure α} {f g : α → Except Failure β}
    (hx : x.mapError Failure.unplaced = y.mapError Failure.unplaced)
    (hf : ∀ a, (f a).mapError Failure.unplaced = (g a).mapError Failure.unplaced) :
    (x >>= f).mapError Failure.unplaced = (y >>= g).mapError Failure.unplaced := by
  cases x with
  | error e => cases y with
    | error e' => exact congrArg Except.error (Except.error.inj hx)
    | ok b => cases hx
  | ok a => cases y with
    | error e' => cases hx
    | ok b =>
      obtain rfl := Except.ok.inj hx
      exact hf a

namespace FileSet

section
variable {p q : Placed} (hsame : p.content = q.content)
include hsame

/-- An entry lists the same files below two roots, or has the same fault. -/
theorem selected_moved {entry : String} (hrel : Path.isAbsolute entry = false)
    (hstays : StaysBelow entry) (hp : p.Fits entry) (hq : q.Fits entry) :
    (selected p.tree p.root entry).mapError Failure.unplaced =
      (selected q.tree q.root entry).mapError Failure.unplaced := by
  have halike : Alike ((Selector.read (rootedPattern p.root entry)).map fun _ => ())
      ((Selector.read (rootedPattern q.root entry)).map fun _ => ()) :=
    (alike_read_rooted p.absolute hrel).trans (alike_read_rooted q.absolute hrel).symm
  cases hs : Selector.read (rootedPattern p.root entry) with
  | error fault => cases hs' : Selector.read (rootedPattern q.root entry) with
    | error fault' =>
      rw [hs, hs'] at halike
      have hfault : fault.2 = fault'.2 := Except.error.inj halike
      rw [selected_eq_error hs, selected_eq_error hs']
      simp only [Except.mapError, Failure.unplaced, hfault]
    | ok s' =>
      rw [hs, hs'] at halike
      cases halike
  | ok s => cases hs' : Selector.read (rootedPattern q.root entry) with
    | error fault' =>
      rw [hs, hs'] at halike
      cases halike
    | ok s' =>
      rw [selected_eq_ok ⟨s, hs⟩, selected_eq_ok ⟨s', hs'⟩]
      exact congrArg Except.ok (listedOf_moved hsame hrel hstays hp hq hs hs')

theorem selectedAll_moved {entries : List String}
    (h : ∀ e ∈ entries, Path.isAbsolute e = false ∧ StaysBelow e ∧ p.Fits e ∧ q.Fits e) :
    (selectedAll p.tree p.root entries).mapError Failure.unplaced =
      (selectedAll q.tree q.root entries).mapError Failure.unplaced := by
  induction entries with
  | nil => rfl
  | cons e entries ih =>
    obtain ⟨⟨hrel, hstays, hp, hq⟩, hrest⟩ := List.forall_mem_cons.1 h
    rw [selectedAll, selectedAll]
    exact mapError_bind (selected_moved hsame hrel hstays hp hq) fun files =>
      mapError_bind (ih hrest) fun _ => rfl

/-- What `entries` list in a directory, or what is wrong with them, does not depend on its root. -/
theorem filesOf_moved {entries : List String} (h : ∀ e ∈ selecting entries,
      Path.isAbsolute e = false ∧ StaysBelow e ∧ p.Fits e ∧ q.Fits e) :
    (filesOf p.tree p.root entries).mapError Failure.unplaced =
      (filesOf q.tree q.root entries).mapError Failure.unplaced := by
  rw [filesOf, filesOf]
  cases hread : FileSet.read entries with
  | error e => rfl
  | ok s =>
    obtain ⟨-, -, hincludes⟩ := compile_of_read hread
    change (s.expand p.tree p.root).mapError _ = (s.expand q.tree q.root).mapError _
    rw [expand, expand, hincludes]
    exact mapError_bind (selectedAll_moved hsame h) fun _ => rfl

end

/-- Operators in the name of a root change nothing. -/
theorem filesOf_moved_operators :
    (∀ e ∈ selecting ["**/*.js", "!b.js"], Path.isAbsolute e = false ∧ StaysBelow e ∧ inProj.Fits e ∧
      inOperators.Fits e) ∧ inProj.content = inOperators.content ∧
    (filesOf (scriptIn "proj") "/proj" ["**/*.js", "!b.js"]).mapError Failure.unplaced =
      (filesOf (scriptIn "[**") "/[**" ["**/*.js", "!b.js"]).mapError Failure.unplaced := by
  have hsame : inProj.content = inOperators.content :=
    (content_scriptAt ..).trans (content_scriptAt ..).symm
  have hentries : ∀ e ∈ selecting ["**/*.js", "!b.js"],
      Path.isAbsolute e = false ∧ StaysBelow e ∧ inProj.Fits e ∧ inOperators.Fits e := by
    have hselecting : selecting ["**/*.js", "!b.js"] = ["**/*.js"] := by decide
    have hparts : Path.segments "**/*.js" = ["**", "*.js"] := by decide
    have hstays : StaysBelow "**/*.js" := by
      rw [StaysBelow, hparts]
      exact ⟨by decide, .inr (.inr fun h => absurd h.1 (by decide)), by decide, .inl rfl, trivial⟩
    rw [hselecting, List.forall_mem_singleton]
    exact ⟨by decide, hstays, fits_scriptAt _ _ _ (by decide), fits_scriptAt _ _ _ (by decide)⟩
  exact ⟨hentries, hsame, filesOf_moved hsame hentries⟩

end FileSet

/-! ## An entry that leads above the root -/

/-- `.*` leads on from the directory above and from the directory itself, if no name begins with a dot. -/
theorem pathsFrom_dots {t : FileTree} (wf : t.WellFormed) {fuel : Nat}
    {more : List (List Glob.Include)} (hmore : more ≠ []) {path : String}
    (habs : Path.isAbsolute path = true) (hdir : t.isDir path = true)
    (hnames : ∀ n ∈ namesIn t path, accepts [.char '.', .many] n.toList = false) :
    pathsFrom t (fuel + 1) ([.char '.', .many] :: more) path =
      pathsFrom t (fuel + 1) more (Path.join path "..") ++
        pathsFrom t (fuel + 1) more (Path.join path ".") := by
  have hspecials : specialsOf [.char '.', .many] = ["..", "."] := by simp [specialsOf, accepts]
  have hlead : ∀ path', leadOn t more path' = below t more (Place.at t path') := fun path' => by
    rw [leadOn, if_neg (by simpa using hmore)]
  have hnone : ((namesIn t path).map fun name => (Place.at t (inDir path name),
      some ([.char '.', .many] :: more))).flatMap (visit t false (fuel + 1)) = [] := by
    rw [List.flatMap_map, List.flatMap_eq_nil_iff]
    intro name hname
    rw [inDir_absolute habs, visit_name (by rfl) habs (isName_of_mem_namesIn wf hname),
      if_neg (by simp [hnames name hname])]
  rw [pathsFrom, below_wild (by rfl), Place.isDir_at, if_pos hdir, hspecials, Place.path_at,
    List.flatMap_append, hnone, List.append_nil, List.flatMap_cons, List.flatMap_singleton,
    List.flatMap_append, hlead, hlead]
  rfl

namespace FileSet

/-- The script of a directory called `proj` by its path. -/
def projScript : List (List Glob.Include) := ["proj", "a.js"].map fun s => s.toList.map .char

theorem leadsTo_above {name root : String} (wf : (scriptIn name).WellFormed)
    (absolute : Path.isAbsolute root = true) (resolve : (scriptIn name).resolve root = .ok [name])
    (hroot : rootPath root = root)
    (hread : Selector.read (rootedPattern root ".*/proj/a.js") =
      .ok ⟨"/", (rootPieces root).map (·.map literalToken) ++ [.char '.', .many] :: projScript, false⟩) :
    ∃ fuel, leadsTo (scriptIn name) root ".*/proj/a.js" =
      pathsFrom (scriptIn name) (fuel + 1) projScript (Path.join root "..") ++
        pathsFrom (scriptIn name) (fuel + 1) projScript (Path.join root ".") := by
  have hdir : (scriptIn name).get? [name] = some .dir := get?_scriptIn name []
  obtain ⟨fuel, hfuel, hexpand⟩ := expand_rooted wf (List.cons_ne_nil _ projScript)
    (show (scriptIn name).resolve (rootPath root) = .ok [name] by rw [hroot, resolve])
  obtain ⟨fuel, rfl⟩ := Nat.exists_eq_add_of_lt (Nat.zero_lt_of_lt hfuel)
  refine ⟨0 + fuel, ?_⟩
  have hmore : projScript ≠ [] := List.cons_ne_nil _ _
  rw [leadsTo_eq hread, hexpand, hroot, pathsFrom_dots wf hmore absolute
    (isDir_iff.2 ⟨_, resolve, hdir⟩)]
  -- The only name in the directory does not begin with a dot.
  intro n hn
  rw [namesIn, resolve] at hn
  have hsome := mem_children.1 hn
  rw [get?_scriptIn, if_neg (List.cons_ne_nil _ _)] at hsome
  split at hsome
  next heq =>
    obtain rfl := (List.cons.inj heq).1
    simp [accepts]
  next => cases hsome

theorem pathsFrom_projScript {t : FileTree} {fuel : Nat} {path : String}
    (habs : Path.isAbsolute path = true) (h : t.hasEntry (Path.join path "proj") = false) :
    pathsFrom t fuel projScript path = [] := by
  rw [projScript, List.map_cons, pathsFrom_literal (literal?_chars _) (by simp) habs,
    String.ofList_toList, if_neg (by simp [h])]

theorem hasEntry_of_notFound {t : FileTree} {path : String}
    (h : t.resolveWithin false 10 path = some (.error .notFound)) : t.hasEntry path = false := by
  rw [hasEntry, resolveWith_of_within 10 h]
  rfl

/-- Below `/proj` the entry comes back to the root from above, -/
theorem filesOf_above_inProj :
    filesOf (scriptIn "proj") "/proj" [".*/proj/a.js"] = .ok ["../proj/a.js"] := by
  have hread : Selector.read (rootedPattern "/proj" ".*/proj/a.js") = .ok ⟨"/",
      (rootPieces "/proj").map (·.map literalToken) ++ [.char '.', .many] :: projScript, false⟩ := by rfl
  have hroot : (scriptIn "proj").resolve "/proj" = .ok ["proj"] := resolve_of_within 10 (by rfl)
  have hup : (scriptIn "proj").resolve "/proj/../proj/a.js" = .ok ["proj", "a.js"] :=
    resolve_of_within 10 (by rfl)
  obtain ⟨fuel, hlead⟩ := leadsTo_above (by decide) (by decide) hroot (by decide) hread
  have habove : pathsFrom (scriptIn "proj") (fuel + 1) projScript (Path.join "/proj" "..") =
      ["/proj/../proj/a.js"] :=
    pathsFrom_spelled (by decide) (List.cons_ne_nil _ _) (by decide) (by decide) hup
  have hhere : pathsFrom (scriptIn "proj") (fuel + 1) projScript (Path.join "/proj" ".") = [] :=
    pathsFrom_projScript (by decide) (hasEntry_of_notFound (by rfl))
  have hfile : (scriptIn "proj").isFile "/proj/../proj/a.js" = true :=
    isFile_iff.2 ⟨["proj", "a.js"], _, hup, by rfl⟩
  have hrelative : relativeTo "/proj" "/proj/../proj/a.js" = "../proj/a.js" := by decide
  rw [filesOf_single (by decide) ⟨_, hread⟩, hlead, habove, hhere, List.append_nil,
    List.filter_cons_of_pos hfile, List.filter_nil, List.map_singleton, hrelative]
  rfl

/-- and below `/other` it comes to nothing. -/
theorem filesOf_above_inOther : filesOf (scriptIn "other") "/other" [".*/proj/a.js"] = .ok [] := by
  have hread : Selector.read (rootedPattern "/other" ".*/proj/a.js") = .ok ⟨"/",
      (rootPieces "/other").map (·.map literalToken) ++ [.char '.', .many] :: projScript, false⟩ := by rfl
  have hroot : (scriptIn "other").resolve "/other" = .ok ["other"] := resolve_of_within 10 (by rfl)
  obtain ⟨fuel, hlead⟩ := leadsTo_above (by decide) (by decide) hroot (by decide) hread
  rw [filesOf_single (by decide) ⟨_, hread⟩, hlead,
    pathsFrom_projScript (by decide) (hasEntry_of_notFound (by rfl)),
    pathsFrom_projScript (by decide) (hasEntry_of_notFound (by rfl))]
  rfl

/-- `.*` is no `..`, but it leads above the root as well, where the name of the root counts. And an entry
that stays in the directory long enough lists a script below a short root only. -/
theorem filesOf_movedAbove :
    (inProj.content = inOther.content ∧
      (∀ e ∈ selecting [".*/proj/a.js"], Path.isAbsolute e = false ∧ ".." ∉ Path.segments e) ∧
      filesOf inProj.tree inProj.root [".*/proj/a.js"] = .ok ["../proj/a.js"] ∧
      filesOf inOther.tree inOther.root [".*/proj/a.js"] = .ok []) ∧
    inP.content = inProjects.content ∧
      (∀ e ∈ selecting [dotted 2041], Path.isAbsolute e = false ∧ ".." ∉ Path.segments e) ∧
      filesOf inP.tree inP.root [dotted 2041] = .ok ["a.js"] ∧
      filesOf inProjects.tree inProjects.root [dotted 2041] = .ok [] := by
  have hsame : inProj.content = inOther.content :=
    (content_scriptAt ..).trans (content_scriptAt ..).symm
  have hsame' : inP.content = inProjects.content :=
    (content_scriptAt ..).trans (content_scriptAt ..).symm
  have hentries : ∀ n, ∀ e ∈ selecting [dotted n],
      Path.isAbsolute e = false ∧ ".." ∉ Path.segments e := by
    intro n e he
    rw [List.mem_singleton.1 (List.mem_filter.1 he).1]
    exact ⟨isAbsolute_dotted n, up_not_mem_dotted n⟩
  have hfits : inP.Fits (dotted 2041) := by
    have hroot : "/p".utf8ByteSize + (Path.separator "/p").utf8ByteSize = 3 := by decide
    have hempty : "".utf8ByteSize = 0 := by decide
    have hscript : "a.js".utf8ByteSize = 4 := by decide
    have hsize := size_join_dotted "/p" 2041
    have hsep := Path.size_separator (Path.join "/p" (dotted 2041))
    refine fits_scriptAt _ _ _ ⟨?_, ?_⟩
    · rw [Path.join_relative (by decide), String.utf8ByteSize_append, String.utf8ByteSize_append, hempty,
        maxPath]
      omega
    · rw [Path.join_relative (by decide), String.utf8ByteSize_append, String.utf8ByteSize_append, hscript,
        maxPath]
      omega
  have hlong : maxPath < (Path.join (rootPath inProjects.root) (dotted 2041)).utf8ByteSize := by
    have hpath : rootPath inProjects.root = "/projects" := by decide
    have hroot : "/projects".utf8ByteSize + (Path.separator "/projects").utf8ByteSize = 10 := by decide
    rw [hpath, size_join_dotted, maxPath]
    omega
  refine ⟨⟨hsame, by decide, filesOf_above_inProj, filesOf_above_inOther⟩, hsame', hentries 2041, ?_, ?_⟩
  · exact filesOf_dotted_fits (by decide) (get?_scriptIn "p" ["a.js"]) hfits
  · exact filesOf_dotted_long hlong

end FileSet

end BuildGate
