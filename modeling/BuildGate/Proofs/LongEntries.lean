import BuildGate.Proofs.SameExpansion
import BuildGate.Proofs.SamePattern

/-!
# Entries with long paths

An entry may stay in a directory as often as it likes before it names a file there, as `././a.js` does.
What it lists is the file without these steps, as long as its path with them is no longer than a path
may be, and nothing at all when it is. So an entry that lists a file below a short root may list nothing
below a long one.

**Results.**
* `read_dotted`: what is read of such an entry.
* `filesOf_dotted_fits`, `filesOf_dotted_long`: what it lists.
-/
namespace BuildGate

open FileTree Glob.Include

namespace FileSet

/-- What the files of one entry are. -/
theorem filesOf_single {t : FileTree} {root entry : String} (hmark : negated? entry = none)
    (hselects : Selects root entry) : filesOf t root [entry] =
      .ok (firsts (((leadsTo t root entry).filter t.isFile).map (relativeTo root))) := by
  rw [filesOf_alone hmark hselects, chosen, remaining_alone hmark]

end FileSet

/-- An entry that stays in the directory a number of times before it names the script. -/
def dotted : Nat → String
  | 0 => "a.js"
  | n + 1 => "./" ++ dotted n

/-- Its parts. -/
def dottedParts (n : Nat) : List String := List.replicate n "." ++ ["a.js"]

theorem segments_dotted (n : Nat) : Path.segments (dotted n) = dottedParts n := by
  induction n with
  | zero => decide
  | succ n ih =>
    have hslash : "./" = "." ++ "/" := by decide
    have hdot : Path.segments "." = ["."] := by decide
    rw [dotted, hslash, Path.segments_append, ih, hdot]
    rfl

theorem mem_dottedParts {n : Nat} {s : String} (h : s ∈ dottedParts n) : s = "." ∨ s = "a.js" := by
  rcases List.mem_append.1 h with h | h
  · exact .inl (List.eq_of_mem_replicate h)
  · exact .inr (List.mem_singleton.1 h)

theorem no_slash_dottedParts (n : Nat) : ∀ s ∈ dottedParts n, '/' ∉ s.toList := by
  intro s hs
  rcases mem_dottedParts hs with rfl | rfl <;> decide

theorem size_dotted (n : Nat) : (dotted n).utf8ByteSize = 2 * n + 4 := by
  induction n with
  | zero => decide
  | succ n ih =>
    have hslash : "./".utf8ByteSize = 2 := by decide
    rw [dotted, String.utf8ByteSize_append, ih, hslash]
    omega

theorem isAbsolute_dotted (n : Nat) : Path.isAbsolute (dotted n) = false := by
  cases n with
  | zero => decide
  | succ n => simp [dotted, Path.isAbsolute]

theorem size_join_dotted (base : String) (n : Nat) : (Path.join base (dotted n)).utf8ByteSize =
    base.utf8ByteSize + (Path.separator base).utf8ByteSize + (2 * n + 4) := by
  rw [Path.join_relative (isAbsolute_dotted n), String.utf8ByteSize_append, String.utf8ByteSize_append,
    size_dotted]

/-- Nothing in such an entry goes up. -/
theorem up_not_mem_dotted (n : Nat) : ".." ∉ Path.segments (dotted n) := by
  rw [segments_dotted]
  intro hmem
  rcases mem_dottedParts hmem with h | h <;> exact absurd h (by decide)

theorem toList_dotted (n : Nat) : (∀ c ∈ (dotted n).toList, Plain c) ∧ dotted n ≠ "" ∧
    (dotted n).toList.getLast? ≠ some '/' := by
  induction n with
  | zero => exact ⟨plain_of_all (by decide), by decide, by decide⟩
  | succ n ih =>
    obtain ⟨hplain, hne, hlast⟩ := ih
    have hchars : (dotted n).toList ≠ [] := mt String.toList_eq_nil_iff.1 hne
    rw [dotted, String.toList_append]
    refine ⟨List.forall_mem_append.2 ⟨plain_of_all (by decide), hplain⟩, by simp, ?_⟩
    rwa [List.getLast?_append, List.getLast?_eq_some_getLast hchars, Option.some_or,
      ← List.getLast?_eq_some_getLast hchars]

theorem joinAll_dottedParts (n : Nat) (base : String) :
    Path.joinAll base (dottedParts n) = Path.join base (dotted n) := by
  induction n generalizing base with
  | zero => rfl
  | succ n ih =>
    have hdot : Path.join "." (dotted n) = dotted (n + 1) := by
      rw [Path.join_relative (isAbsolute_dotted n)]
      rfl
    rw [dottedParts, List.replicate_succ, List.cons_append, Path.joinAll_cons, ← dottedParts, ih,
      Path.join_join_relative (by decide) (isAbsolute_dotted n), hdot]

theorem read_dotted {root : String} (habs : Path.isAbsolute root = true) (n : Nat) :
    Selector.read (FileSet.rootedPattern root (dotted n)) = .ok ⟨"/",
      (rootPieces root).map (·.map literalToken) ++ (dottedParts n).map (fun s => s.toList.map .char),
      false⟩ := by
  obtain ⟨hplain, hne, hlast⟩ := toList_dotted n
  have hparts : Path.splitSlash (dotted n).toList = (dottedParts n).map String.toList := by
    have h := congrArg (List.map String.toList) (segments_dotted n)
    rwa [Path.segments, List.map_map, show String.toList ∘ String.ofList = id from
      funext fun cs => String.toList_ofList, List.map_id] at h
  have hcomps : ∀ segs : List String, (∀ s ∈ segs, s = "." ∨ s = "a.js") →
      readComponents (segs.map String.toList) = .ok (segs.map fun s => s.toList.map .char) := by
    intro segs
    induction segs with
    | nil => exact fun _ => rfl
    | cons s segs ih =>
      intro h
      rw [List.forall_mem_cons] at h
      have hs : ∀ c ∈ s.toList, Plain c := by
        rcases h.1 with rfl | rfl <;> exact plain_of_all (by decide)
      rw [List.map_cons, readComponents, read_plain hs, ih h.2]
      rfl
  obtain ⟨us, hus⟩ := read_rootedPattern habs (isAbsolute_dotted n) fun fuel pos => by
    have h := readTokens_plain hplain (fuel + 1) pos (some '/') []
    rw [readTokens_nil, List.append_nil] at h
    exact ⟨_, h⟩
  rw [Selector.read_rooted habs (isAbsolute_dotted n) hne hlast, hus, hparts,
    hcomps _ fun s hs => mem_dottedParts hs]
  rfl

/-! ## What it lists -/

/-- Steps that stay, behind both roots. -/
theorem Abreast.stays {p q : Placed} (hsame : p.content = q.content) {limit left : Nat}
    (hp : p.HasRoom limit) (hq : q.HasRoom limit) {rel : Location} (hdir : p.content rel = some .dir)
    (n : Nat) {segs : List String} (h : Abreast p q limit segs rel (2 * n + left)) :
    Abreast p q limit (segs ++ List.replicate n ".") rel left := by
  induction n generalizing segs with
  | zero => simpa using h
  | succ n ih =>
    have hroom : 2 * (n + 1) + left = ".".utf8ByteSize + 1 + (2 * n + left) := by
      have : ".".utf8ByteSize = 1 := by decide
      omega
    have hisDir : p.tree.isDir (p.path segs) = true := by
      rw [Placed.isDir_path h.first, hdir]
      rfl
    rw [hroom] at h
    have hmore := ih (h.here hsame hp hq hisDir)
    rwa [List.append_assoc] at hmore

theorem counted_dottedParts (n : Nat) : Path.counted (dottedParts n) = ["a.js"] := by
  have hstay : ∀ s ∈ List.replicate n ".", (Path.componentOf s).isNone = true := by
    intro s hs
    rw [List.eq_of_mem_replicate hs]
    decide
  rw [dottedParts, Path.counted, List.dropWhile_append_of_pos hstay]
  decide

section
variable {p : Placed} {n : Nat}

/-- Whatever such an entry leads to is the path that it spells. -/
theorem eq_of_mem_dotted {x : String} (hx : x ∈ FileSet.leadsTo p.tree p.root (dotted n)) :
    x = Path.join (rootPath p.root) (dotted n) := by
  have hstands : List.Forall₂ StandsFor ((List.replicate n ".").map fun s => s.toList.map .char)
      (List.replicate n ".") := by
    rw [List.forall₂_map_left_iff, List.forall₂_same]
    exact fun s _ => .plain s
  have hne : (dottedParts n).map (fun s => s.toList.map Glob.Include.char) ≠ [] := by simp [dottedParts]
  obtain ⟨fuel, -, hexpand⟩ := expand_rooted p.wf hne p.resolve_rootPath
  rw [FileSet.leadsTo_eq (read_dotted p.absolute n), hexpand, dottedParts, List.map_append] at hx
  obtain ⟨fuel', hx⟩ := pathsFrom_standsFor_all p.wf hstands (by simp) (isAbsolute_rootPath p.root) hx
  rw [← joinAll_dottedParts, dottedParts, Path.joinAll_append]
  cases fuel' with
  | zero => simp [pathsFrom, visit] at hx
  | succ fuel' =>
    rw [List.map_singleton, pathsFrom_literal_last (literal?_chars _)
      (Path.isAbsolute_joinAll (isAbsolute_rootPath p.root) _), String.ofList_toList] at hx
    split at hx
    · exact List.mem_singleton.1 hx
    · cases hx

/-- It lists the script as long as its path is no longer than a path may be, -/
theorem filesOf_dotted_fits (lf : p.tree.LinkFree) {bytes : ByteArray}
    (hscript : p.content ["a.js"] = some (.file bytes)) (hfits : p.Fits (dotted n)) :
    FileSet.filesOf p.tree p.root [dotted n] = .ok ["a.js"] := by
  obtain ⟨-, hne, hlast⟩ := toList_dotted n
  have hmark : FileSet.negated? (dotted n) = none := by cases n <;> simp [dotted, FileSet.negated?]
  have hroom := hfits.hasRoom (isAbsolute_dotted n) hne hlast
  have hdir : p.content [] = some .dir := by
    rw [Placed.content, List.append_nil, p.isDir]
  have hroot : Abreast p p ((dotted n).utf8ByteSize + 1) [] [] (2 * n + 5) := by
    have hresolve : p.tree.resolve (p.path []) = .ok (p.dir ++ []) := by
      rw [List.append_nil]
      exact p.resolve_rootPath
    refine ⟨by simp, hresolve, hresolve, ?_⟩
    rw [size_dotted, Path.room_nil]
    omega
  have hstays := hroot.stays rfl hroom hroom hdir
  have hname : "a.js" ∈ namesIn p.tree (p.path ([] ++ List.replicate n ".")) := by
    rw [namesIn, hstays.first, List.append_nil]
    refine mem_children.2 ?_
    rw [← Placed.content, hscript]
    rfl
  have hscriptAt := (hstays.name rfl hroom hroom hname).2.first
  rw [List.nil_append, List.nil_append, ← dottedParts] at hscriptAt
  have hpath : p.path (dottedParts n) = Path.join (rootPath p.root) (dotted n) := joinAll_dottedParts n _
  have hparts : dottedParts n ≠ [] := by simp [dottedParts]
  obtain ⟨fuel, hfuel, hexpand⟩ := expand_rooted p.wf
    (show (dottedParts n).map (fun s => s.toList.map Glob.Include.char) ≠ [] by simpa using hparts)
    p.resolve_rootPath
  obtain ⟨fuel, rfl⟩ := Nat.exists_eq_add_of_lt (Nat.zero_lt_of_lt hfuel)
  have hlead : FileSet.leadsTo p.tree p.root (dotted n) = [Path.join (rootPath p.root) (dotted n)] := by
    rw [FileSet.leadsTo_eq (read_dotted p.absolute n), hexpand,
      pathsFrom_spelled lf hparts (no_slash_dottedParts n) (isAbsolute_rootPath p.root) hscriptAt, ← hpath,
      Placed.path]
  have hfile : p.tree.isFile (Path.join (rootPath p.root) (dotted n)) = true := by
    rw [← hpath]
    exact (Placed.isFile_path hscriptAt).2 ⟨bytes, hscript⟩
  rw [FileSet.filesOf_single hmark ⟨_, read_dotted p.absolute n⟩, hlead, List.filter_cons_of_pos hfile,
    List.filter_nil, List.map_singleton, p.relativeTo_join (isAbsolute_dotted n) hfile, segments_dotted,
    counted_dottedParts]
  rfl

/-- and nothing when it is longer. -/
theorem filesOf_dotted_long (h : maxPath < (Path.join (rootPath p.root) (dotted n)).utf8ByteSize) :
    FileSet.filesOf p.tree p.root [dotted n] = .ok [] := by
  have hmark : FileSet.negated? (dotted n) = none := by cases n <;> simp [dotted, FileSet.negated?]
  have hnone : (FileSet.leadsTo p.tree p.root (dotted n)).filter p.tree.isFile = [] := by
    rw [List.filter_eq_nil_iff]
    intro x hx hfile
    rw [eq_of_mem_dotted hx] at hfile
    exact absurd (size_of_isFile hfile) (Nat.not_le.2 h)
  rw [FileSet.filesOf_single hmark ⟨_, read_dotted p.absolute n⟩, hnone, List.map_nil]
  rfl

end

end BuildGate
