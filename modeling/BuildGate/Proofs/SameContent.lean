import BuildGate.Proofs.ListedFiles
import BuildGate.Proofs.LiteralRoots
import Mathlib.Algebra.GroupWithZero.Nat

/-!
# Directories with the same content

A project is placed in two trees, below roots of any names. What an expansion asks of a path behind
either root, whether a directory is there, whether anything is, and which names are in it, has the same
answer behind the other one, as long as the paths are no longer than a path may be and none goes up.

**Results.**
* `size_joinAll`: how long a path is with parts behind it.
* `Placed`: a directory without links, and a root that leads to it.
* `Abreast`: a place of one content, reached by the same parts behind two roots.
* `Abreast.lookUp`, `Abreast.name`: one part further.
-/
namespace BuildGate

open FileTree Glob.Include

/-! ## Sizes -/

namespace Path

/-- The bytes of `segs`, with one for a slash behind each. -/
def room (segs : List String) : Nat := (segs.map fun s => s.utf8ByteSize + 1).sum

@[simp] theorem room_nil : room [] = 0 := rfl

@[simp] theorem room_cons (s : String) (segs : List String) :
    room (s :: segs) = s.utf8ByteSize + 1 + room segs := by
  simp [room]

@[simp] theorem room_append (a b : List String) : room (a ++ b) = room a + room b := by
  simp [room]

theorem room_eq {segs : List String} (hne : segs ≠ []) :
    room segs = ("/".intercalate segs).utf8ByteSize + 1 := by
  induction segs with
  | nil => exact absurd rfl hne
  | cons s segs ih =>
    by_cases hnil : segs = []
    · rw [hnil, String.intercalate_singleton]
      simp
    · have hslash : "/".utf8ByteSize = 1 := by decide
      rw [room_cons, ih hnil, String.intercalate_cons_of_ne_nil hnil, String.utf8ByteSize_append,
        String.utf8ByteSize_append, hslash]
      omega

theorem size_separator (s : String) : (separator s).utf8ByteSize ≤ 1 := by
  unfold separator
  split <;> decide

theorem size_joinAll {segs : List String} (hne : segs ≠ []) (hsegs : ∀ s ∈ segs, '/' ∉ s.toList)
    (base : String) : (joinAll base segs).utf8ByteSize + 1 ≤
      base.utf8ByteSize + (separator base).utf8ByteSize + room segs := by
  induction segs generalizing base with
  | nil => exact absurd rfl hne
  | cons seg segs ih =>
    rw [List.forall_mem_cons] at hsegs
    have hjoin : (join base seg).utf8ByteSize =
        base.utf8ByteSize + (separator base).utf8ByteSize + seg.utf8ByteSize := by
      rw [join_relative (isAbsolute_of_no_slash hsegs.1), String.utf8ByteSize_append,
        String.utf8ByteSize_append]
    rw [joinAll_cons, room_cons]
    by_cases hnil : segs = []
    · rw [hnil, joinAll_nil, room_nil, hjoin]
      omega
    · have hrest := ih hnil hsegs.2 (join base seg)
      have hsep := size_separator (join base seg)
      omega

end Path

/-! ## A root and its directory -/

/-- A tree with a directory `dir` in which there are no links, and a `root` that leads to it. -/
structure Placed where
  tree : FileTree
  root : String
  dir : Location
  wf : tree.WellFormed
  absolute : Path.isAbsolute root = true
  resolve : tree.resolve root = .ok dir
  isDir : tree.get? dir = some .dir
  plain : ∀ rel e, tree.get? (dir ++ rel) = some e → Entry.IsPlace e

namespace Placed

variable (p : Placed)

/-- What stands at `rel` in the directory. -/
def content (rel : Location) : Option Entry := p.tree.get? (p.dir ++ rel)

/-- The path an expansion comes to with `segs` behind the root. -/
def path (segs : List String) : String := Path.joinAll (rootPath p.root) segs

/-- A path that leads into the directory may have `limit` bytes more than the root. -/
def HasRoom (limit : Nat) : Prop := ∀ rel, (p.content rel).isSome →
  p.root.utf8ByteSize + (Path.separator p.root).utf8ByteSize + limit + Path.room rel ≤ maxPath + 1

theorem room_rootPieces : p.root.utf8ByteSize + (Path.separator p.root).utf8ByteSize =
    1 + Path.room ((rootPieces p.root).map String.ofList) := by
  have habs := p.absolute
  have hne : p.root ≠ "" := by
    intro hnil
    rw [hnil] at habs
    cases habs
  have hpieces : (pieces p.root.toList).map String.ofList ≠ [] := by
    rw [pieces_absolute habs]
    exact List.cons_ne_nil _ _
  have hslash : "/".utf8ByteSize = 1 := by decide
  rw [← String.utf8ByteSize_append, Path.root_separator hne, Path.join_separated hpieces,
    String.utf8ByteSize_append, hslash, ← Path.room_eq hpieces, pieces_absolute habs, List.map_cons,
    Path.room_cons]
  simp

/-- The text under which an expansion comes to the root is no longer than the root, -/
theorem size_rootPath : (rootPath p.root).utf8ByteSize ≤ p.root.utf8ByteSize := by
  have hroom := p.room_rootPieces
  have hsep := Path.size_separator p.root
  by_cases hnil : (rootPieces p.root).map String.ofList = []
  · have hone : "/".utf8ByteSize = 1 := by decide
    have hpos : p.root.utf8ByteSize ≠ 0 := by
      intro hzero
      have habs := p.absolute
      rw [String.utf8ByteSize_eq_zero_iff.1 hzero] at habs
      cases habs
    rw [rootPath, hnil, Path.joinAll_nil, hone]
    exact Nat.one_le_iff_ne_zero.2 hpos
  · have hsize := Path.size_joinAll hnil (no_slash_rootPieces p.root) "/"
    have hone : "/".utf8ByteSize + (Path.separator "/").utf8ByteSize = 1 := by decide
    rw [rootPath]
    omega

/-- and so are the two with a slash behind them. -/
theorem size_separator : (rootPath p.root).utf8ByteSize +
    (Path.separator (rootPath p.root)).utf8ByteSize ≤
      p.root.utf8ByteSize + (Path.separator p.root).utf8ByteSize := by
  have hroom := p.room_rootPieces
  have hsep := Path.size_separator (rootPath p.root)
  by_cases hnil : (rootPieces p.root).map String.ofList = []
  · have hone : "/".utf8ByteSize + (Path.separator "/").utf8ByteSize = 1 := by decide
    rw [rootPath, hnil, Path.joinAll_nil, hone]
    omega
  · have hsize := Path.size_joinAll hnil (no_slash_rootPieces p.root) "/"
    have hone : "/".utf8ByteSize + (Path.separator "/").utf8ByteSize = 1 := by decide
    rw [rootPath] at hsep ⊢
    omega

/-- The text under which an expansion comes to the root leads to it. -/
theorem resolve_rootPath : p.tree.resolve (rootPath p.root) = .ok p.dir := by
  have hsettled := Path.settled_of_isAbsolute p.absolute
  have hsame := rootText_absolute p.absolute
  obtain ⟨hnul, hsize, hwalk⟩ := (resolveWith_iff p.absolute).1 p.resolve
  have hsteps := filterMap_rootText hsettled stepOf (by rfl)
  rw [hsame] at hsteps
  refine (resolveWith_iff (isAbsolute_rootPath p.root)).2 ⟨?_, p.size_rootPath.trans hsize, ?_⟩
  · rw [← hsame]
    exact fun hmem => hnul ((Path.mem_toList_rootText hsettled (by decide)).1 hmem)
  · -- Neither is changed by a slash at the end, since a directory is there.
    have hend : ∀ path : String,
        p.tree.walk true maxLinks [] ((Path.segments path).filterMap stepOf) = .ok p.dir ↔
          p.tree.walk true maxLinks [] (stepsOf path) = .ok p.dir := by
      intro path
      rw [stepsOf]
      rcases p.tree.walk_append maxLinks [] ((Path.segments path).filterMap stepOf) with
        ⟨r, left, hr, hmore⟩ | ⟨cause, hcause, hmore⟩
      · rw [hr, hmore true _ (.inr rfl)]
        split
        · by_cases hd : p.tree.get? r = some .dir
          · rw [walk_here p.tree true left [] hd, walk_nil]
          · rw [walk_not_dir p.tree true left [] .here hd]
            refine iff_of_false (fun heq => hd ?_) (by simp)
            rw [Except.ok.inj heq, p.isDir]
        · rw [walk_nil]
      · rw [hcause, hmore true _ (.inr rfl)]
    rw [← hend, hsteps, hend]
    exact hwalk

/-! ## Places of the content -/

variable {p} {segs : List String} {rel : Location}

theorem isAbsolute_path (p : Placed) (segs : List String) : Path.isAbsolute (p.path segs) = true :=
  Path.isAbsolute_joinAll (isAbsolute_rootPath p.root) segs

theorem path_concat (p : Placed) (segs : List String) (seg : String) :
    p.path (segs ++ [seg]) = Path.join (p.path segs) seg := by
  rw [path, Path.joinAll_append]
  rfl

/-- A path that is long enough for the parts and no more is no longer than a path may be. -/
theorem HasRoom.size_path {limit : Nat} (h : p.HasRoom limit) (hne : segs ≠ [])
    (hsegs : ∀ s ∈ segs, '/' ∉ s.toList) (hrel : (p.content rel).isSome)
    (hroom : Path.room segs ≤ limit + Path.room rel) : (p.path segs).utf8ByteSize ≤ maxPath := by
  have hsize := Path.size_joinAll hne hsegs (rootPath p.root)
  have hsep := p.size_separator
  have hlimit := h rel hrel
  rw [path]
  omega

theorem isDir_path (h : p.tree.resolve (p.path segs) = .ok (p.dir ++ rel)) :
    p.tree.isDir (p.path segs) = decide (p.content rel = some .dir) := by
  rw [Bool.eq_iff_iff, isDir_iff, decide_eq_true_iff, h]
  simp [content]

theorem isFile_path (h : p.tree.resolve (p.path segs) = .ok (p.dir ++ rel)) :
    p.tree.isFile (p.path segs) = true ↔ ∃ bytes, p.content rel = some (.file bytes) := by
  rw [isFile_iff, h]
  simp [content]

/-- What one more part leads to. -/
theorem resolveWith_concat (h : p.tree.resolve (p.path segs) = .ok (p.dir ++ rel)) {seg : String}
    (hseg : '/' ∉ seg.toList) (hup : seg ≠ "..") (hnul : '\x00' ∉ seg.toList)
    (hsize : (p.path (segs ++ [seg])).utf8ByteSize ≤ maxPath) (followLast : Bool) :
    p.tree.resolveWith followLast (p.path (segs ++ [seg])) =
      p.tree.stepTo (p.dir ++ rel) (stepFor seg) := by
  rw [path_concat] at hsize ⊢
  exact resolveWith_join_within p.plain (p.isAbsolute_path segs) h hseg hup hnul hsize followLast

/-- How a file is listed depends on the parts behind the root only. -/
theorem relativeTo_join (p : Placed) {q : String} (hq : Path.isAbsolute q = false)
    (h : p.tree.isFile (Path.join (rootPath p.root) q) = true) :
    FileSet.relativeTo p.root (Path.join (rootPath p.root) q) =
      "/".intercalate (Path.counted (Path.segments q)) := by
  have habs := isAbsolute_rootPath p.root
  have hne : rootPath p.root ≠ "" := by
    intro hnil
    rw [hnil] at habs
    cases habs
  have hcs : Path.components p.root ≠ [] := by
    rw [Path.components_absolute p.absolute]
    exact List.cons_ne_nil _ _
  obtain ⟨-, init, l, c, hlast, hl⟩ := last_counts_behind hne hq h
  rw [FileSet.relativeTo, Path.stripPrefix?_join_relative hne (components_rootPath p.absolute)
    (habs.trans p.absolute.symm) hcs hq hlast hl, Option.getD_some]

end Placed

/-! ## Two roots -/

namespace FileTree

/-- From directories with the same content a step that does not go up leads to the same place. -/
theorem stepTo_same {t u : FileTree} {a b : Location}
    (h : ∀ rel, t.get? (a ++ rel) = u.get? (b ++ rel)) {s : Step} (hup : s ≠ .up) :
    (∃ rel, t.stepTo a s = .ok (a ++ rel) ∧ u.stepTo b s = .ok (b ++ rel) ∧
      (t.get? (a ++ rel)).isSome) ∨
    ∃ cause, t.stepTo a s = .error cause ∧ u.stepTo b s = .error cause := by
  have hhere := h []
  rw [List.append_nil, List.append_nil] at hhere
  by_cases hd : t.get? a = some .dir
  · have hd' := hhere ▸ hd
    cases s with
    | up => exact absurd rfl hup
    | here =>
      refine .inl ⟨[], ?_, ?_, ?_⟩
      · rw [List.append_nil, stepTo_here]
        exact ⟨hd, rfl⟩
      · rw [List.append_nil, stepTo_here]
        exact ⟨hd', rfl⟩
      · rw [List.append_nil, hd]
        rfl
    | down name =>
      have hname := h [name]
      unfold stepTo
      simp only [hd, hd', ne_eq, not_true, if_false, ← hname]
      split
      · exact .inr ⟨_, rfl, rfl⟩
      · split
        · exact .inr ⟨_, rfl, rfl⟩
        next hsome => exact .inl ⟨[name], rfl, rfl, Option.isSome_iff_ne_none.2 hsome⟩
  · rw [stepTo_not_dir hd, stepTo_not_dir (hhere ▸ hd)]
    exact .inr ⟨_, rfl, rfl⟩

end FileTree

/-- A place of one content, reached by the same parts behind two roots. The parts leave so many bytes
for those that are still to come. -/
structure Abreast (p q : Placed) (limit : Nat) (segs : List String) (rel : Location) (left : Nat) :
    Prop where
  no_slash : ∀ s ∈ segs, '/' ∉ s.toList
  first : p.tree.resolve (p.path segs) = .ok (p.dir ++ rel)
  second : q.tree.resolve (q.path segs) = .ok (q.dir ++ rel)
  room : Path.room segs + left ≤ limit + Path.room rel

namespace Abreast

variable {p q : Placed} {limit left : Nat} {segs : List String} {rel : Location}

theorem isSome_content (h : Abreast p q limit segs rel left) : (p.content rel).isSome := by
  obtain ⟨e, he, -⟩ := resolve_stands p.wf h.first
  rw [Placed.content, he]
  rfl

theorem mono (h : Abreast p q limit segs rel left) {less : Nat} (hless : less ≤ left) :
    Abreast p q limit segs rel less :=
  ⟨h.no_slash, h.first, h.second, (Nat.add_le_add_left hless _).trans h.room⟩

section
variable (hsame : p.content = q.content)
include hsame

theorem isDir_eq (h : Abreast p q limit segs rel left) :
    p.tree.isDir (p.path segs) = q.tree.isDir (q.path segs) := by
  rw [Placed.isDir_path h.first, Placed.isDir_path h.second, hsame]

theorem isFile_eq (h : Abreast p q limit segs rel left) :
    p.tree.isFile (p.path segs) = q.tree.isFile (q.path segs) := by
  rw [Bool.eq_iff_iff, Placed.isFile_path h.first, Placed.isFile_path h.second, hsame]

theorem namesIn_eq (h : Abreast p q limit segs rel left) :
    namesIn p.tree (p.path segs) = namesIn q.tree (q.path segs) := by
  rw [namesIn, namesIn, h.first, h.second]
  refine children_eq p.wf q.wf fun name => ?_
  have := congrFun hsame (rel ++ [name])
  rw [Placed.content, Placed.content, ← List.append_assoc, ← List.append_assoc] at this
  rw [this]

theorem get?_eq (rel more : Location) :
    p.tree.get? (p.dir ++ rel ++ more) = q.tree.get? (q.dir ++ rel ++ more) := by
  have := congrFun hsame (rel ++ more)
  rwa [Placed.content, Placed.content, ← List.append_assoc, ← List.append_assoc] at this

section
variable (hp : p.HasRoom limit) (hq : q.HasRoom limit)
include hp hq

/-- What one more part leads to behind either root. -/
theorem resolveWith_concat (h : Abreast p q limit segs rel left) {seg : String} (hseg : '/' ∉ seg.toList)
    (hup : seg ≠ "..") (hnul : '\x00' ∉ seg.toList) {deep : Location} (hdeep : (p.content deep).isSome)
    (hroom : Path.room segs + (seg.utf8ByteSize + 1) ≤ limit + Path.room deep) (followLast : Bool) :
    p.tree.resolveWith followLast (p.path (segs ++ [seg])) = p.tree.stepTo (p.dir ++ rel) (stepFor seg) ∧
      q.tree.resolveWith followLast (q.path (segs ++ [seg])) =
        q.tree.stepTo (q.dir ++ rel) (stepFor seg) := by
  have hslash : ∀ s ∈ segs ++ [seg], '/' ∉ s.toList := by
    rw [List.forall_mem_append, List.forall_mem_singleton]
    exact ⟨h.no_slash, hseg⟩
  have hne : segs ++ [seg] ≠ [] := by simp
  have hlong : Path.room (segs ++ [seg]) ≤ limit + Path.room deep := by
    rw [Path.room_append, Path.room_cons, Path.room_nil]
    omega
  exact ⟨Placed.resolveWith_concat h.first hseg hup hnul (hp.size_path hne hslash hdeep hlong) followLast,
    Placed.resolveWith_concat h.second hseg hup hnul
      (hq.size_path hne hslash (hsame ▸ hdeep) hlong) followLast⟩

/-- A part that is looked up is found behind both roots or behind neither. -/
theorem lookUp {seg : String} (h : Abreast p q limit segs rel (seg.utf8ByteSize + 1 + left))
    (hseg : '/' ∉ seg.toList) (hup : seg ≠ "..") :
    (p.tree.hasEntry (p.path (segs ++ [seg])) = true ∧ q.tree.hasEntry (q.path (segs ++ [seg])) = true ∧
      ∃ more, Abreast p q limit (segs ++ [seg]) (rel ++ more) left) ∨
    p.tree.hasEntry (p.path (segs ++ [seg])) = false ∧ q.tree.hasEntry (q.path (segs ++ [seg])) = false := by
  by_cases hnul : '\x00' ∈ seg.toList
  · have hno : ∀ r : Placed, r.tree.hasEntry (r.path (segs ++ [seg])) = false := by
      intro r
      rw [Bool.eq_false_iff]
      intro hentry
      obtain ⟨loc, hloc⟩ := hasEntry_iff.1 hentry
      refine ((resolveWith_iff (r.isAbsolute_path _)).1 hloc).1 ?_
      rw [Placed.path_concat, Path.join_relative (Path.isAbsolute_of_no_slash hseg)]
      simp [hnul]
    exact .inr ⟨hno p, hno q⟩
  · have hroom := h.room
    have hresolve := h.resolveWith_concat hsame hp hq hseg hup hnul h.isSome_content (by omega)
    rcases stepTo_same (get?_eq hsame rel) (stepFor_ne_up hup) with
      ⟨more, hto, hto', -⟩ | ⟨cause, hto, hto'⟩
    · refine .inl ⟨hasEntry_iff.2 ⟨_, (hresolve false).1.trans hto⟩,
        hasEntry_iff.2 ⟨_, (hresolve false).2.trans hto'⟩, more, ?_, ?_, ?_, ?_⟩
      · rw [List.forall_mem_append, List.forall_mem_singleton]
        exact ⟨h.no_slash, hseg⟩
      · rw [← List.append_assoc]
        exact (hresolve true).1.trans hto
      · rw [← List.append_assoc]
        exact (hresolve true).2.trans hto'
      · rw [Path.room_append, Path.room_append, Path.room_cons, Path.room_nil]
        omega
    · refine .inr ⟨?_, ?_⟩
      · rw [hasEntry, (hresolve false).1, hto]
        rfl
      · rw [hasEntry, (hresolve false).2, hto']
        rfl

/-- A `.` stays behind both roots where a directory is. -/
theorem here (h : Abreast p q limit segs rel (".".utf8ByteSize + 1 + left))
    (hdir : p.tree.isDir (p.path segs) = true) : Abreast p q limit (segs ++ ["."]) rel left := by
  have hroom := h.room
  have hup : "." ≠ ".." := by decide
  have hresolve := h.resolveWith_concat hsame hp hq (by decide) hup (by decide) h.isSome_content
    (by omega) true
  have hstep : stepFor "." = .here := by decide
  rw [Placed.isDir_path h.first, decide_eq_true_iff] at hdir
  have hdir' : q.content rel = some .dir := by rw [← hsame, hdir]
  rw [hstep, stepTo_here.2 ⟨hdir, rfl⟩, stepTo_here.2 ⟨hdir', rfl⟩] at hresolve
  refine ⟨?_, hresolve.1, hresolve.2, ?_⟩
  · rw [List.forall_mem_append, List.forall_mem_singleton]
    exact ⟨h.no_slash, by decide⟩
  · rw [Path.room_append, Path.room_cons, Path.room_nil]
    omega

/-- A name in a directory leads on behind both roots, and takes no more bytes than the place has. -/
theorem name (h : Abreast p q limit segs rel left) {name : String}
    (hname : name ∈ namesIn p.tree (p.path segs)) :
    IsName name ∧ Abreast p q limit (segs ++ [name]) (rel ++ [name]) left := by
  rw [namesIn, h.first] at hname
  have hsome := mem_children.1 hname
  obtain ⟨e, he⟩ := Option.isSome_iff_exists.1 hsome
  obtain ⟨hisName, hlong⟩ := p.wf.isName he name (by simp)
  have hdir : p.tree.get? (p.dir ++ rel) = some .dir := by
    have := p.wf.get?_dropLast he
    rwa [List.dropLast_concat] at this
  have hroom := h.room
  have hresolve := h.resolveWith_concat hsame hp hq hisName.no_slash hisName.ne_up hisName.no_nul
    (show (p.content (rel ++ [name])).isSome by rwa [Placed.content, ← List.append_assoc])
    (by rw [Path.room_append, Path.room_cons, Path.room_nil]; omega) true
  rw [stepFor_name hisName] at hresolve
  refine ⟨hisName, ?_, hresolve.1.trans ?_, hresolve.2.trans ?_, ?_⟩
  · rw [List.forall_mem_append, List.forall_mem_singleton]
    exact ⟨h.no_slash, hisName.no_slash⟩
  · rw [← List.append_assoc]
    exact stepTo_down.2 ⟨hdir, hlong, hsome, rfl⟩
  · have hdir' := get?_eq hsame rel []
    have hsome' := get?_eq hsame rel [name]
    rw [List.append_nil, List.append_nil] at hdir'
    rw [← List.append_assoc]
    exact stepTo_down.2 ⟨hdir' ▸ hdir, hlong, hsome' ▸ hsome, rfl⟩
  · rw [Path.room_append, Path.room_append, Path.room_cons, Path.room_nil]
    omega

end

end

end Abreast

end BuildGate
