import BuildGate.Proofs.FileLists
import BuildGate.Proofs.SharedSyntax

/-!
# Taking a directory's contents away

The path of a directory with `/**` behind it and a mark before it takes away what lies below the
directory. The reader turns a path without special characters into itself, character by character,
and the two stars at the end into "a slash and whatever follows", so such a pattern is matched by the
texts that begin with the directory and a slash. Between paths in normal form a text begins in this
way where the components of the directory come first and others follow, so neighbours with a longer
name, the directory's own path and directories of the same name elsewhere stay.

**Results.**
* `read_contentsOf`, `accepts_contentsOf`: how such a pattern is read and what it matches.
* `exists_behind_iff`: beginning with a directory, by characters and by components.
* `isExcluded_contents`: what a set of such entries takes away.
-/
namespace BuildGate

open BuildGate.Path

/-! ## Beginning with a directory -/

section
variable {dir path : String}

theorem Path.root_not_mem_components (hpath : isAbsolute path = false) :
    Component.root ∉ components path := by
  have hpart : ∀ seg, componentOf seg ≠ some .root := by
    intro seg
    unfold componentOf partOf
    split
    · simp
    · split <;> simp
  obtain ⟨seg, segs, hsegs⟩ := List.exists_cons_of_ne_nil (segments_ne_nil path)
  rw [components, hpath, parts_relative hpath hsegs]
  simp only [Bool.false_eq_true, if_false, List.nil_append, List.mem_filterMap, List.mem_cons,
    List.mem_map]
  rintro ⟨part, rfl | ⟨seg', -, rfl⟩, hroot⟩
  · dsimp only at hroot
    split at hroot
    · cases hroot
    · exact hpart seg hroot
  · exact hpart seg' hroot

/-- The text of a relative path in normal form is that of its components. -/
theorem Path.eq_intercalate_of_normal (hpath : isAbsolute path = false) (h : normal path = path) :
    path = "/".intercalate ((components path).map ofComponents.text) := by
  have hroot := root_not_mem_components hpath
  rw [normal] at h
  cases hcs : components path with
  | nil => rw [← h, hcs]; rfl
  | cons c cs =>
    rw [hcs] at h hroot
    cases c with
    | root => exact absurd List.mem_cons_self hroot
    | here | up | name => exact h.symm

/-- A path in normal form begins with a directory and a slash where the directory's components come
first in it and are not all. -/
theorem Path.exists_behind_iff (hne : dir ≠ "") (hdir : isAbsolute dir = false)
    (hdirNormal : normal dir = dir) (hpath : isAbsolute path = false) (hnormal : normal path = path) :
    (∃ rest, path = dir ++ "/" ++ rest) ↔
      components dir <+: components path ∧ components dir ≠ components path := by
  constructor
  · rintro ⟨rest, heq⟩
    refine ⟨?_, fun hcs => ?_⟩
    · rw [heq, components_behind hne hdir]
      exact List.prefix_append ..
    · have hsame : path = dir := by rw [← hnormal, ← hdirNormal, normal, normal, hcs]
      have := congrArg String.length (hsame.symm.trans heq)
      simp only [String.length_append, show "/".length = 1 from rfl] at this
      omega
  · rintro ⟨⟨more, hmore⟩, hcs⟩
    have hcomponents : components dir ≠ [] := by
      intro hnil
      refine hne ?_
      rw [← hdirNormal, normal, hnil]
      rfl
    have hrest : more ≠ [] := by
      rintro rfl
      exact hcs (by rw [← hmore, List.append_nil])
    refine ⟨"/".intercalate (more.map ofComponents.text), ?_⟩
    conv_lhs => rw [eq_intercalate_of_normal hpath hnormal, ← hmore, List.map_append,
      String.intercalate_append_of_ne_nil (by simpa using hcomponents) (by simpa using hrest),
      ← eq_intercalate_of_normal hdir hdirNormal]

/-- A path in normal form does not end in the slash behind a directory. -/
theorem Path.ne_empty_behind (hne : dir ≠ "") (hdir : isAbsolute dir = false)
    (hdirNormal : normal dir = dir) {rest : String} (h : normal (dir ++ "/" ++ rest) = dir ++ "/" ++ rest) :
    rest ≠ "" := by
  rintro rfl
  have hsame : components (dir ++ "/" ++ "") = components dir := by
    rw [components_behind hne hdir, segments_of_no_slash (by simp)]
    simp
  rw [normal, hsame, ← normal, hdirNormal] at h
  have := congrArg String.length h
  simp only [String.length_append, show "/".length = 1 from rfl] at this
  omega

end

/-! ## Patterns for the contents of a directory -/

namespace Glob.Exclude

theorem leads_chars {cs : List Char} (h : ∀ c ∈ cs, c ∉ ['?', '*', '[', '\x7b', '\x7d', '\\'])
    (before : Option Char) (rest : List Char) (b : List Exclude) :
    ∃ before', Leads (reading before (cs ++ rest) b)
      (reading before' rest ((cs.map .literal).reverse ++ b)) := by
  induction cs generalizing before b with
  | nil => exact ⟨before, .refl _⟩
  | cons c cs ih =>
    rw [List.forall_mem_cons] at h
    obtain ⟨last, hlast⟩ := ih h.2 (some c) (.literal c :: b)
    exact ⟨last, by simpa using (leads_char before (cs ++ rest) b h.1).trans hlast⟩

theorem covers_literals {as cs : List Char} :
    Covers (as.map .literal) (encode cs) ↔ cs = as := by
  induction as generalizing cs with
  | nil => rw [List.map_nil, covers_nil, encode_eq_nil]
  | cons a as ih =>
    rw [List.map_cons, covers_literal]
    simp only [ih, exists_eq_right]

theorem literalText_literals (cs : List Char) : literalText (cs.map .literal) = some cs := by
  induction cs with
  | nil => rfl
  | cons c cs ih =>
    rw [List.map_cons, literalText, ih]
    rfl

/-- How a path begins settles whether it lies below a directory, so nothing is compiled. -/
theorem not_needsExpression_contents (cs : List Char) :
    needsExpression (cs.map .literal ++ [.recursiveSuffix]) = false := by
  have haffix : isAffix (cs.map .literal ++ [.recursiveSuffix]) = true := by
    unfold isAffix
    simp only [List.getLast?_concat, List.dropLast_concat, literalText_literals, Option.isSome_some,
      Bool.or_true, Bool.and_true, Bool.true_or]
  rw [needsExpression, haffix, Bool.not_true, Bool.and_false]

variable {dir : String} (h : ∀ c ∈ dir.toList, c ∉ ['?', '*', '[', '\x7b', '\x7d', '\\'])
include h

/-- A path without special characters is read character by character. -/
theorem read_contentsOf :
    read (dir ++ "/**") = .ok (dir.toList.map .literal ++ [.recursiveSuffix]) := by
  have htext : (dir ++ "/**").toList = dir.toList ++ ['/', '*', '*'] := by
    rw [String.toList_append]
    rfl
  obtain ⟨mid, hmid⟩ := leads_chars h none ['/', '*', '*'] []
  have hleads := hmid.trans (leads_recursive_last mid _)
  rw [← htext] at hleads
  rw [read_of_leads hleads]
  simp

omit h in
theorem accepts_contentsOf (path : String) :
    accepts (dir.toList.map .literal ++ [.recursiveSuffix]) path = true ↔
      ∃ rest, path = dir ++ "/" ++ rest := by
  have hlast : (dir.toList.map literal ++ [recursiveSuffix]).getLast? = some recursiveSuffix :=
    List.getLast?_concat ..
  have hprefix : dir.toList.map literal ++ [recursiveSuffix] ≠ [recursivePrefix] := by
    intro heq
    rw [heq] at hlast
    cases hlast
  have hneeds : needsFileName (dir.toList.map literal ++ [recursiveSuffix]) ≠ true := by
    intro hneeds
    obtain ⟨c, hc⟩ := getLast?_of_needsFileName hneeds
    rw [hlast] at hc
    cases hc
  have hbraces : ∀ t ∈ dir.toList.map literal, NoBraces t := by
    intro t ht
    obtain ⟨c, -, rfl⟩ := List.mem_map.1 ht
    trivial
  rw [accepts_iff hprefix, and_iff_right fun hno => absurd hno hneeds, covers_suffix hbraces]
  simp only [covers_literals]
  constructor
  · rintro ⟨_, bs, heq, rfl⟩
    exact ⟨String.ofList bs, String.toList_injective (by simp [heq])⟩
  · rintro ⟨rest, rfl⟩
    exact ⟨dir.toList, rest.toList, by simp, rfl⟩

theorem takesAway_contentsOf (path : String) :
    FileSet.takesAway (dir ++ "/**") path = true ↔ ∃ rest, path = dir ++ "/" ++ rest := by
  rw [FileSet.takesAway, read_contentsOf h, accepts_contentsOf]

end Glob.Exclude

/-! ## Sets of such entries -/

namespace FileSet

open Glob

/-- The path of a directory that a pattern can name: relative, in normal form and without a
character that means something to a reader of patterns. -/
structure IsDirText (dir : String) : Prop where
  nonempty : dir ≠ ""
  relative : isAbsolute dir = false
  normal : normal dir = dir
  plain : ∀ c ∈ dir.toList, c ∉ ['*', '?', '[', ']', '\x7b', '\x7d', '\\']

instance : DecidablePred IsDirText := fun dir =>
  decidable_of_iff (dir ≠ "" ∧ isAbsolute dir = false ∧ Path.normal dir = dir ∧
      dir.toList.all (· ∉ ['*', '?', '[', ']', '\x7b', '\x7d', '\\']) = true)
    ⟨fun ⟨hne, hrel, hnormal, hplain⟩ =>
      ⟨hne, hrel, hnormal, fun c hc => of_decide_eq_true (List.all_eq_true.1 hplain c hc)⟩,
    fun h => ⟨h.nonempty, h.relative, h.normal,
      List.all_eq_true.2 fun c hc => decide_eq_true (h.plain c hc)⟩⟩

theorem IsDirText.no_special {dir : String} (h : IsDirText dir) :
    ∀ c ∈ dir.toList, c ∉ ['?', '*', '[', '\x7b', '\x7d', '\\'] := by
  intro c hc
  have := h.plain c hc
  simp only [List.mem_cons, List.not_mem_nil, or_false, not_or] at this ⊢
  tauto

/-- The entry that takes away what lies below `dir`. -/
def contentsEntry (dir : String) : String := "!" ++ (dir ++ "/**")

theorem removing_contents (dirs : List String) :
    removing (dirs.map contentsEntry) = dirs.map fun dir => dir ++ "/**" := by
  rw [removing, List.filterMap_map]
  have hmark : negated? ∘ contentsEntry = some ∘ fun dir => dir ++ "/**" :=
    funext fun dir => negated?_mark _
  rw [hmark, List.filterMap_eq_map]

theorem selecting_contents (dirs : List String) : selecting (dirs.map contentsEntry) = [] := by
  rw [selecting, List.filter_eq_nil_iff]
  rintro entry hentry
  obtain ⟨dir, -, rfl⟩ := List.mem_map.1 hentry
  simp [contentsEntry, negated?_mark]

/-- A set of entries `contentsEntry dir` can be read, and takes away just the paths that begin with
one of `dirs`, a slash and at least one more character. By components: those of the directory come
first and are not all, so a neighbour whose name is longer, the directory's own path and a directory
of its name elsewhere are kept. -/
theorem isExcluded_contents {dirs : List String} (hdirs : ∀ dir ∈ dirs, IsDirText dir) :
    ∃ s, FileSet.read (dirs.map contentsEntry) = .ok s ∧ s.includes = [] ∧
      ∀ path, isAbsolute path = false → Path.normal path = path →
        (s.isExcluded path = true ↔
          ∃ dir ∈ dirs, ∃ rest, rest ≠ "" ∧ path = dir ++ "/" ++ rest) ∧
        (s.isExcluded path = true ↔
          ∃ dir ∈ dirs, components dir <+: components path ∧ components dir ≠ components path) := by
  have hremoves : ∀ glob ∈ removing (dirs.map contentsEntry), Removes glob := by
    rw [removing_contents]
    rintro glob hglob
    obtain ⟨dir, hdir, rfl⟩ := List.mem_map.1 hglob
    exact ⟨_, Exclude.read_contentsOf (hdirs dir hdir).no_special⟩
  have hcompile : Compile (removing (dirs.map contentsEntry)) := by
    refine Exclude.setFault?_eq_none fun tokens htokens => ?_
    obtain ⟨glob, hglob, htokens⟩ := List.mem_filterMap.1 htokens
    rw [removing_contents] at hglob
    obtain ⟨dir, hdir, rfl⟩ := List.mem_map.1 hglob
    have hread := Exclude.read_contentsOf (hdirs dir hdir).no_special
    obtain rfl := Except.ok.inj (hread.symm.trans (tokens?_eq_some.1 htokens))
    exact Exclude.not_needsExpression_contents _
  obtain ⟨s, hread, hincludes, hexcluded⟩ := read_eq_ok hremoves hcompile
  refine ⟨s, hread, hincludes.trans (selecting_contents dirs), fun path hpath hnormal => ?_⟩
  have htaken : s.isExcluded path = true ↔ ∃ dir ∈ dirs, ∃ rest, path = dir ++ "/" ++ rest := by
    rw [hexcluded, removing_contents, List.any_map, List.any_eq_true]
    exact exists_congr fun dir => and_congr_right fun hdir =>
      Exclude.takesAway_contentsOf (hdirs dir hdir).no_special path
  constructor
  · refine htaken.trans (exists_congr fun dir => and_congr_right fun hdir => ?_)
    have h := hdirs dir hdir
    refine exists_congr fun rest => ⟨fun heq => ⟨?_, heq⟩, And.right⟩
    exact ne_empty_behind h.nonempty h.relative h.normal (heq ▸ hnormal)
  · refine htaken.trans (exists_congr fun dir => and_congr_right fun hdir => ?_)
    have h := hdirs dir hdir
    exact exists_behind_iff h.nonempty h.relative h.normal hpath hnormal

theorem isExcluded_buildAndVendor : ∃ s, FileSet.read ["!lib/vendor/**", "!build/**"] = .ok s ∧
    s.isExcluded "lib/vendor/x/a.js" = true ∧ s.isExcluded "lib/vendored/a.js" = false ∧
    s.isExcluded "build" = false ∧ s.isExcluded "sub/build/a.js" = false := by
  have hdirs : ∀ dir ∈ ["lib/vendor", "build"], IsDirText dir := by decide
  obtain ⟨s, hread, -, h⟩ := isExcluded_contents hdirs
  have hkept : ∀ path, isAbsolute path = false → Path.normal path = path →
      (¬ ∃ dir ∈ ["lib/vendor", "build"],
        components dir <+: components path ∧ components dir ≠ components path) →
      s.isExcluded path = false := fun path hpath hnormal hno => by
    rw [← Bool.not_eq_true, (h path hpath hnormal).2]
    exact hno
  refine ⟨s, hread, (h _ (by decide) (by decide)).2.2 (by decide), ?_, ?_, ?_⟩
  · exact hkept _ (by decide) (by decide) (by decide)
  · exact hkept _ (by decide) (by decide) (by decide)
  · exact hkept _ (by decide) (by decide) (by decide)

end FileSet

end BuildGate
