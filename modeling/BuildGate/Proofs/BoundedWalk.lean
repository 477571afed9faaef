import BuildGate.Proofs.Resolution

/-!
# Resolutions by computation

A resolution recurses on the links it may still follow, which evaluation does not see through. With a
bound on its steps it recurses on that bound, and wherever the bound is enough the result is the same.
So what a given path leads to in a given tree can be computed.

**Results.**
* `walk_of_walkWithin`: a result within a bound is the result.
* `resolve_of_within`, `hasEntry_of_within`, `exists_of_within`, `isFile_of_within`: what is asked of
  a path.
* `filter_isFile_of_within`: which of several paths lead to files.
-/
namespace BuildGate.FileTree

/-- `walk` in a number of steps, or nothing if it takes more. -/
def walkWithin (t : FileTree) (followLast : Bool) :
    Nat → Nat → Location → List Step → Option (Except IoFault Location)
  | _, _, loc, [] => some (.ok loc)
  | 0, _, _, _ :: _ => none
  | bound + 1, links, loc, s :: todo =>
    if t.get? loc ≠ some .dir then some (.error .notADirectory)
    else
      match s with
      | .here => walkWithin t followLast bound links loc todo
      | .up => walkWithin t followLast bound links loc.dropLast todo
      | .down name =>
        if maxName < name.utf8ByteSize then some (.error .nameTooLong)
        else
          match t.get? (loc ++ [name]) with
          | none => some (.error .notFound)
          | some (.link target) =>
            if todo = [] ∧ followLast = false then some (.ok (loc ++ [name]))
            else
              match links with
              | 0 => some (.error .tooManyLinks)
              | links + 1 =>
                walkWithin t followLast bound links (if Path.isAbsolute target then [] else loc)
                  (stepsOf target ++ todo)
          | some _ => walkWithin t followLast bound links (loc ++ [name]) todo

theorem walk_of_walkWithin {t : FileTree} {followLast : Bool} {bound links : Nat} {loc : Location}
    {todo : List Step} {r : Except IoFault Location}
    (h : t.walkWithin followLast bound links loc todo = some r) :
    t.walk followLast links loc todo = r := by
  induction bound generalizing links loc todo with
  | zero =>
    cases todo with
    | nil => cases h; exact walk_nil t followLast links
    | cons s todo => cases h
  | succ bound ih =>
    cases todo with
    | nil => cases h; exact walk_nil t followLast links
    | cons s todo =>
      unfold walkWithin at h
      by_cases hd : t.get? loc = some .dir
      · rw [if_neg (not_not_intro hd)] at h
        cases s with
        | here => rw [walk_here t followLast links todo hd]; exact ih h
        | up => rw [walk_up t followLast links todo hd]; exact ih h
        | down name =>
          by_cases hn : maxName < name.utf8ByteSize
          · simp only [if_pos hn, Option.some.injEq] at h
            rw [walk_down_long t followLast links todo hd hn, h]
          · have hsize := Nat.not_lt.1 hn
            simp only [if_neg hn] at h
            cases hg : t.get? (loc ++ [name]) with
            | none =>
              simp only [hg, Option.some.injEq] at h
              rw [walk_down_none t followLast links todo hd hsize hg, h]
            | some e =>
              cases e with
              | dir =>
                simp only [hg] at h
                rw [walk_down t followLast links todo hd hsize hg trivial, ih h]
              | file bytes =>
                simp only [hg] at h
                rw [walk_down t followLast links todo hd hsize hg trivial, ih h]
              | link target =>
                simp only [hg] at h
                by_cases hlast : todo = [] ∧ followLast = false
                · simp only [if_pos hlast, Option.some.injEq] at h
                  rw [walk_link_kept t followLast links todo hd hsize hg hlast, h]
                · simp only [if_neg hlast] at h
                  cases links with
                  | zero =>
                    simp only [Option.some.injEq] at h
                    rw [walk_link_spent t followLast todo hd hsize hg hlast, h]
                  | succ links => rw [walk_link t followLast links todo hd hsize hg hlast, ih h]
      · rw [if_pos hd] at h
        cases h
        exact walk_not_dir t followLast links todo s hd

/-- What `path` leads to within `bound` steps. -/
def resolveWithin (t : FileTree) (followLast : Bool) (bound : Nat) (path : String) :
    Option (Except IoFault Location) :=
  if path.toList.contains '\x00' then some (.error .invalidInput)
  else if path = "" then some (.error .notFound)
  else if maxPath < path.utf8ByteSize then some (.error .nameTooLong)
  else
    t.walkWithin followLast bound maxLinks (if Path.isAbsolute path then [] else t.workingDir)
      (stepsOf path)

theorem resolveWith_of_within {t : FileTree} {followLast : Bool} (bound : Nat) {path : String}
    {r : Except IoFault Location} (h : t.resolveWithin followLast bound path = some r) :
    t.resolveWith followLast path = r := by
  unfold resolveWithin at h
  unfold resolveWith
  split at h
  · rename_i hnul; rw [if_pos hnul]; exact Option.some.inj h
  · rename_i hnul
    split at h
    · rename_i hne; rw [if_neg hnul, if_pos hne]; exact Option.some.inj h
    · rename_i hne
      split at h
      · rename_i hlong; rw [if_neg hnul, if_neg hne, if_pos hlong]; exact Option.some.inj h
      · rename_i hlong
        rw [if_neg hnul, if_neg hne, if_neg hlong]
        exact walk_of_walkWithin h

theorem resolve_of_within {t : FileTree} (bound : Nat) {path : String} {r : Except IoFault Location}
    (h : t.resolveWithin true bound path = some r) : t.resolve path = r :=
  resolveWith_of_within bound h

theorem hasEntry_of_within {t : FileTree} (bound : Nat) {path : String} {loc : Location}
    (h : t.resolveWithin false bound path = some (.ok loc)) : t.hasEntry path = true := by
  rw [hasEntry, resolveWith_of_within bound h]
  rfl

/-- What stands where `path` leads within `bound` steps, if anything does. -/
def entryWithin (t : FileTree) (bound : Nat) (path : String) : Option (Option Entry) :=
  (t.resolveWithin true bound path).map fun r => r.toOption.bind t.get?

theorem find_of_within {t : FileTree} (bound : Nat) {path : String} {e : Option Entry}
    (h : t.entryWithin bound path = some e) : (t.find path).toOption = e := by
  obtain ⟨r, hr, rfl⟩ := Option.map_eq_some_iff.1 h
  rw [find, resolve_of_within bound hr]
  cases r with
  | error cause => rfl
  | ok loc =>
    simp only [Except.toOption, Option.bind_some, bind, Except.bind]
    cases t.get? loc <;> rfl

theorem exists_of_within {t : FileTree} (bound : Nat) {path : String} {e : Option Entry}
    (h : t.entryWithin bound path = some e) : t.exists path = e.isSome := by
  rw [← find_of_within bound h, «exists»]
  cases t.find path <;> rfl

theorem isFile_of_within {t : FileTree} (bound : Nat) {path : String} {bytes : ByteArray}
    (h : t.entryWithin bound path = some (some (.file bytes))) : t.isFile path = true := by
  have hfind := find_of_within bound h
  unfold isFile
  cases hf : t.find path with
  | error cause => rw [hf] at hfind; cases hfind
  | ok e => rw [hf] at hfind; cases hfind; rfl

theorem not_isFile_of_within {t : FileTree} (bound : Nat) {path : String}
    (h : t.entryWithin bound path = some none) : t.isFile path = false := by
  have hfind := find_of_within bound h
  unfold isFile
  cases hf : t.find path with
  | error cause => rfl
  | ok e => rw [hf] at hfind; cases hfind

/-- Whether `path` leads to a file within `bound` steps. -/
def fileWithin (t : FileTree) (bound : Nat) (path : String) : Option Bool :=
  (t.entryWithin bound path).map fun
    | some (.file _) => true
    | _ => false

theorem isFile_of_fileWithin {t : FileTree} (bound : Nat) {path : String} {b : Bool}
    (h : t.fileWithin bound path = some b) : t.isFile path = b := by
  obtain ⟨e, he, rfl⟩ := Option.map_eq_some_iff.1 h
  have hfind := find_of_within bound he
  unfold isFile
  cases hf : t.find path with
  | error cause => rw [hf] at hfind; cases hfind; rfl
  | ok e' =>
    rw [hf] at hfind
    cases hfind
    cases e' <;> rfl

/-- The files among paths are those that they lead to within a number of steps. -/
theorem filter_isFile_of_within {t : FileTree} (bound : Nat) (found : List String)
    {paths : List String} (h : ∀ p ∈ paths, t.fileWithin bound p = some (found.contains p)) :
    paths.filter t.isFile = paths.filter found.contains :=
  List.filter_congr fun p hp => isFile_of_fileWithin bound (h p hp)

theorem readText_of_within {t : FileTree} (bound : Nat) {path text : String}
    (h : t.entryWithin bound path = some (some (.file text.toUTF8))) :
    t.readText path = .ok text := by
  have hfind := find_of_within bound h
  unfold readText readFile
  cases hf : t.find path with
  | error cause => rw [hf] at hfind; cases hfind
  | ok e =>
    rw [hf] at hfind
    cases hfind
    have htext : String.fromUTF8? text.toUTF8 = some text := dif_pos text.isValidUTF8
    simp only [bind, Except.bind, pure, Except.pure, htext]

end BuildGate.FileTree
