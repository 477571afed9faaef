import BuildGate.FileSet
import BuildGate.Proofs.LiteralPatterns

/-!
# Patterns below a root

The pattern of an entry is the escaped root with the entry behind it. Cut into components it begins
with one for each piece of the root, which stands for that piece alone, and goes on with those of the
entry as if the entry stood by itself.

**Results.**
* `splitSlash_join`: the pieces of a joined path.
* `splitSlash_escapeChars`: an escaped text is cut where the text is.
* `pieces_rooted`, `getLast?_rootedPattern`: the pieces of a pattern below a root, and its end.
* `Selector.read_rooted`, `read_rootedPattern`: what is read of a pattern below a root.
-/
namespace BuildGate

namespace Glob.Include

/-! ## Pieces -/

theorem pieces_of_slash (cs : List Char) : pieces (cs ++ ['/']) = Path.splitSlash cs := by
  have hsplit : Path.splitSlash (cs ++ ['/']) = Path.splitSlash cs ++ [[]] :=
    Path.splitSlash_append cs []
  simp [pieces, hsplit]

theorem pieces_of_last {cs p : List Char} (h : (Path.splitSlash cs).getLast? = some p)
    (hp : p ≠ []) : pieces cs = Path.splitSlash cs := by
  simp [pieces, h, hp]

theorem pieces_of_no_slash {cs : List Char} (hne : cs ≠ []) (h : cs.getLast? ≠ some '/') :
    pieces cs = Path.splitSlash cs := by
  obtain ⟨p, hp, hpne⟩ := Path.getLast?_splitSlash hne h
  exact pieces_of_last hp hpne

theorem pieces_subset {cs p : List Char} (h : p ∈ pieces cs) : p ∈ Path.splitSlash cs := by
  unfold pieces at h
  by_cases hlast : (Path.splitSlash cs).getLast? = some []
  · simp only [if_pos hlast] at h
    exact List.dropLast_subset _ h
  · simpa only [if_neg hlast] using h

/-- Only a piece that counts for nothing is left out. -/
theorem filterMap_pieces {β : Type} (f : String → Option β) (hf : f "" = none) (cs : List Char) :
    ((pieces cs).map String.ofList).filterMap f =
      ((Path.splitSlash cs).map String.ofList).filterMap f := by
  unfold pieces
  by_cases h : (Path.splitSlash cs).getLast? = some []
  · obtain ⟨init, hinit⟩ := List.getLast?_eq_some_iff.1 h
    simp only [if_pos h]
    simp [hinit, hf]
  · simp only [if_neg h]

theorem splitSlash_join {base path : String} (hb : base ≠ "") (hp : Path.isAbsolute path = false) :
    Path.splitSlash (Path.join base path).toList =
      pieces base.toList ++ Path.splitSlash path.toList := by
  have hempty : base.isEmpty = false := by simpa [String.isEmpty_iff] using hb
  unfold Path.join
  rw [if_neg (by simp [hp])]
  by_cases hlast : base.toList.getLast? = some '/'
  · obtain ⟨cs, hcs⟩ := List.getLast?_eq_some_iff.1 hlast
    rw [if_pos (.inr hlast), String.toList_append, hcs, pieces_of_slash, List.append_assoc]
    exact Path.splitSlash_append cs path.toList
  · rw [if_neg (by simp [hempty, hlast]), pieces_of_no_slash (by simpa using hb) hlast]
    simp [Path.splitSlash_append]

/-- The pieces of an absolute path behind its root. -/
def rootPieces (root : String) : List (List Char) := (pieces root.toList).tail

theorem pieces_absolute {root : String} (h : Path.isAbsolute root = true) :
    pieces root.toList = [] :: rootPieces root := by
  obtain ⟨cs, hcs⟩ := (Path.isAbsolute_iff root).1 h
  have hsplit : Path.splitSlash root.toList = [] :: Path.splitSlash cs := by
    simp [hcs, Path.splitSlash]
  unfold rootPieces pieces
  rw [hsplit]
  obtain ⟨p, ps, hps⟩ := List.exists_cons_of_ne_nil (Path.splitSlash_ne_nil cs)
  rw [hps]
  simp only
  split <;> simp

/-! ## Escaped pieces -/

theorem escapeChars_cons (c : Char) (cs : List Char) :
    escapeChars (c :: cs) = escapeChars [c] ++ escapeChars cs := by
  simp [escapeChars]

theorem escapeChars_eq_nil (cs : List Char) : escapeChars cs = [] ↔ cs = [] := by
  constructor
  · intro h
    have := length_le_escapeChars cs
    rw [h] at this
    simpa using this
  · rintro rfl
    rfl

theorem splitSlash_no_slash_append {pre : List Char} (h : '/' ∉ pre) (cs : List Char) :
    Path.splitSlash (pre ++ cs) = (Path.splitSlash cs).modifyHead (pre ++ ·) := by
  obtain ⟨p, ps, hps⟩ := List.exists_cons_of_ne_nil (Path.splitSlash_ne_nil cs)
  induction pre with
  | nil => simp [hps]
  | cons c pre ih =>
    have hc : c ≠ '/' := fun e => h (by simp [e])
    rw [List.cons_append, Path.splitSlash, if_neg hc,
      ih fun hm => h (List.mem_cons_of_mem _ hm), hps]
    rfl

theorem splitSlash_escapeChars (cs : List Char) :
    Path.splitSlash (escapeChars cs) = (Path.splitSlash cs).map escapeChars := by
  induction cs with
  | nil => rfl
  | cons c cs ih =>
    rw [escapeChars_cons]
    by_cases hc : c = '/'
    · subst hc
      have hslash : escapeChars ['/'] = ['/'] := by decide
      have hnil : escapeChars [] = [] := rfl
      simp [Path.splitSlash, ih, hslash, hnil]
    · have hpre : '/' ∉ escapeChars [c] := by
        simp only [escapeChars, List.flatMap_cons, List.flatMap_nil, List.append_nil]
        split
        · simp [Ne.symm hc]
        · simp [Ne.symm hc]
      obtain ⟨p, ps, hps⟩ := List.exists_cons_of_ne_nil (Path.splitSlash_ne_nil cs)
      rw [splitSlash_no_slash_append hpre, ih, Path.splitSlash, if_neg hc, hps]
      simp [escapeChars_cons c p]

theorem pieces_escapeChars (cs : List Char) :
    pieces (escapeChars cs) = (pieces cs).map escapeChars := by
  have hlast : ((Path.splitSlash cs).map escapeChars).getLast? = some [] ↔
      (Path.splitSlash cs).getLast? = some [] := by
    rw [List.getLast?_map]
    cases (Path.splitSlash cs).getLast? with
    | none => simp
    | some p => simp [escapeChars_eq_nil]
  unfold pieces
  rw [splitSlash_escapeChars]
  by_cases h : (Path.splitSlash cs).getLast? = some []
  · simp only [hlast.2 h, h, if_true, List.map_dropLast]
  · simp only [if_neg h, if_neg (mt hlast.1 h)]

theorem getLast?_escapeChars (cs : List Char) :
    (escapeChars cs).getLast? = some '/' ↔ cs.getLast? = some '/' := by
  rcases List.eq_nil_or_concat cs with rfl | ⟨init, c, rfl⟩
  · rfl
  · have hesc : escapeChars (init ++ [c]) = escapeChars init ++ escapeChars [c] := by
      simp [escapeChars]
    rw [List.concat_eq_append, hesc, List.getLast?_append, List.getLast?_append]
    by_cases hc : "?*[]".toList.contains c = true
    · have hne : c ≠ '/' := by rintro rfl; simp at hc
      simp only [escapeChars, List.flatMap_cons, if_pos hc]
      simp [hne]
    · simp only [escapeChars, List.flatMap_cons, if_neg hc]
      simp

theorem isAbsolute_escape {root : String} (h : Path.isAbsolute root = true) :
    Path.isAbsolute (escape root) = true := by
  obtain ⟨cs, hcs⟩ := (Path.isAbsolute_iff root).1 h
  refine (Path.isAbsolute_iff _).2 ⟨escapeChars cs, ?_⟩
  rw [toList_escape, hcs, escapeChars_cons]
  rfl

/-! ## Reading components -/

theorem readComponents_append (ps qs : List (List Char)) :
    readComponents (ps ++ qs) = (readComponents ps).bind fun ts =>
      (readComponents qs).map (ts ++ ·) := by
  induction ps with
  | nil => cases h : readComponents qs <;> simp [readComponents, h, Except.bind, Except.map]
  | cons p ps ih =>
    rw [List.cons_append, readComponents, readComponents, ih]
    cases read (String.ofList p) with
    | error f => rfl
    | ok ts =>
      cases readComponents ps with
      | error f => rfl
      | ok tss => cases readComponents qs <;> rfl

theorem readComponents_escaped (ps : List (List Char)) :
    readComponents (ps.map escapeChars) = .ok (ps.map (·.map literalToken)) := by
  induction ps with
  | nil => rfl
  | cons p ps ih =>
    rw [List.map_cons, readComponents, read_escapeChars, ih]
    rfl

/-- The entry stands behind a slash. -/
theorem rootedPattern_chars {root entry : String} (habs : Path.isAbsolute root = true)
    (hrel : Path.isAbsolute entry = false) :
    ∃ cs, (FileSet.rootedPattern root entry).toList = escapeChars cs ++ '/' :: entry.toList := by
  have hne : (escape root).isEmpty = false := by
    obtain ⟨cs, hcs⟩ := (Path.isAbsolute_iff _).1 (isAbsolute_escape habs)
    rw [Bool.eq_false_iff]
    intro h
    rw [String.isEmpty_iff.1 h] at hcs
    cases hcs
  unfold FileSet.rootedPattern Path.join
  rw [if_neg (by simp [hrel])]
  by_cases hlast : (escape root).toList.getLast? = some '/'
  · rw [if_pos (.inr hlast)]
    rw [toList_escape, getLast?_escapeChars] at hlast
    obtain ⟨cs, hcs⟩ := List.getLast?_eq_some_iff.1 hlast
    refine ⟨cs, ?_⟩
    rw [String.toList_append, toList_escape, hcs]
    simp [escapeChars]
  · rw [if_neg (by simp [hne, hlast])]
    exact ⟨root.toList, by simp [toList_escape]⟩

/-- So it ends with a slash if the entry does, or if there is no entry. -/
theorem getLast?_rootedPattern {root entry : String} (habs : Path.isAbsolute root = true)
    (hrel : Path.isAbsolute entry = false) :
    (FileSet.rootedPattern root entry).toList.getLast? = some '/' ↔
      entry = "" ∨ entry.toList.getLast? = some '/' := by
  obtain ⟨cs, hcs⟩ := rootedPattern_chars habs hrel
  rw [hcs, List.getLast?_append]
  by_cases hne : entry = ""
  · simp [hne]
  · have hchars : entry.toList ≠ [] := mt String.toList_eq_nil_iff.1 hne
    rw [List.getLast?_cons_of_ne_nil hchars, or_iff_right hne, List.getLast?_eq_some_getLast hchars,
      Option.some_or]

/-- The pieces of an entry stand behind those of its root. -/
theorem pieces_rooted {root entry : String} (habs : Path.isAbsolute root = true)
    (hrel : Path.isAbsolute entry = false) :
    ∃ body, (FileSet.rootedPattern root entry).toList = '/' :: body ∧
      pieces body = (rootPieces root).map escapeChars ++ pieces entry.toList := by
  have hescape := isAbsolute_escape habs
  obtain ⟨body, hbody⟩ := (Path.isAbsolute_iff _).1
    (show Path.isAbsolute (FileSet.rootedPattern root entry) = true from Path.isAbsolute_join hescape entry)
  have hsplit : Path.splitSlash body =
      (rootPieces root).map escapeChars ++ Path.splitSlash entry.toList := by
    have hne : escape root ≠ "" := by
      rintro h
      rw [h] at hescape
      cases hescape
    have hall := splitSlash_join hne hrel
    rw [toList_escape, pieces_escapeChars, pieces_absolute habs] at hall
    change Path.splitSlash (FileSet.rootedPattern root entry).toList = _ at hall
    rw [hbody, Path.splitSlash, if_pos rfl] at hall
    exact (List.cons.inj hall).2
  have hne := Path.splitSlash_ne_nil entry.toList
  have hlast : (Path.splitSlash body).getLast? = (Path.splitSlash entry.toList).getLast? := by
    rw [hsplit, List.getLast?_append, List.getLast?_eq_some_getLast hne, Option.some_or]
  refine ⟨body, hbody, ?_⟩
  unfold pieces
  dsimp only
  rw [hlast, hsplit]
  split
  · exact List.dropLast_append_of_ne_nil hne
  · rfl

/-- A pattern below an absolute root is read component by component, those of the root first. -/
theorem Selector.read_rooted {root entry : String} (habs : Path.isAbsolute root = true)
    (hrel : Path.isAbsolute entry = false) (hne : entry ≠ "")
    (hlast : entry.toList.getLast? ≠ some '/') :
    Selector.read (FileSet.rootedPattern root entry) =
      (Include.read (FileSet.rootedPattern root entry)).bind fun _ =>
        (readComponents (Path.splitSlash entry.toList)).map fun ts =>
          ⟨"/", (rootPieces root).map (·.map literalToken) ++ ts, false⟩ := by
  obtain ⟨body, hbody, hpieces⟩ := pieces_rooted habs hrel
  rw [pieces_of_no_slash (mt String.toList_eq_nil_iff.1 hne) hlast] at hpieces
  have habs' : Path.isAbsolute (FileSet.rootedPattern root entry) = true :=
    (Path.isAbsolute_iff _).2 ⟨body, hbody⟩
  have hend : (FileSet.rootedPattern root entry).toList.getLast? ≠ some '/' :=
    mt (getLast?_rootedPattern habs hrel).1 (not_or.2 ⟨hne, hlast⟩)
  have hempty : body.isEmpty = false := by
    rw [List.isEmpty_eq_false_iff]
    rintro rfl
    rw [hbody] at hend
    exact hend rfl
  have hdirs : ((FileSet.rootedPattern root entry).toList.getLast? == some '/') = false := by
    simpa using hend
  unfold Selector.read
  cases Include.read (FileSet.rootedPattern root entry) with
  | error f => rfl
  | ok us =>
    simp only [habs', if_true, hdirs]
    simp only [hbody, List.drop_one, List.tail_cons, hempty, hpieces,
      readComponents_append, readComponents_escaped]
    cases readComponents (Path.splitSlash entry.toList) <;> rfl

/-- The whole of such a pattern can be read if the entry can be read behind a slash. -/
theorem read_rootedPattern {root entry : String} (habs : Path.isAbsolute root = true)
    (hrel : Path.isAbsolute entry = false)
    (hread : ∀ fuel pos, ∃ us, readTokens (fuel + 1 + entry.toList.length) pos (some '/')
      entry.toList = .ok us) : ∃ us, Include.read (FileSet.rootedPattern root entry) = .ok us := by
  obtain ⟨cs, hcs⟩ := rootedPattern_chars habs hrel
  obtain ⟨k, hk⟩ := Nat.exists_eq_add_of_le (length_le_escapeChars cs)
  obtain ⟨pos, before, htokens⟩ := readTokens_escapeChars cs (k + 1 + entry.toList.length + 1) 0
    none ('/' :: entry.toList)
  obtain ⟨us, hus⟩ := hread k (pos + 1)
  refine ⟨cs.map literalToken ++ .char '/' :: us, ?_⟩
  have hfuel : (escapeChars cs ++ '/' :: entry.toList).length + 1 =
      k + 1 + entry.toList.length + 1 + cs.length := by
    simp only [List.length_append, List.length_cons]
    omega
  simp only [Include.read, hcs, hfuel]
  rw [htokens, readTokens_plain_cons (by decide), hus]
  rfl

end Glob.Include

end BuildGate
