import BuildGate.Proofs.Expansion

/-!
# Steps that stay

A step that stays where it is asks for a directory and nothing else, and so does any step behind it.
Only at the end of a path does it say something of its own. So two paths lead to the same place if
they agree in their steps but those that stay, and in whether they end in one.

**Results.**
* `walk_congr`: resolutions agree if the steps do, but for those that stay.
* `getLast?_of_isFile`: no path to a file ends in such a step.
* `isFile_of_direct`: a file is there under every path with the same steps but those.
-/
namespace BuildGate.FileTree

/-- The steps without `.`, but for one at the end. -/
def direct : List Step → List Step
  | [] => []
  | [.here] => [.here]
  | .here :: todo => direct todo
  | s :: todo => s :: direct todo

theorem direct_here {todo : List Step} (h : todo ≠ []) : direct (.here :: todo) = direct todo := by
  obtain ⟨s, todo, rfl⟩ := List.exists_cons_of_ne_nil h
  rw [direct]
  simp

theorem direct_cons {s : Step} (hs : s ≠ .here) (todo : List Step) :
    direct (s :: todo) = s :: direct todo := by
  cases s with
  | here => exact absurd rfl hs
  | up => rw [direct] <;> simp
  | down name => rw [direct] <;> simp

theorem direct_eq_nil {todo : List Step} : direct todo = [] ↔ todo = [] := by
  induction todo with
  | nil => exact iff_of_true rfl rfl
  | cons s todo ih =>
    by_cases hs : s = .here
    · by_cases hnil : todo = []
      · rw [hs, hnil]
        exact iff_of_false (List.cons_ne_nil _ _) (List.cons_ne_nil _ _)
      · rw [hs, direct_here hnil, ih]
        exact iff_of_false hnil (List.cons_ne_nil _ _)
    · rw [direct_cons hs]
      exact iff_of_false (List.cons_ne_nil _ _) (List.cons_ne_nil _ _)

theorem nil_iff_of_direct {todo others : List Step} (h : direct todo = direct others) :
    todo = [] ↔ others = [] := by
  rw [← direct_eq_nil, h, direct_eq_nil]

/-- Steps before others change nothing in how these compare. -/
theorem direct_append (front : List Step) {todo others : List Step} (h : direct todo = direct others) :
    direct (front ++ todo) = direct (front ++ others) := by
  have hnil := nil_iff_of_direct h
  induction front with
  | nil => exact h
  | cons s front ih =>
    rw [List.cons_append, List.cons_append]
    by_cases hs : s = .here
    · by_cases hall : front ++ todo = []
      · have hothers : front ++ others = [] := by
          rw [List.append_eq_nil_iff] at hall ⊢
          exact ⟨hall.1, hnil.1 hall.2⟩
        rw [hall, hothers]
      · have hothers : front ++ others ≠ [] := by
          intro hno
          rw [List.append_eq_nil_iff] at hall hno
          exact hall ⟨hno.1, hnil.2 hno.2⟩
        rw [hs, direct_here hall, direct_here hothers, ih]
    · rw [direct_cons hs, direct_cons hs, ih]

/-- Where none of them comes last, none is left. -/
theorem direct_of_getLast? {todo : List Step} (h : todo.getLast? ≠ some .here) :
    direct todo = todo.filter (· ≠ .here) := by
  induction todo with
  | nil => rfl
  | cons s todo ih =>
    by_cases hnil : todo = []
    · subst hnil
      have hs : s ≠ .here := fun hs => h (by rw [hs]; rfl)
      rw [direct_cons hs, List.filter_cons_of_pos (by simpa using hs)]
      rfl
    · rw [List.getLast?_cons_of_ne_nil hnil] at h
      by_cases hs : s = .here
      · rw [hs, direct_here hnil, List.filter_cons_of_neg (by simp), ih h]
      · rw [direct_cons hs, List.filter_cons_of_pos (by simpa using hs), ih h]

section
variable {t : FileTree} {followLast : Bool} {links : Nat} {loc : Location}

/-- Steps like others of which the first one goes somewhere come to it first, and go on like them. -/
theorem exists_first (hd : t.get? loc = some .dir) {s : Step} (hs : s ≠ .here)
    {todo others : List Step} (h : direct (s :: todo) = direct others) :
    ∃ behind, direct todo = direct behind ∧
      t.walk followLast links loc others = t.walk followLast links loc (s :: behind) := by
  rw [direct_cons hs] at h
  induction others with
  | nil => cases h
  | cons first others ih =>
    by_cases hfirst : first = .here
    · subst hfirst
      by_cases hnil : others = []
      · rw [hnil] at h
        exact absurd (List.cons.inj h).1 hs
      · rw [direct_here hnil] at h
        obtain ⟨behind, hbehind, hwalk⟩ := ih h
        exact ⟨behind, hbehind, by rw [walk_here t followLast links others hd, hwalk]⟩
    · rw [direct_cons hfirst] at h
      obtain ⟨rfl, hrest⟩ := List.cons.inj h
      exact ⟨others, hrest, rfl⟩

theorem walk_of_direct_here (hd : t.get? loc = some .dir) {todo : List Step}
    (h : direct todo = [.here]) : t.walk followLast links loc todo = .ok loc := by
  induction todo with
  | nil => cases h
  | cons s todo ih =>
    by_cases hs : s = .here
    · rw [hs, walk_here t followLast links todo hd]
      by_cases hnil : todo = []
      · rw [hnil, walk_nil]
      · rw [hs, direct_here hnil] at h
        exact ih h
    · rw [direct_cons hs] at h
      exact absurd (List.cons.inj h).1 hs

/-- Resolutions agree whose steps do, but for those that stay. -/
theorem walk_congr {todo others : List Step} (h : direct todo = direct others) :
    t.walk followLast links loc todo = t.walk followLast links loc others := by
  induction links, loc, todo using walk_induction t followLast generalizing others with
  | done links loc => rw [direct_eq_nil.1 h.symm]
  | notDir links loc s todo hd =>
    have hne : others ≠ [] := by
      rw [Ne, ← direct_eq_nil, ← h, direct_eq_nil]
      exact List.cons_ne_nil _ _
    obtain ⟨s', others, rfl⟩ := List.exists_cons_of_ne_nil hne
    rw [walk_not_dir t followLast links todo s hd, walk_not_dir t followLast links others s' hd]
  | here links loc todo hd ih =>
    rw [walk_here t followLast links todo hd]
    by_cases hnil : todo = []
    · subst hnil
      rw [walk_nil, walk_of_direct_here hd h.symm]
    · rw [direct_here hnil] at h
      exact ih h
  | up links loc todo hd ih =>
    obtain ⟨behind, hbehind, hwalk⟩ := exists_first hd (s := .up) (by simp) h
    rw [hwalk, walk_up t followLast links todo hd, walk_up t followLast links behind hd]
    exact ih hbehind
  | tooLong links loc name todo hd hn =>
    obtain ⟨behind, -, hwalk⟩ := exists_first hd (s := .down name) (by simp) h
    rw [hwalk, walk_down_long t followLast links todo hd hn,
      walk_down_long t followLast links behind hd hn]
  | missing links loc name todo hd hn hget =>
    obtain ⟨behind, -, hwalk⟩ := exists_first hd (s := .down name) (by simp) h
    rw [hwalk, walk_down_none t followLast links todo hd hn hget,
      walk_down_none t followLast links behind hd hn hget]
  | kept links loc name todo target hd hn hget hlast =>
    obtain ⟨behind, hbehind, hwalk⟩ := exists_first hd (s := .down name) (by simp) h
    have hlast' : behind = [] ∧ followLast = false := (and_congr_left' (nil_iff_of_direct hbehind)).1 hlast
    rw [hwalk, walk_link_kept t followLast links todo hd hn hget hlast,
      walk_link_kept t followLast links behind hd hn hget hlast']
  | spent loc name todo target hd hn hget hlast =>
    obtain ⟨behind, hbehind, hwalk⟩ := exists_first hd (s := .down name) (by simp) h
    have hlast' : ¬ (behind = [] ∧ followLast = false) := mt (and_congr_left' (nil_iff_of_direct hbehind)).2 hlast
    rw [hwalk, walk_link_spent t followLast todo hd hn hget hlast,
      walk_link_spent t followLast behind hd hn hget hlast']
  | followed links loc name todo target hd hn hget hlast ih =>
    obtain ⟨behind, hbehind, hwalk⟩ := exists_first hd (s := .down name) (by simp) h
    have hlast' : ¬ (behind = [] ∧ followLast = false) := mt (and_congr_left' (nil_iff_of_direct hbehind)).2 hlast
    rw [hwalk, walk_link t followLast links todo hd hn hget hlast,
      walk_link t followLast links behind hd hn hget hlast']
    exact ih (direct_append (stepsOf target) hbehind)
  | down links loc name todo e hd hn hget hp ih =>
    obtain ⟨behind, hbehind, hwalk⟩ := exists_first hd (s := .down name) (by simp) h
    rw [hwalk, walk_down t followLast links todo hd hn hget hp,
      walk_down t followLast links behind hd hn hget hp]
    exact ih hbehind

/-- A resolution whose last step stays ends at a directory. -/
theorem walk_isDir {todo : List Step} {r : Location} (hlast : todo.getLast? = some .here)
    (h : t.walk followLast links loc todo = .ok r) : t.get? r = some .dir := by
  have hbehind : ∀ {s : Step} {todo : List Step}, s ≠ .here → (s :: todo).getLast? = some .here →
      todo.getLast? = some .here := by
    intro s todo hs hlast
    have hnil : todo ≠ [] := by
      rintro rfl
      exact hs (Option.some.inj hlast)
    rwa [List.getLast?_cons_of_ne_nil hnil] at hlast
  induction links, loc, todo using walk_induction t followLast with
  | done links loc => cases hlast
  | notDir links loc s todo hd =>
    rw [walk_not_dir t followLast links todo s hd] at h
    cases h
  | here links loc todo hd ih =>
    rw [walk_here t followLast links todo hd] at h
    by_cases hnil : todo = []
    · subst hnil
      rw [walk_nil] at h
      cases h
      exact hd
    · rw [List.getLast?_cons_of_ne_nil hnil] at hlast
      exact ih hlast h
  | up links loc todo hd ih =>
    rw [walk_up t followLast links todo hd] at h
    exact ih (hbehind (by simp) hlast) h
  | tooLong links loc name todo hd hn =>
    rw [walk_down_long t followLast links todo hd hn] at h
    cases h
  | missing links loc name todo hd hn hget =>
    rw [walk_down_none t followLast links todo hd hn hget] at h
    cases h
  | kept links loc name todo target hd hn hget hkept =>
    rw [hkept.1] at hlast
    cases hlast
  | spent loc name todo target hd hn hget hkept =>
    rw [walk_link_spent t followLast todo hd hn hget hkept] at h
    cases h
  | followed links loc name todo target hd hn hget hkept ih =>
    rw [walk_link t followLast links todo hd hn hget hkept] at h
    refine ih ?_ h
    rw [List.getLast?_append, hbehind (by simp) hlast, Option.some_or]
  | down links loc name todo e hd hn hget hp ih =>
    rw [walk_down t followLast links todo hd hn hget hp] at h
    exact ih (hbehind (by simp) hlast) h

end

/-! ## Paths -/

section
variable {t : FileTree} {path : String}

theorem resolveWith_eq_ok {followLast : Bool} {r : Location} :
    t.resolveWith followLast path = .ok r ↔ '\x00' ∉ path.toList ∧ path ≠ "" ∧
      path.utf8ByteSize ≤ maxPath ∧ t.walk followLast maxLinks
        (if Path.isAbsolute path then [] else t.workingDir) (stepsOf path) = .ok r := by
  unfold resolveWith
  by_cases hnul : '\x00' ∈ path.toList
  · simp [hnul]
  · by_cases hne : path = ""
    · simp [hne]
    · by_cases hlong : maxPath < path.utf8ByteSize
      · simp [hnul, hne, hlong, Nat.not_le.2 hlong]
      · simp [hnul, hne, hlong, Nat.not_lt.1 hlong]

theorem no_nul_of_isFile (h : t.isFile path = true) : '\x00' ∉ path.toList := by
  obtain ⟨loc, bytes, hr, -⟩ := isFile_iff.1 h
  exact (resolveWith_eq_ok.1 hr).1

theorem ne_empty_of_isFile (h : t.isFile path = true) : path ≠ "" := by
  obtain ⟨loc, bytes, hr, -⟩ := isFile_iff.1 h
  exact (resolveWith_eq_ok.1 hr).2.1

theorem size_of_isFile (h : t.isFile path = true) : path.utf8ByteSize ≤ maxPath := by
  obtain ⟨loc, bytes, hr, -⟩ := isFile_iff.1 h
  exact (resolveWith_eq_ok.1 hr).2.2.1

/-- No path to a file ends in a step that stays. -/
theorem getLast?_of_isFile (h : t.isFile path = true) : (stepsOf path).getLast? ≠ some .here := by
  intro hlast
  obtain ⟨loc, bytes, hr, hg⟩ := isFile_iff.1 h
  obtain ⟨-, -, -, hwalk⟩ := resolveWith_eq_ok.1 hr
  rw [walk_isDir hlast hwalk] at hg
  cases hg

/-- A file is there under every path that has the same steps but those that stay, if it can be a path
at all. -/
theorem isFile_of_direct (h : t.isFile path = true) {other : String}
    (habs : Path.isAbsolute other = Path.isAbsolute path)
    (hsteps : direct (stepsOf other) = direct (stepsOf path)) (hnul : '\x00' ∉ other.toList)
    (hne : other ≠ "") (hsize : other.utf8ByteSize ≤ maxPath) : t.isFile other = true := by
  obtain ⟨loc, bytes, hr, hg⟩ := isFile_iff.1 h
  obtain ⟨-, -, -, hwalk⟩ := resolveWith_eq_ok.1 hr
  refine isFile_iff.2 ⟨loc, bytes, resolveWith_eq_ok.2 ⟨hnul, hne, hsize, ?_⟩, hg⟩
  rw [habs, walk_congr hsteps, hwalk]

end

end BuildGate.FileTree
