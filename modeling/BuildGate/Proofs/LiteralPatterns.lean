import BuildGate.Glob.Include
import BuildGate.Proofs.PathTexts

/-!
# Patterns that stand for a text

An escaped text is a pattern for that text alone: each character that is an operator becomes a class
of its own. Where a text has none of the characters that begin an operator, the text itself is such
a pattern. What is read of either does not depend on what stands behind it.

**Results.**
* `accepts_literalTokens`: the tokens of an escaped text match that text and no other.
* `read_escapeChars`, `read_plain`: what is read of an escaped text and of a text without operators.
* `accepts_many_chars`: a star before a text matches the names that end in it.
-/
namespace BuildGate.Glob.Include

/-- `c` begins no operator. -/
def Plain (c : Char) : Prop := c ∉ "?*[".toList

instance (c : Char) : Decidable (Plain c) := inferInstanceAs (Decidable (¬ _))

theorem plain_of_all {cs : List Char} (h : cs.all (fun c => decide (Plain c)) = true) :
    ∀ c ∈ cs, Plain c := fun c hc => of_decide_eq_true (List.all_eq_true.1 h c hc)

/-- The token by which the escaped character `c` is matched. -/
def literalToken (c : Char) : Include :=
  if "?*[]".toList.contains c then .cls false [(c, c)] else .char c

theorem literalToken_ne_recursive (c : Char) : literalToken c ≠ .recursive := by
  unfold literalToken
  split <;> simp

def escapeChars (cs : List Char) : List Char :=
  cs.flatMap fun c => if "?*[]".toList.contains c then ['[', c, ']'] else [c]

theorem toList_escape (s : String) : (escape s).toList = escapeChars s.toList := by
  simp [escape, escapeChars]

/-! ## What such tokens match -/

theorem accepts_literalToken (c : Char) (ts : List Include) (name : List Char) :
    accepts (literalToken c :: ts) name = true ↔
      ∃ rest, name = c :: rest ∧ accepts ts rest = true := by
  unfold literalToken
  cases name with
  | nil => split <;> simp [accepts]
  | cons d rest =>
    have hc : (c ≤ d ∧ d ≤ c) ↔ d = c := ⟨fun h => Char.le_antisymm h.2 h.1, by rintro rfl; simp⟩
    split <;> simp [accepts, hc, and_assoc]

theorem accepts_literalTokens (cs name : List Char) :
    accepts (cs.map literalToken) name = true ↔ name = cs := by
  induction cs generalizing name with
  | nil => simp [accepts]
  | cons c cs ih =>
    rw [List.map_cons, accepts_literalToken]
    constructor
    · rintro ⟨rest, rfl, h⟩
      rw [(ih rest).1 h]
    · rintro rfl
      exact ⟨cs, rfl, (ih cs).2 rfl⟩

theorem accepts_chars (cs name : List Char) : accepts (cs.map .char) name = true ↔ name = cs := by
  induction cs generalizing name with
  | nil => simp [accepts]
  | cons c cs ih =>
    cases name with
    | nil => simp [accepts]
    | cons d rest => simp [accepts, ih]

theorem accepts_many_chars (cs name : List Char) :
    accepts (.many :: cs.map .char) name = true ↔ cs <:+ name := by
  induction name with
  | nil =>
    rw [accepts, accepts_chars, List.suffix_nil, eq_comm]
  | cons d rest ih =>
    rw [accepts, Bool.or_eq_true, accepts_chars, ih, List.suffix_cons_iff, eq_comm]

theorem literal?_chars (cs : List Char) : literal? (cs.map .char) = some cs := by
  induction cs with
  | nil => rfl
  | cons c cs ih => simp [literal?, ih]

/-- Tokens of an escaped text are those of the text itself or stand for no text. -/
theorem literal?_literalTokens (cs : List Char) :
    cs.map literalToken = cs.map .char ∨ literal? (cs.map literalToken) = none := by
  induction cs with
  | nil => exact .inl rfl
  | cons c cs ih =>
    by_cases hc : "?*[]".toList.contains c = true
    · refine .inr ?_
      rw [List.map_cons, literalToken, if_pos hc]
      rfl
    · have htoken : literalToken c = .char c := if_neg hc
      rcases ih with ih | ih
      · exact .inl (by rw [List.map_cons, List.map_cons, htoken, ih])
      · exact .inr (by rw [List.map_cons, htoken, literal?, ih]; rfl)

/-! ## Reading -/

theorem bind_cons_eq_map {ε α : Type} (x : Except ε (List α)) (a : α) :
    (do return a :: (← x)) = x.map (a :: ·) := by
  cases x <;> rfl

theorem readTokens_plain_cons {c : Char} (hc : Plain c) (fuel pos : Nat) (before : Option Char)
    (rest : List Char) :
    readTokens (fuel + 1) pos before (c :: rest) =
      (readTokens fuel (pos + 1) (some c) rest).map (.char c :: ·) := by
  rw [readTokens]
  · exact bind_cons_eq_map _ _
  all_goals
    rintro rfl
    exact absurd hc (by decide)

theorem readClass_escaped {c : Char} (hc : "?*[]".toList.contains c = true) (rest : List Char) :
    readClass (c :: ']' :: rest) = some (.cls false [(c, c)], rest) := by
  have hne : c ≠ '!' := by rintro rfl; simp at hc
  unfold readClass
  split
  rename_i heq
  split at heq
  · rename_i h
    exact absurd (List.cons.inj h).1 hne
  · cases heq
    simp [rangesOf]

theorem readTokens_escaped_cons {c : Char} (hc : "?*[]".toList.contains c = true) (fuel pos : Nat)
    (before : Option Char) (rest : List Char) :
    ∃ pos', readTokens (fuel + 1) pos before ('[' :: c :: ']' :: rest) =
      (readTokens fuel pos' (some ']') rest).map (.cls false [(c, c)] :: ·) := by
  refine ⟨pos + (1 + ((c :: ']' :: rest).length - rest.length)), ?_⟩
  rw [readTokens]
  simp only [readClass_escaped hc]
  exact bind_cons_eq_map _ _

/-- A text without operators is read as its characters, whatever follows. -/
theorem readTokens_plain {cs : List Char} (h : ∀ c ∈ cs, Plain c) (fuel pos : Nat)
    (before : Option Char) (rest : List Char) :
    readTokens (fuel + cs.length) pos before (cs ++ rest) =
      (readTokens fuel (pos + cs.length) (cs.getLast?.or before) rest).map
        (cs.map .char ++ ·) := by
  induction cs generalizing pos before with
  | nil => cases hr : readTokens fuel pos before rest <;> simp [hr, Except.map]
  | cons c cs ih =>
    have hlast : (c :: cs).getLast?.or before = cs.getLast?.or (some c) := by
      cases hl : cs.getLast? <;> simp [List.getLast?_cons, hl]
    rw [List.length_cons, ← Nat.add_assoc, List.cons_append,
      readTokens_plain_cons (h c List.mem_cons_self),
      ih (fun d hd => h d (List.mem_cons_of_mem _ hd)), hlast,
      show pos + 1 + cs.length = pos + (cs.length + 1) by omega]
    cases readTokens fuel (pos + (cs.length + 1)) (cs.getLast?.or (some c)) rest <;> rfl

/-- So is an escaped text, as the tokens that stand for it. -/
theorem readTokens_escapeChars (cs : List Char) (fuel pos : Nat) (before : Option Char)
    (rest : List Char) :
    ∃ pos' before', readTokens (fuel + cs.length) pos before (escapeChars cs ++ rest) =
      (readTokens fuel pos' before' rest).map (cs.map literalToken ++ ·) := by
  induction cs generalizing pos before with
  | nil =>
    refine ⟨pos, before, ?_⟩
    cases hr : readTokens fuel pos before rest <;> simp [escapeChars, hr, Except.map]
  | cons c cs ih =>
    rw [List.length_cons, ← Nat.add_assoc]
    by_cases hc : "?*[]".toList.contains c = true
    · obtain ⟨pos₁, h₁⟩ := readTokens_escaped_cons hc (fuel + cs.length) pos before
        (escapeChars cs ++ rest)
      obtain ⟨pos₂, before₂, h₂⟩ := ih pos₁ (some ']')
      have hesc : escapeChars (c :: cs) ++ rest = '[' :: c :: ']' :: (escapeChars cs ++ rest) := by
        simp only [escapeChars, List.flatMap_cons, if_pos hc]
        rfl
      refine ⟨pos₂, before₂, ?_⟩
      rw [hesc, h₁, h₂, List.map_cons, literalToken, if_pos hc]
      cases readTokens fuel pos₂ before₂ rest <;> rfl
    · have hplain : Plain c := fun h => hc (List.contains_iff_mem.2 (List.mem_append_left [']'] h))
      obtain ⟨pos₂, before₂, h₂⟩ := ih (pos + 1) (some c)
      have hesc : escapeChars (c :: cs) ++ rest = c :: (escapeChars cs ++ rest) := by
        simp only [escapeChars, List.flatMap_cons, if_neg hc]
        rfl
      refine ⟨pos₂, before₂, ?_⟩
      rw [hesc, readTokens_plain_cons hplain, h₂, List.map_cons, literalToken, if_neg hc]
      cases readTokens fuel pos₂ before₂ rest <;> rfl

theorem readTokens_nil (fuel pos : Nat) (before : Option Char) :
    readTokens fuel pos before [] = .ok [] := by
  cases fuel <;> rfl

theorem read_plain {cs : List Char} (h : ∀ c ∈ cs, Plain c) :
    read (String.ofList cs) = .ok (cs.map .char) := by
  have hread := readTokens_plain h 1 0 none []
  rw [readTokens_nil, List.append_nil, Nat.add_comm] at hread
  simpa [read, Except.map] using hread

theorem length_le_escapeChars (cs : List Char) : cs.length ≤ (escapeChars cs).length := by
  induction cs with
  | nil => simp
  | cons c cs ih =>
    have happ : escapeChars (c :: cs) = escapeChars [c] ++ escapeChars cs := by
      simp [escapeChars]
    have hone : 1 ≤ (escapeChars [c]).length := by
      by_cases hc : "?*[]".toList.contains c = true
      · simp only [escapeChars, List.flatMap_cons, if_pos hc]; simp
      · simp only [escapeChars, List.flatMap_cons, if_neg hc]; simp
    rw [happ, List.length_append, List.length_cons]
    omega

theorem read_escapeChars (cs : List Char) :
    read (String.ofList (escapeChars cs)) = .ok (cs.map literalToken) := by
  obtain ⟨k, hk⟩ := Nat.exists_eq_add_of_le (length_le_escapeChars cs)
  obtain ⟨pos, before, hread⟩ := readTokens_escapeChars cs (k + 1) 0 none []
  rw [readTokens_nil, List.append_nil] at hread
  have hfuel : (escapeChars cs).length + 1 = k + 1 + cs.length := by omega
  simp only [read, String.toList_ofList, hfuel, hread, Except.map, List.append_nil]

end BuildGate.Glob.Include
