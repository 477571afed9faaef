import BuildGate.Proofs.Matches
import BuildGate.Slice

/-!
# No match is passed over

A search for every match takes at each turn the preferred match with the least start, and goes on
where that match ends. So the only places at which a pattern matches and no match begins are those
within a match, and the end of a match where the preferred match takes no character.

Each turn takes a character or is the last one without one at its place, which `Pattern.turnsLeft`
counts. A search that may take so many turns is not broken off.

**Results.**
* `Cursor.Reaches.exists_part`: what lies between two places is a part of the text.
* `Pattern.findFrom_least`: a search for one match passes over no place at which the pattern matches.
* `Pattern.mem_findAll`: what is found begins in the text and has the preferred end.
* `Pattern.findAll_apart`: a match ends before the next one begins.
* `Pattern.findAll_covers`: every place at which the pattern matches is accounted for by a match.
* `Pattern.head?_findAll`: the first of all matches is what a search for one match finds.
-/
namespace BuildGate

open Slice (bytes length_bytes_cons)

namespace Cursor

variable {c d e : Cursor}

/-- What is taken is the first character of what is left, and its bytes are counted. -/
theorem rest_of_next {x : Char} (h : c.next? = some (x, d)) :
    c.rest = x :: d.rest ∧ d.offset = c.offset + x.utf8Size := by
  unfold next? at h
  split at h
  · cases h
  next hc =>
    cases h
    exact ⟨hc, rfl⟩

namespace Reaches

/-- Of two places behind one place the one with the greater offset is behind the other. -/
theorem of_offset_le (hd : Reaches c d) (he : Reaches c e) (hle : d.offset ≤ e.offset) :
    Reaches d e := by
  induction hd with
  | refl => exact he
  | @take c next d x hn hd ih =>
    cases he with
    | refl =>
      have := offset_next hn
      have := hd.offset_le
      omega
    | @take _ next' _ x' hn' he =>
      rw [hn] at hn'
      cases hn'
      exact ih he hle

/-- What lies between two places is a part of the text, and the offsets differ by its bytes. -/
theorem exists_part (h : Reaches c d) : ∃ part, c.rest = part ++ d.rest ∧
    d.offset = c.offset + (bytes part).length ∧ c.upTo d = part := by
  suffices hpart : ∃ part, c.rest = part ++ d.rest ∧ d.offset = c.offset + (bytes part).length by
    obtain ⟨part, hrest, hoffset⟩ := hpart
    exact ⟨part, hrest, hoffset, by simp [upTo, hrest]⟩
  induction h with
  | refl c => exact ⟨[], rfl, rfl⟩
  | @take c next d x hn hr ih =>
    obtain ⟨part, hrest, hoffset⟩ := ih
    obtain ⟨hc, hnext⟩ := rest_of_next hn
    refine ⟨x :: part, by rw [hc, List.cons_append, ← hrest], ?_⟩
    rw [hoffset, hnext, length_bytes_cons]
    exact Nat.add_assoc ..

/-- Every beginning of what is left of a text leads to a place. -/
theorem exists_of_rest (part : List Char) : ∀ {c : Cursor} {rest : List Char},
    c.rest = part ++ rest → ∃ d, Reaches c d ∧ d.rest = rest ∧
      d.offset = c.offset + (bytes part).length := by
  induction part with
  | nil => exact fun h => ⟨_, .refl _, h, rfl⟩
  | cons x part ih =>
    intro c rest h
    have hnext : c.next? = some (x, ⟨c.offset + x.utf8Size, some x, part ++ rest⟩) := by
      rw [next?, h]
      rfl
    obtain ⟨d, hd, hrest, hoffset⟩ := ih (c := ⟨c.offset + x.utf8Size, some x, part ++ rest⟩) rfl
    refine ⟨d, .take hnext hd, hrest, ?_⟩
    rw [hoffset, length_bytes_cons]
    exact Nat.add_assoc ..

theorem eq_of_rest (h : Reaches c d) (hrest : c.rest = d.rest) : c = d := by
  obtain ⟨part, hpart, hoffset, -⟩ := h.exists_part
  obtain rfl : part = [] := List.append_left_eq_self.1 (hpart.symm.trans hrest)
  exact h.eq_of_offset hoffset.symm

/-- Two places of one text with as much left are the same. -/
theorem unique (hd : Reaches c d) (he : Reaches c e) (hrest : d.rest = e.rest) : d = e := by
  rcases Nat.le_total d.offset e.offset with hle | hle
  · exact (hd.of_offset_le he hle).eq_of_rest hrest
  · exact ((he.of_offset_le hd hle).eq_of_rest hrest.symm).symm

end Reaches

theorem next?_eq_some {x : Char} : c.next? = some (x, d) ↔ Reaches c d ∧ c.rest = x :: d.rest := by
  constructor
  · exact fun h => ⟨.take h (.refl d), (rest_of_next h).1⟩
  · rintro ⟨hd, hx⟩
    cases hd with
    | refl => exact absurd hx.symm (List.cons_ne_self _ _)
    | @take _ e _ y hn he =>
      obtain ⟨rfl, hsame⟩ := List.cons.inj ((rest_of_next hn).1.symm.trans hx)
      rw [hn, he.eq_of_rest hsame]

end Cursor

open Cursor (Reaches)

namespace Pattern

variable {p : Pattern} {c d : Cursor} {s : Span}

/-! ## One match -/

/-- A search passes over no place at which the pattern matches: such a place is not before the match
that is found, and there is none if nothing is found. -/
theorem findFrom_least (hd : Reaches c d) (h : ∀ s, p.findFrom c = some s → d.offset < s.first.offset) :
    p.ends d = [] := by
  obtain ⟨offset, before, cs⟩ := c
  induction cs generalizing offset before with
  | nil =>
    cases hd with
    | take hn => cases hn
    | refl =>
      cases hends : p.ends ⟨offset, before, []⟩ with
      | nil => rfl
      | cons e es => exact absurd (h _ (findFrom_of_ends (by rw [hends]; rfl))) (Nat.lt_irrefl _)
  | cons x rest ih =>
    cases hends : p.ends ⟨offset, before, x :: rest⟩ with
    | nil =>
      cases hd with
      | refl => exact hends
      | take hn hd =>
        cases hn
        refine ih _ _ hd fun s hs => h s ?_
        rw [← hs]
        simp only [findFrom]
        rw [search, hends]
        rfl
    | cons e es =>
      -- The search ends at once, and no place is before its start.
      have hlt := h _ (findFrom_of_ends (by rw [hends]; rfl))
      have hle := hd.offset_le
      exact absurd hlt (Nat.not_lt.2 hle)

/-! ## Every match -/

/-- What a search for every match finds begins behind the start of the search, and has the preferred
end. -/
theorem mem_findAllFrom {fuel : Nat} {lastEnd : Option Nat} (h : s ∈ p.findAllFrom fuel c lastEnd) :
    Reaches c s.first ∧ (p.ends s.first).head? = some s.last := by
  induction fuel generalizing c lastEnd with
  | zero => cases h
  | succ n ih =>
    unfold findAllFrom at h
    split at h
    · cases h
    next m hm =>
      obtain ⟨hfirst, hlast⟩ := findFrom_reached hm
      split at h
      · split at h
        · cases h
        next x d hn =>
          obtain ⟨hd, hends⟩ := ih h
          exact ⟨.take hn hd, hends⟩
      · rcases List.mem_cons.1 h with rfl | h
        · exact ⟨hfirst, hlast⟩
        · obtain ⟨hd, hends⟩ := ih h
          exact ⟨(hfirst.trans (Span.last_of_findFrom hm)).trans hd, hends⟩

theorem mem_findAll {text : List Char} (h : s ∈ p.findAll text) :
    Reaches (.start text) s.first ∧ (p.ends s.first).head? = some s.last :=
  mem_findAllFrom h

/-- A match ends before the next one begins, or where it begins. -/
theorem findAllFrom_apart (p : Pattern) (fuel : Nat) (c : Cursor) (lastEnd : Option Nat) :
    (p.findAllFrom fuel c lastEnd).Pairwise fun a b => a.last.offset ≤ b.first.offset := by
  induction fuel generalizing c lastEnd with
  | zero => exact .nil
  | succ n ih =>
    unfold findAllFrom
    split
    · exact .nil
    · split
      · split
        · exact .nil
        · exact ih _ _
      · exact .cons (fun s hs => le_of_mem_findAllFrom hs) (ih _ _)

theorem findAll_apart (p : Pattern) (text : List Char) :
    (p.findAll text).Pairwise fun a b => a.last.offset ≤ b.first.offset :=
  findAllFrom_apart p _ _ _

/-- The first of all matches is what a search for one match finds. -/
theorem head?_findAll (p : Pattern) (text : List Char) : (p.findAll text).head? = p.find text := by
  unfold findAll find findAllFrom
  cases p.findFrom (.start text) with
  | none => rfl
  | some m => simp

/-- How many turns a search for every match may take from a place on: two for each place, of which
the first one at this place is spent if the last match ended here. -/
def turnsLeft (c : Cursor) (lastEnd : Option Nat) : Nat :=
  2 * c.rest.length + if lastEnd = some c.offset then 1 else 2

/-- A place `d` at which a pattern matches up to `e` is accounted for by `m`: it begins there, or
reaches beyond it, or ends there while the pattern takes no character. -/
structure Span.Covers (m : Span) (d e : Cursor) : Prop where
  begun : m.first.offset ≤ d.offset
  reaches : d = m.first ∨ d.offset < m.last.offset ∨ d = m.last ∧ e = d

theorem turnsLeft_next {x : Char} {lastEnd : Option Nat} (hn : c.next? = some (x, d))
    (h : lastEnd = some c.offset) : turnsLeft d lastEnd < turnsLeft c lastEnd := by
  have hlt := Cursor.offset_next hn
  have hlen : c.rest.length = d.rest.length + 1 := by
    rw [(Cursor.rest_of_next hn).1, List.length_cons]
  have hne : lastEnd ≠ some d.offset := by
    rw [h, ne_eq, Option.some_inj]
    omega
  rw [turnsLeft, turnsLeft, if_pos h, if_neg hne, hlen]
  omega

theorem turnsLeft_last {lastEnd : Option Nat} (hd : Reaches c d)
    (h : c.offset = d.offset → lastEnd ≠ some c.offset) :
    turnsLeft d (some d.offset) < turnsLeft c lastEnd := by
  obtain ⟨part, hrest, hoffset, -⟩ := hd.exists_part
  rw [turnsLeft, turnsLeft, if_pos rfl, hrest, List.length_append]
  cases part with
  | nil =>
    rw [if_neg (h hoffset.symm)]
    simp
  | cons x part =>
    rw [List.length_cons]
    split <;> omega

/-- Every place behind the start of a search at which the pattern matches is accounted for, unless it
is the start, the last match ended there, and the pattern takes no character there. -/
theorem findAllFrom_covers {fuel : Nat} {lastEnd : Option Nat} {e : Cursor}
    (hfuel : turnsLeft c lastEnd ≤ fuel) (hend : ∀ n, lastEnd = some n → n ≤ c.offset)
    (hd : Reaches c d) (he : (p.ends d).head? = some e) :
    (∃ m ∈ p.findAllFrom fuel c lastEnd, m.Covers d e) ∨
      (d = c ∧ e = d ∧ lastEnd = some c.offset) := by
  induction fuel generalizing c lastEnd with
  | zero =>
    unfold turnsLeft at hfuel
    split at hfuel <;> omega
  | succ n ih =>
    have hmatches : p.ends d ≠ [] := fun h => by rw [h] at he; cases he
    unfold findAllFrom
    cases hm : p.findFrom c with
    | none => exact absurd (findFrom_least hd fun s hs => by rw [hm] at hs; cases hs) hmatches
    | some m =>
      obtain ⟨hfirst, hlast⟩ := findFrom_reached hm
      have hml := Span.last_of_findFrom hm
      have hbegun : m.first.offset ≤ d.offset := Nat.le_of_not_lt fun hlt =>
        hmatches (findFrom_least hd fun s hs => by rw [hm] at hs; cases hs; exact hlt)
      by_cases hskip : (m.isEmpty && lastEnd == some m.last.offset) = true
      · -- The match is passed over, so it lies where the search starts.
        rw [Bool.and_eq_true, Span.isEmpty, beq_iff_eq, beq_iff_eq] at hskip
        obtain ⟨hempty, hspent⟩ := hskip
        have hle := hend _ hspent
        have hge := hfirst.offset_le
        obtain rfl := hfirst.eq_of_offset (by omega)
        cases hd with
        | refl =>
          rw [hlast] at he
          cases he
          exact .inr ⟨rfl, (hml.eq_of_offset hempty).symm, by rw [hspent, hempty]⟩
        | @take _ next _ x hn hd =>
          have hlt := Cursor.offset_next hn
          have hturns := turnsLeft_next hn (hspent.trans (by rw [hempty]))
          simp only [Span.isEmpty, hempty, hspent, beq_self_eq_true, Bool.and_self, if_true, hn]
          rw [← hspent]
          rcases ih (by omega) (fun k hk => Nat.le_trans (hend k hk) (Nat.le_of_lt hlt)) hd with h | ⟨-, -, h⟩
          · exact .inl h
          · rw [hspent, Option.some_inj] at h
            omega
      · simp only [hskip]
        left
        by_cases hin : d = m.first ∨ d.offset < m.last.offset
        · exact ⟨m, List.mem_cons_self, hbegun, hin.elim .inl fun h => .inr (.inl h)⟩
        · rw [not_or] at hin
          have hdl : Reaches m.last d := (hfirst.trans hml).of_offset_le hd (by omega)
          have hturns : turnsLeft m.last (some m.last.offset) < turnsLeft c lastEnd := by
            refine turnsLeft_last (hfirst.trans hml) fun hsame hspent => hskip ?_
            have := hfirst.offset_le
            have := hml.offset_le
            rw [Bool.and_eq_true, Span.isEmpty, beq_iff_eq, beq_iff_eq, hspent, Option.some_inj]
            omega
          have hfuel' := Nat.le_of_lt_succ (Nat.lt_of_lt_of_le hturns hfuel)
          rcases ih hfuel' (fun k hk => by cases hk; exact Nat.le_refl _) hdl with
            ⟨m', hm', hcovers⟩ | ⟨hdm, hed, -⟩
          · exact ⟨m', List.mem_cons_of_mem _ hm', hcovers⟩
          · exact ⟨m, List.mem_cons_self, hbegun, .inr (.inr ⟨hdm, hed⟩)⟩

theorem findAll_covers {text : List Char} {e : Cursor} (hd : Reaches (.start text) d)
    (he : (p.ends d).head? = some e) : ∃ m ∈ p.findAll text, m.Covers d e := by
  have hfuel : turnsLeft (.start text) none ≤ 2 * text.length + 2 := Nat.le_refl _
  rcases findAllFrom_covers hfuel (fun n h => by cases h) hd he with h | ⟨-, -, h⟩
  · exact h
  · cases h

end Pattern

end BuildGate
