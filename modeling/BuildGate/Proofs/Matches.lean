import BuildGate.Scan

/-!
# Where the matches of a pattern lie

A match is found by taking characters: `Cursor.Reaches c d` says that `d` comes after `c` when
some characters are taken. Offsets count the bytes taken, so two places that reach each other and
have one offset are the same place.

A search for every match goes on at the end of the last match, and takes one character if that match
was empty. So the matches of one rule stand in a text in strictly ascending order, whatever the
pattern is, and none of them is found twice.

**Results.**
* `Pattern.ends_reached`: a match ends where characters from its start lead.
* `Pattern.findAll_ascending`: each match starts after the start of the one before it.
* `Rule.hits_ascending`: the matches of a rule are listed by offset, none twice.
-/
namespace BuildGate

namespace Cursor

/-- `Reaches c d`: some characters are taken between `c` and `d`. -/
inductive Reaches : Cursor → Cursor → Prop where
  | refl (c : Cursor) : Reaches c c
  | take {c d e : Cursor} {x : Char} : c.next? = some (x, d) → Reaches d e → Reaches c e

theorem offset_next {c d : Cursor} {x : Char} (h : c.next? = some (x, d)) : c.offset < d.offset := by
  unfold next? at h
  split at h
  · cases h
  · cases h
    have := Char.utf8Size_pos x
    simp only; omega

namespace Reaches

theorem trans {c d e : Cursor} (h : Reaches c d) (h' : Reaches d e) : Reaches c e := by
  induction h with
  | refl => exact h'
  | take hn _ ih => exact .take hn (ih h')

theorem offset_le {c d : Cursor} (h : Reaches c d) : c.offset ≤ d.offset := by
  induction h with
  | refl => exact Nat.le_refl _
  | take hn _ ih => have := offset_next hn; omega

theorem eq_of_offset {c d : Cursor} (h : Reaches c d) (ho : c.offset = d.offset) : c = d := by
  cases h with
  | refl => rfl
  | take hn hr => have := offset_next hn; have := hr.offset_le; omega

end Reaches

end Cursor

open Cursor (Reaches)

namespace Pattern

/-! ## Ends of a match -/

section
variable {body : Cursor → List Cursor} (hb : ∀ c, ∀ d ∈ body c, Reaches c d) (greedy : Bool)
  {start : Cursor}

include hb

/-- Rounds of a body only add ends that their place reaches. -/
theorem rounds_reached (fuel : Nat) : ∀ (c : Cursor) (r : Rounds), Reaches start c →
    (∀ d ∈ r.ends, Reaches start d) → ∀ d ∈ (rounds body greedy fuel c r).ends, Reaches start d := by
  induction fuel with
  | zero => intro c r _ hr; exact hr
  | succ n ih =>
    intro c r hc hr
    unfold rounds
    split
    · exact hr
    · refine List.foldlRecOn (motive := fun r : Rounds => ∀ d ∈ r.ends, Reaches start d) _ _ hr ?_
      intro r hr d hd
      have hsd := hc.trans (hb c d hd)
      dsimp only
      split
      · exact hr
      · split
        · intro e he
          rcases List.mem_cons.1 he with rfl | he
          · exact hsd
          · exact ih d { r with passed := r.passed.insert d.offset } hsd hr e he
        · refine ih d _ hsd fun e he => ?_
          rcases List.mem_cons.1 he with rfl | he
          · exact hsd
          · exact hr e he

theorem oneOrMore_reached {cs : List Cursor} (hcs : ∀ c ∈ cs, Reaches start c) :
    ∀ d ∈ oneOrMore body greedy cs, Reaches start d := by
  intro d hd
  refine List.foldlRecOn (motive := fun r : Rounds => ∀ d ∈ r.ends, Reaches start d) cs _
    (by simp) ?_ d (List.mem_reverse.1 hd)
  intro r hr c hc
  exact rounds_reached hb greedy _ c r (hcs c hc) hr

theorem upToRounds_reached (left : Nat) : ∀ (c : Cursor) (r : BoundedRounds), Reaches start c →
    (∀ d ∈ r.ends, Reaches start d) →
    ∀ d ∈ (upToRounds body greedy left c r).ends, Reaches start d := by
  induction left with
  | zero =>
    intro c r hc hr d hd
    rcases List.mem_cons.1 hd with rfl | hd
    · exact hc
    · exact hr d hd
  | succ n ih =>
    intro c r hc hr
    have step : ∀ r : BoundedRounds, (∀ d ∈ r.ends, Reaches start d) →
        ∀ d ∈ ((body c).foldl (fun r d => upToRounds body greedy n d r) r).ends,
          Reaches start d := by
      intro r hr
      refine List.foldlRecOn (motive := fun r : BoundedRounds => ∀ d ∈ r.ends, Reaches start d)
        _ _ hr ?_
      intro r hr d hd
      exact ih d r (hc.trans (hb c d hd)) hr
    unfold upToRounds
    split
    · exact hr
    · dsimp only
      split
      · intro d hd
        rcases List.mem_cons.1 hd with rfl | hd
        · exact hc
        · exact step { r with reached := r.reached.insert (n, c.offset) } hr d hd
      · refine step _ fun d hd => ?_
        rcases List.mem_cons.1 hd with rfl | hd
        · exact hc
        · exact hr d hd

theorem atMost_reached (left : Nat) {cs : List Cursor} (hcs : ∀ c ∈ cs, Reaches start c) :
    ∀ d ∈ atMost body greedy left cs, Reaches start d := by
  intro d hd
  refine List.foldlRecOn (motive := fun r : BoundedRounds => ∀ d ∈ r.ends, Reaches start d) cs _
    (by simp) ?_ d (List.mem_reverse.1 (mem_of_mem_distinct hd))
  intro r hr c hc
  exact upToRounds_reached hb greedy left c r (hcs c hc) hr

theorem exactly_reached (n : Nat) : ∀ {cs : List Cursor}, (∀ c ∈ cs, Reaches start c) →
    ∀ d ∈ exactly body n cs, Reaches start d := by
  induction n with
  | zero => intro cs hcs; exact hcs
  | succ n ih =>
    intro cs hcs
    unfold exactly
    split
    · simp
    · refine ih fun d hd => ?_
      obtain ⟨c, hc, hd⟩ := List.mem_flatMap.1 (mem_of_mem_distinct hd)
      exact (hcs c hc).trans (hb c d hd)

theorem repeats_reached (min : Nat) (max : Option Nat) (c : Cursor) :
    ∀ d ∈ repeats body min max greedy c, Reaches c d := by
  have hc : ∀ d ∈ [c], Reaches c d := by simp [Reaches.refl]
  unfold repeats
  split
  · exact atMost_reached hb greedy _ (exactly_reached hb min hc)
  · intro d hd
    have hd := mem_of_mem_distinct hd
    have hmore := oneOrMore_reached hb greedy hc
    split at hd
    · rcases List.mem_append.1 hd with hd | hd
      · exact hmore d hd
      · exact hc d hd
    · rcases List.mem_cons.1 hd with rfl | hd
      · exact .refl _
      · exact hmore d hd
  · exact oneOrMore_reached hb greedy (exactly_reached hb _ hc)

end

/-- A match ends where characters from its start lead. -/
theorem ends_reached (p : Pattern) : ∀ (c : Cursor), ∀ d ∈ p.ends c, Reaches c d := by
  induction p with
  | empty => intro c d hd; rw [ends, List.mem_singleton] at hd; rw [hd]; exact .refl c
  | set s =>
    intro c d hd
    unfold ends at hd
    split at hd
    · rename_i x e hn
      split at hd
      · rw [List.mem_singleton] at hd; rw [hd]; exact .take hn (.refl e)
      · simp at hd
    · simp at hd
  | look l =>
    intro c d hd
    unfold ends at hd
    split at hd
    · rw [List.mem_singleton] at hd; rw [hd]; exact .refl c
    · simp at hd
  | seq p q ihp ihq =>
    intro c d hd
    obtain ⟨e, he, hd⟩ := List.mem_flatMap.1 (mem_of_mem_distinct hd)
    exact (ihp c e he).trans (ihq e d hd)
  | alt p q ihp ihq =>
    intro c d hd
    rcases List.mem_append.1 hd with hd | hd
    · exact ihp c d hd
    · exact ihq c d hd
  | rep min max greedy p ih => intro c; exact repeats_reached ih greedy min max c
  | group p ih => exact ih

/-! ## Searching -/

/-- What a search from a place finds: a start that the place reaches, and the preferred end there. -/
theorem findFrom_reached {p : Pattern} {c : Cursor} {s : Span} (h : p.findFrom c = some s) :
    Reaches c s.first ∧ (p.ends s.first).head? = some s.last := by
  obtain ⟨offset, before, cs⟩ := c
  unfold findFrom at h
  simp only at h
  induction cs generalizing offset before with
  | nil =>
    unfold search at h
    obtain ⟨e, he, rfl⟩ := Option.map_eq_some_iff.1 h
    exact ⟨.refl _, he⟩
  | cons x rest ih =>
    unfold search at h
    split at h
    · rename_i e he
      cases h
      exact ⟨.refl _, he⟩
    · obtain ⟨hr, he⟩ := ih _ _ h
      exact ⟨.take rfl hr, he⟩

/-- A pattern that matches at a place is found there. -/
theorem findFrom_of_ends {p : Pattern} {c e : Cursor} (h : (p.ends c).head? = some e) :
    p.findFrom c = some ⟨c, e⟩ := by
  obtain ⟨offset, before, cs⟩ := c
  unfold findFrom
  cases cs with
  | nil => simp [search, h]
  | cons x rest => simp [search, h]

theorem Span.last_of_findFrom {p : Pattern} {c : Cursor} {s : Span} (h : p.findFrom c = some s) :
    Reaches s.first s.last :=
  ends_reached p _ _ (List.mem_of_mem_head? (findFrom_reached h).2)

/-- No match is found before the place where the search starts. -/
theorem le_of_mem_findAllFrom {p : Pattern} {fuel : Nat} {c : Cursor} {lastEnd : Option Nat}
    {s : Span} (h : s ∈ p.findAllFrom fuel c lastEnd) : c.offset ≤ s.first.offset := by
  induction fuel generalizing c lastEnd with
  | zero => simp [findAllFrom] at h
  | succ n ih =>
    unfold findAllFrom at h
    split at h
    · simp at h
    · rename_i m hm
      split at h
      · split at h
        · simp at h
        · rename_i x d hn
          have := Cursor.offset_next hn
          have := ih h
          omega
      · rcases List.mem_cons.1 h with rfl | h
        · exact (findFrom_reached hm).1.offset_le
        · have := (findFrom_reached hm).1.offset_le
          have := (Span.last_of_findFrom hm).offset_le
          have := ih h
          omega

/-- After an empty match the search goes on past it. -/
theorem lt_of_mem_findAllFrom {p : Pattern} {fuel : Nat} {c : Cursor} {s : Span}
    (he : (p.ends c).head? = some c) (h : s ∈ p.findAllFrom fuel c (some c.offset)) :
    c.offset < s.first.offset := by
  cases fuel with
  | zero => simp [findAllFrom] at h
  | succ n =>
    unfold findAllFrom at h
    rw [findFrom_of_ends he] at h
    simp only [Span.isEmpty, beq_self_eq_true, Bool.and_self, if_true] at h
    split at h
    · simp at h
    · rename_i x d hn
      have := Cursor.offset_next hn
      have := le_of_mem_findAllFrom h
      omega

theorem findAllFrom_ascending (p : Pattern) (fuel : Nat) (c : Cursor) (lastEnd : Option Nat) :
    (p.findAllFrom fuel c lastEnd).Pairwise fun a b => a.first.offset < b.first.offset := by
  induction fuel generalizing c lastEnd with
  | zero => simp [findAllFrom]
  | succ n ih =>
    unfold findAllFrom
    split
    · exact .nil
    · rename_i m hm
      split
      · split
        · exact .nil
        · exact ih _ _
      · refine .cons (fun s hs => ?_) (ih _ _)
        have hml := Span.last_of_findFrom hm
        -- An empty match ends where it starts, and only then does the offset alone not tell.
        rcases Nat.eq_or_lt_of_le hml.offset_le with heq | hlt
        · have hend := (findFrom_reached hm).2
          rw [← hml.eq_of_offset heq] at hend hs
          exact lt_of_mem_findAllFrom hend hs
        · have := le_of_mem_findAllFrom hs
          omega

/-- Each match starts after the start of the one before it. -/
theorem findAll_ascending (p : Pattern) (text : List Char) :
    (p.findAll text).Pairwise fun a b => a.first.offset < b.first.offset :=
  findAllFrom_ascending p _ _ _

end Pattern

/-- The matches of a rule are listed by offset, none twice. -/
theorem Rule.hits_ascending (r : Rule) (mode : ScanMode) (text : String) :
    (r.hits mode text).Pairwise fun a b => a.offset < b.offset := by
  unfold Rule.hits
  rw [List.pairwise_map]
  cases mode with
  | firstMatch =>
    simp only [Rule.spans]
    cases r.pattern.find text.toList <;> simp
  | allOccurrences => exact Pattern.findAll_ascending r.pattern text.toList

end BuildGate
