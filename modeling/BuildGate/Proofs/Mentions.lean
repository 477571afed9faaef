import BuildGate.Proofs.GivenOptions

/-!
# Mentioned options

What is mentioned on a command line is put on what was given before: an option that is counted counts
once more, and any other can be mentioned only once, with a value that fits. So what an option is given
in the end depends on what is mentioned, and for options that are not counted not on where.

**Results.**
* `Holds.put`, `Holds.puts`: what is given when more is mentioned.
* `Holds.puts_iff`: which mentions can be put together.
* `told_append`: what mentions in front and behind tell.
-/
namespace BuildGate.CommandLine

open FileTree (bind_eq_ok)

/-! ## What is mentioned -/

/-- An `option` that is mentioned, with the text of its `value`. -/
structure Mention where
  option : Opt
  value : Option String := none
  deriving Repr, DecidableEq

/-- What `value` gives the `option`, or that it is there if it takes none. -/
def Mention.given (m : Mention) : Except Refusal Given :=
  match m.option.shape, m.value with
  | .value _ kind, some x => kind.read x
  | .value _ _, none => .error .invalidValue
  | _, _ => .ok .flag

/-- The `option` can have the `value`. -/
def Mention.Sound (m : Mention) : Prop := ∃ x, m.given = .ok x

/-- How often `o` is mentioned in `ms`. -/
def times (o : Opt) (ms : List Mention) : Nat := ms.countP (·.option = o)

/-- Every option but the counted ones is mentioned at most once in `ms`. -/
def Once (ms : List Mention) : Prop := ∀ o, o.shape ≠ .count → times o ms ≤ 1

/-- What `ms` tell of `o`. -/
def told (o : Opt) (ms : List Mention) : Option Given :=
  if o.shape = .count then
    if times o ms = 0 then none else some (.times (min maxTimes (times o ms)))
  else (ms.find? (·.option = o)).bind (·.given.toOption)

/-- Puts the mention `m` on the options `g` that were given before. -/
def put (g : Options) (m : Mention) : Except Refusal Options :=
  if m.option.shape = .count then .ok (State.giveAgain { given := g } m.option).given
  else if (g.lookup m.option).isSome then .error .conflict
  else m.given.map fun x => g ++ [(m.option, x)]

/-- The options `g` are what `ms` tell. -/
structure Holds (g : Options) (ms : List Mention) : Prop where
  lookup : ∀ o, g.lookup o = told o ms
  sound : ∀ m ∈ ms, m.Sound
  once : Once ms

section
variable {g g' : Options} {ms ns : List Mention} {m : Mention} {o : Opt}

theorem times_append (o : Opt) (ms ns : List Mention) : times o (ms ++ ns) = times o ms + times o ns :=
  List.countP_append

theorem times_other (h : m.option ≠ o) : times o [m] = 0 := by simp [times, h]

theorem find?_of_times (h : times o ms = 0) : ms.find? (·.option = o) = none := by
  rw [List.find?_eq_none]
  exact List.countP_eq_zero.1 h

theorem told_of_times (h : times o ms = 0) : told o ms = none := by
  unfold told
  rw [find?_of_times h, h]
  simp

theorem told_of_count (ho : o.shape = .count) (ms : List Mention) : told o ms =
    if times o ms = 0 then none else some (.times (min maxTimes (times o ms))) := if_pos ho

/-- An option that is not counted is told of where it is mentioned. -/
theorem told_append (ho : o.shape ≠ .count) (honce : times o (ms ++ ns) ≤ 1) :
    told o (ms ++ ns) = (told o ns).or (told o ms) := by
  rw [times_append] at honce
  by_cases hms : times o ms = 0
  · rw [told_of_times hms, Option.or_none, told, told, if_neg ho, if_neg ho, List.find?_append,
      find?_of_times hms, Option.none_or]
  · have hns : times o ns = 0 := by omega
    rw [told_of_times hns, Option.none_or, told, told, if_neg ho, if_neg ho, List.find?_append,
      find?_of_times hns, Option.or_none]

theorem told_other (h : m.option ≠ o) : told o (ms ++ [m]) = told o ms := by
  unfold told
  rw [times_append, times_other h, List.find?_append, find?_of_times (times_other h)]
  simp

theorem Once.of_append (h : Once (ms ++ ns)) : Once ms := by
  intro o ho
  have hall := h o ho
  rw [times_append] at hall
  omega

theorem holds_nil : Holds [] [] :=
  ⟨fun _ => (told_of_times rfl).symm, fun _ h => absurd h List.not_mem_nil, fun _ _ => Nat.zero_le 1⟩

/-- An option is given as soon as it is mentioned. -/
theorem Holds.lookup_eq_none_iff (h : Holds g ms) : g.lookup o = none ↔ times o ms = 0 := by
  refine ⟨fun hnone => ?_, fun hzero => (h.lookup o).trans (told_of_times hzero)⟩
  rw [h.lookup o, told] at hnone
  split at hnone
  · split at hnone
    next hzero => exact hzero
    · cases hnone
  · refine List.countP_eq_zero.2 ?_
    cases hfind : ms.find? (·.option = o) with
    | none => exact List.find?_eq_none.1 hfind
    | some m =>
      obtain ⟨x, hx⟩ := h.sound m (List.mem_of_find?_eq_some hfind)
      rw [hfind, Option.bind_some, hx] at hnone
      cases hnone

theorem Holds.eq_nil_iff (h : Holds g ms) : g = [] ↔ ms = [] := by
  constructor
  · rintro rfl
    refine List.eq_nil_iff_forall_not_mem.2 fun m hm => ?_
    have hzero : times m.option ms = 0 := h.lookup_eq_none_iff.1 rfl
    exact List.countP_eq_zero.1 hzero m hm (decide_eq_true rfl)
  · rintro rfl
    cases g with
    | nil => rfl
    | cons x g =>
      have hnone : (x :: g).lookup x.1 = none := h.lookup_eq_none_iff.2 rfl
      rw [List.lookup_cons, beq_self_eq_true] at hnone
      cases hnone

/-- What is given is mentioned. -/
theorem Holds.mem {os : List Opt} (h : Holds g ms) (hms : ∀ m ∈ ms, m.option ∈ os) : ∀ x ∈ g, x.1 ∈ os := by
  intro x hx
  have hsome : g.lookup x.1 ≠ none :=
    Option.isSome_iff_ne_none.1 (List.lookup_isSome_iff.2 ⟨x, hx, beq_self_eq_true x.1⟩)
  have htimes : 0 < times x.1 ms := Nat.pos_of_ne_zero (mt h.lookup_eq_none_iff.2 hsome)
  obtain ⟨m, hm, heq⟩ := List.countP_pos_iff.1 htimes
  exact of_decide_eq_true heq ▸ hms m hm

/-! ## What is put together -/

theorem lookup_giveAgain (g : Options) (o o' : Opt) :
    (State.giveAgain { given := g } o).given.lookup o' =
      if o' = o then
        some (.times (match g.lookup o with
          | some (.times n) => min maxTimes (n + 1)
          | _ => 1))
      else g.lookup o' := by
  have hlookup : (g.filter (·.1 != o)).lookup o' = if o' != o then g.lookup o' else none :=
    FileTree.lookup_filter (· != o) g o'
  unfold State.giveAgain
  rw [List.lookup_append, hlookup]
  by_cases h : o' = o
  · subst h
    refine Eq.trans ?_ (if_pos rfl).symm
    rw [bne_self_eq_false, if_neg Bool.false_ne_true, Option.none_or]
    exact List.lookup_cons_self
  · simp [h, List.lookup_cons, beq_false_of_ne h]

theorem put_of_count (ho : m.option.shape = .count) (g : Options) :
    put g m = .ok (State.giveAgain { given := g } m.option).given := if_pos ho

theorem put_eq_ok_iff (ho : m.option.shape ≠ .count) :
    put g m = .ok g' ↔ g.lookup m.option = none ∧ ∃ x, m.given = .ok x ∧ g' = g ++ [(m.option, x)] := by
  rw [put, if_neg ho]
  cases g.lookup m.option with
  | some x => simp
  | none =>
    cases m.given with
    | error r => simp [Except.map]
    | ok x => simp [Except.map, eq_comm]

theorem Mention.sound_of_count (h : m.option.shape = .count) : m.Sound :=
  ⟨.flag, by rw [Mention.given, h]⟩

/-- An option that is counted counts once more. -/
theorem Holds.put_again (h : Holds g ms) (ho : m.option.shape = .count) :
    Holds (State.giveAgain { given := g } m.option).given (ms ++ [m]) where
  lookup o := by
    rw [lookup_giveAgain]
    by_cases heq : m.option = o
    · have hone : times o [m] = 1 := by simp [times, heq]
      subst heq
      rw [if_pos rfl, h.lookup, told_of_count ho, told_of_count ho, times_append, hone,
        if_neg (Nat.succ_ne_zero _)]
      by_cases hzero : times m.option ms = 0
      · rw [if_pos hzero, hzero]
        rfl
      · rw [if_neg hzero]
        dsimp only
        congr 2
        omega
    · rw [if_neg (Ne.symm heq), told_other heq]
      exact h.lookup o
  sound := List.forall_mem_append.2 ⟨h.sound, List.forall_mem_singleton.2 (Mention.sound_of_count ho)⟩
  once o ho' := by
    have hne : m.option ≠ o := fun heq => ho' (heq ▸ ho)
    rw [times_append, times_other hne]
    exact h.once o ho'

/-- An option that was not mentioned has the value that it is given. -/
theorem Holds.put_new {x : Given} (h : Holds g ms) (ho : m.option.shape ≠ .count)
    (hnone : g.lookup m.option = none) (hx : m.given = .ok x) :
    Holds (g ++ [(m.option, x)]) (ms ++ [m]) where
  lookup o := by
    by_cases heq : m.option = o
    · subst heq
      have hzero := h.lookup_eq_none_iff.1 hnone
      have hfound : [m].find? (·.option = m.option) = some m := by simp
      rw [List.lookup_append, hnone, Option.none_or, told, if_neg ho, List.find?_append,
        find?_of_times hzero, Option.none_or, hfound, Option.bind_some, hx]
      exact List.lookup_cons_self
    · rw [lookup_given (Ne.symm heq), told_other heq]
      exact h.lookup o
  sound := List.forall_mem_append.2 ⟨h.sound, List.forall_mem_singleton.2 ⟨x, hx⟩⟩
  once o ho' := by
    by_cases heq : m.option = o
    · subst heq
      rw [times_append, h.lookup_eq_none_iff.1 hnone, Nat.zero_add]
      exact List.countP_le_length
    · rw [times_append, times_other heq]
      exact h.once o ho'

/-- What one mention more tells. -/
theorem Holds.put (h : Holds g ms) (hput : put g m = .ok g') : Holds g' (ms ++ [m]) := by
  by_cases ho : m.option.shape = .count
  · rw [put_of_count ho] at hput
    cases hput
    exact h.put_again ho
  · obtain ⟨hnone, x, hx, rfl⟩ := (put_eq_ok_iff ho).1 hput
    exact h.put_new ho hnone hx

theorem Holds.exists_put (h : Holds g ms) (hm : m.Sound) (honce : Once (ms ++ [m])) :
    ∃ g', CommandLine.put g m = .ok g' := by
  by_cases ho : m.option.shape = .count
  · exact ⟨_, put_of_count ho g⟩
  · obtain ⟨x, hx⟩ := hm
    have hone : times m.option [m] = 1 := by simp [times]
    have hall := honce m.option ho
    rw [times_append, hone] at hall
    exact ⟨_, (put_eq_ok_iff ho).2 ⟨h.lookup_eq_none_iff.2 (by omega), x, hx, rfl⟩⟩

/-- What several mentions more tell. -/
theorem Holds.puts (h : Holds g ms) (hputs : ns.foldlM CommandLine.put g = .ok g') :
    Holds g' (ms ++ ns) := by
  induction ns generalizing g ms with
  | nil =>
    cases hputs
    rwa [List.append_nil]
  | cons m ns ih =>
    rw [List.foldlM_cons] at hputs
    obtain ⟨g₁, hput, hputs⟩ := bind_eq_ok.1 hputs
    rw [List.append_cons]
    exact ih (h.put hput) hputs

/-- Mentions can be put together if each has a value that it can have, and none but a counted one
stands twice. -/
theorem Holds.puts_iff (h : Holds g ms) : (∃ g', ns.foldlM CommandLine.put g = .ok g') ↔
    (∀ m ∈ ns, m.Sound) ∧ Once (ms ++ ns) := by
  induction ns generalizing g ms with
  | nil => simpa [pure, Except.pure] using h.once
  | cons m ns ih =>
    rw [List.forall_mem_cons, List.append_cons]
    constructor
    · rintro ⟨g', hputs⟩
      rw [List.foldlM_cons] at hputs
      obtain ⟨g₁, hput, hputs⟩ := bind_eq_ok.1 hputs
      have h₁ := h.put hput
      obtain ⟨hsound, honce⟩ := (ih h₁).1 ⟨g', hputs⟩
      exact ⟨⟨h₁.sound m (by simp), hsound⟩, honce⟩
    · rintro ⟨⟨hm, hsound⟩, honce⟩
      obtain ⟨g₁, hput⟩ := h.exists_put hm honce.of_append
      obtain ⟨g', hputs⟩ := (ih (h.put hput)).2 ⟨hsound, honce⟩
      exact ⟨g', by rw [List.foldlM_cons]; exact bind_eq_ok.2 ⟨g₁, hput, hputs⟩⟩

end

end BuildGate.CommandLine
