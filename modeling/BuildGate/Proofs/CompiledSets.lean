import BuildGate.FileSet
import BuildGate.Proofs.ByteMatches

/-!
# Sets of patterns that compile

Patterns that take files away are compiled together. Whether they compile depends on which of them
need an expression and on how big their expressions are in sum, so neither on their order nor on the
patterns that are settled by a name, an extension or by how a path begins or ends.

**Results.**
* `not_nestsTooDeep`: without braces no pattern nests too deep.
* `setFault?_eq_none_iff`: a set compiles when each expression by itself and the others together do.
* `compile_perm`: the order of patterns makes no difference.
* `setFault?_insert`: a pattern that needs no expression makes none either.
* `setFault?_concat`: one more pattern that does not nest too deep can only make a set too big.
-/
namespace BuildGate

namespace Pattern

theorem statesBytes_perm (backward : Bool) {ps qs : List Shape} (h : ps.Perm qs) :
    Shape.statesBytes backward ps = Shape.statesBytes backward qs := by
  induction h with
  | nil => rfl
  | cons p _ ih => rw [Shape.statesBytes, Shape.statesBytes, ih]
  | swap p q rest => simp only [Shape.statesBytes]; exact Nat.add_left_comm ..
  | trans _ _ ih ih' => exact ih.trans ih'

theorem automataBytes_perm (backward : Bool) {ps qs : List Shape} (h : ps.Perm qs) :
    automataBytes backward ps = automataBytes backward qs := by
  rw [automataBytes, automataBytes, frontBytes, frontBytes, h.all_eq, h.length_eq,
    statesBytes_perm backward h]

theorem areTooBig_perm {ps qs : List Shape} (h : ps.Perm qs) : areTooBig ps = areTooBig qs := by
  rw [areTooBig, areTooBig, automataBytes_perm false h, automataBytes_perm true h, h.all_eq,
    h.length_eq]

end Pattern

namespace Glob.Exclude

variable {ps qs : List (List Exclude)}

/-! ## Depth -/

theorem depthOfAll_le {ds : List Nat} {k : Nat} (h : ∀ d ∈ ds, d ≤ k) : depthOfAll ds ≤ k + 1 := by
  have hmax : ∀ (ds : List Nat) (m : Nat), m ≤ k → (∀ d ∈ ds, d ≤ k) → ds.foldl max m ≤ k := by
    intro ds
    induction ds with
    | nil => exact fun m hm _ => hm
    | cons d ds ih =>
      intro m hm h
      rw [List.forall_mem_cons] at h
      exact ih _ (Nat.max_le.2 ⟨hm, h.1⟩) h.2
  match ds with
  | [] => exact Nat.zero_le _
  | [d] => exact Nat.le_succ_of_le (h d List.mem_cons_self)
  | d :: e :: ds => exact Nat.succ_le_succ (hmax _ 0 (Nat.zero_le _) h)

theorem depths_le {t : Exclude} (h : NoBraces t) : ∀ d ∈ depths t, d ≤ 4 := by
  cases t with
  | alternates branches => exact h.elim
  | literal c => simp [depths]
  | cls negated ranges =>
    simp only [depths, List.mem_singleton, forall_eq]
    split <;> omega
  | _ => simp [depths]

theorem depthsOfAll_le {ts : List Exclude} (h : ∀ t ∈ ts, NoBraces t) :
    ∀ d ∈ depthsOfAll ts, d ≤ 4 := by
  induction ts with
  | nil => exact fun d hd => by cases hd
  | cons t ts ih =>
    rw [List.forall_mem_cons] at h
    exact List.forall_mem_append.2 ⟨depths_le h.1, ih h.2⟩

/-- Only braces can make a pattern nest too deep. -/
theorem not_nestsTooDeep {ts : List Exclude} (h : ∀ t ∈ ts, NoBraces t) :
    nestsTooDeep ts = false := by
  unfold nestsTooDeep
  rw [decide_eq_false_iff_not, Nat.not_lt]
  refine Nat.le_trans (depthOfAll_le (k := 4) fun d hd => ?_) (by decide)
  simp only [List.mem_cons, List.cons_append, List.mem_append, List.not_mem_nil, or_false] at hd
  rcases hd with rfl | rfl | hd | rfl
  · exact Nat.zero_le _
  · exact Nat.zero_le _
  · split at hd
    · exact depths_le (t := .many) trivial d hd
    · exact depthsOfAll_le h d hd
  · exact Nat.zero_le _

/-! ## Faults of sets -/

theorem expressionFault?_eq_none_iff : expressionFault? ps = none ↔
    (∀ p ∈ ps, nestsTooDeep p = false) ∧ Pattern.areTooBig (ps.map shape) = false := by
  rw [expressionFault?, ← Bool.not_eq_true, ← List.findIdx?_eq_none_iff]
  cases ps.findIdx? nestsTooDeep <;> simp

theorem expressionFault?_perm (h : ps.Perm qs) :
    expressionFault? ps = none ↔ expressionFault? qs = none := by
  rw [expressionFault?_eq_none_iff, expressionFault?_eq_none_iff,
    Pattern.areTooBig_perm (h.map shape)]
  exact and_congr_left fun _ => forall_congr' fun p => imp_congr_left h.mem_iff

theorem mem_byExtension {p : List Exclude} : p ∈ byExtension ps ↔ p ∈ ps := by
  simp only [byExtension, List.mem_flatMap, List.mem_eraseDups, List.mem_map, List.mem_filter,
    beq_iff_eq]
  exact ⟨fun ⟨_, _, hp, _⟩ => hp, fun hp => ⟨_, ⟨p, hp, rfl⟩, hp, rfl⟩⟩

/-- A set compiles when every pattern with an extension does by itself and the others do together. -/
theorem setFault?_eq_none_iff : setFault? ps = none ↔
    (∀ p ∈ ps, needsExpression p = true → endsInExtension p = true → expressionFault? [p] = none) ∧
      expressionFault? ((ps.filter needsExpression).filter fun p => !endsInExtension p) = none := by
  rw [setFault?, List.partition_eq_filter_filter]
  simp only [Option.or_eq_none_iff, List.findSome?_eq_none_iff, Option.map_eq_none_iff,
    mem_byExtension, List.mem_filter, and_imp]
  rfl

theorem setFault?_perm (h : ps.Perm qs) : setFault? ps = none ↔ setFault? qs = none := by
  rw [setFault?_eq_none_iff, setFault?_eq_none_iff,
    expressionFault?_perm ((h.filter _).filter _)]
  exact and_congr_left fun _ => forall_congr' fun p => imp_congr_left h.mem_iff

/-- A pattern that needs no expression takes no part when a set is compiled. -/
theorem setFault?_insert {p : List Exclude} (h : needsExpression p = false) :
    setFault? (ps ++ p :: qs) = setFault? (ps ++ qs) := by
  rw [setFault?, setFault?, List.filter_append, List.filter_cons_of_neg (by simp [h]),
    ← List.filter_append]

theorem eq_tooBig_of_expressionFault? {fault : ExpressionFault}
    (h : ∀ p ∈ ps, nestsTooDeep p = false) (hfault : expressionFault? ps = some fault) :
    fault = .tooBig := by
  have hshallow : ps.findIdx? nestsTooDeep = none := List.findIdx?_eq_none_iff.2 h
  rw [expressionFault?, hshallow] at hfault
  exact (Option.some.inj (Option.ite_none_right_eq_some.1 hfault).2).symm

/-- One more pattern that does not nest too deep can only make a set that compiles too big. -/
theorem setFault?_concat {p : List Exclude} {reason : Reason} (h : setFault? ps = none)
    (hp : nestsTooDeep p = false) (hreason : setFault? (ps ++ [p]) = some reason) :
    ∃ alone, reason = .expression alone .tooBig := by
  obtain ⟨halone, htogether⟩ := setFault?_eq_none_iff.1 h
  rw [setFault?, List.partition_eq_filter_filter] at hreason
  rcases Option.or_eq_some_iff.1 hreason with hfault | ⟨-, hfault⟩
  · -- Of the patterns with an extension only the new one can have a fault.
    obtain ⟨q, hq, hfault⟩ := List.exists_of_findSome?_eq_some hfault
    obtain ⟨fault, hq', rfl⟩ := Option.map_eq_some_iff.1 hfault
    simp only [mem_byExtension, List.mem_filter, List.mem_append, List.mem_singleton] at hq
    obtain ⟨⟨hq | rfl, hneeds⟩, hends⟩ := hq
    · rw [halone q hq hneeds hends] at hq'
      cases hq'
    · exact ⟨_, congrArg _ (eq_tooBig_of_expressionFault? (List.forall_mem_singleton.2 hp) hq')⟩
  · obtain ⟨fault, htogether', rfl⟩ := Option.map_eq_some_iff.1 hfault
    refine ⟨none, congrArg _ (eq_tooBig_of_expressionFault? (fun q hq => ?_) htogether')⟩
    simp only [List.mem_filter, List.mem_append, List.mem_singleton] at hq
    obtain ⟨⟨hq | rfl, hneeds⟩, hends⟩ := hq
    · exact (expressionFault?_eq_none_iff.1 htogether).1 q
        (List.mem_filter.2 ⟨List.mem_filter.2 ⟨hq, hneeds⟩, hends⟩)
    · exact hp

theorem setFault?_eq_none (h : ∀ p ∈ ps, needsExpression p = false) : setFault? ps = none := by
  induction ps with
  | nil => rfl
  | cons p ps ih =>
    rw [List.forall_mem_cons] at h
    rw [← List.nil_append (p :: ps), setFault?_insert h.1]
    exact ih h.2

end Glob.Exclude

namespace FileSet

/-- What `glob` is read as, if it can be read. -/
def tokens? (glob : String) : Option (List Glob.Exclude) := (Glob.Exclude.read glob).toOption

/-- What the readable ones of `globs` are read as. -/
def tokensOf (globs : List String) : List (List Glob.Exclude) := globs.filterMap tokens?

/-- The readable ones of `globs` compile as one set: `setFault?` finds no fault with them. -/
def Compile (globs : List String) : Prop := Glob.Exclude.setFault? (tokensOf globs) = none

instance : DecidablePred Compile := fun _ => inferInstanceAs (Decidable (_ = _))

theorem compile_perm {globs others : List String} (h : others.Perm globs) :
    Compile others ↔ Compile globs :=
  Glob.Exclude.setFault?_perm (h.filterMap _)

theorem compile_nil : Compile [] := rfl

/-- One more pattern that needs no expression lets a set compile as it did. -/
theorem compile_insert {front back : List String} {glob : String} {tokens : List Glob.Exclude}
    (hread : Glob.Exclude.read glob = .ok tokens)
    (h : Glob.Exclude.needsExpression tokens = false) :
    Compile (front ++ glob :: back) ↔ Compile (front ++ back) := by
  have hglob : tokens? glob = some tokens := by
    rw [tokens?, hread]
    rfl
  rw [Compile, Compile, tokensOf, tokensOf, List.filterMap_append, List.filterMap_append,
    List.filterMap_cons_some hglob, Glob.Exclude.setFault?_insert h]

end FileSet

end BuildGate
