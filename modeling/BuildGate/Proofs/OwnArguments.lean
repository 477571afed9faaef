import BuildGate.Proofs.LateValues

/-!
# Arguments of a verb alone

Arguments behind a verb that name no option of every verb give no such option, and what they give does
not depend on the ones that were given before: those are still there in front, and all else is as if
they had never been given.

**Results.**
* `Apart.bind`: steps one after the other.
* `apart_take`: one argument.
* `readVerb_behind`: all arguments behind a verb.
-/
namespace BuildGate.CommandLine

open FileTree (bind_eq_ok)
open Level (wantsValue)

/-- Whether `arg` begins with the name or the letter of one of `Opt.shared`. -/
def namesShared (arg : String) : Bool :=
  match arg.toList with
  | '-' :: '-' :: body =>
    Opt.shared.any fun o => o.long == String.ofList (body.takeWhile (· != '='))
  | '-' :: c :: _ => Opt.shared.any fun o => o.short? == some c
  | _ => false

/-- No argument names one of `Opt.shared`. Behind `--` all are operands. -/
def NoneShared (args : List String) : Prop :=
  ∀ arg ∈ args.takeWhile (· ≠ "--"), namesShared arg = false

/-- The state `s` with the options `g` given before all others. -/
def State.behind (g : Options) (s : State) : State := { s with given := g ++ s.given }

/-- No option of `Opt.shared` is given or held in `s`. -/
structure State.OwnOnly (s : State) : Prop where
  given : ∀ x ∈ s.given, x.1 ∉ Opt.shared
  held : ∀ o x, s.held = some (o, x) → o ∉ Opt.shared

theorem State.ownOnly_start : ({} : State).OwnOnly :=
  ⟨fun _ h => absurd h List.not_mem_nil, fun _ _ h => by cases h⟩

/-- The step `f` gives no option of `Opt.shared` and does the same behind `g`. -/
def Apart (g : Options) (f : State → Except Refusal State) : Prop :=
  ∀ s, s.OwnOnly → f (s.behind g) = (f s).map (State.behind g) ∧ ∀ s', f s = .ok s' → s'.OwnOnly

section
variable {g : Options} {f f' : State → Except Refusal State} {v : Verb} {s : State} {o : Opt}
  {arg : String} {args : List String}

theorem apart_error (g : Options) (r : Refusal) : Apart g fun _ => .error r :=
  fun _ _ => ⟨rfl, fun _ h => by cases h⟩

theorem Apart.bind (h : Apart g f) (h' : Apart g f') : Apart g fun s => f s >>= f' := by
  intro s hs
  obtain ⟨hsame, hown⟩ := h s hs
  dsimp only
  rw [hsame]
  cases hf : f s with
  | error r => exact ⟨rfl, fun _ h => by cases h⟩
  | ok s' => exact h' s' (hown s' hf)

theorem settle_of_value {x : String} (h : s.held = some (o, some x)) : s.settle =
    match o.shape with
    | .value _ kind => State.give { s with held := none } o .flag >>= fun _ =>
        kind.read x >>= State.give { s with held := none } o
    | _ => .ok { s with held := none } := by
  obtain ⟨given, operands, held, only⟩ := s
  obtain rfl : held = some (o, some x) := h
  rfl

theorem not_shared_of_find? {p : Opt → Bool} {os : List Opt} (h : Opt.shared.any p = false)
    (hfind : os.find? p = some o) : o ∉ Opt.shared :=
  fun ho => List.any_eq_false.1 h o ho (List.find?_some hfind)

/-- Beside the options of every verb, letters only ask for help or the version. -/
theorem asks_of_letter (ho : o ∉ Opt.shared) {c : Char} (hc : o.short? = some c) :
    o = .help ∨ o = .version := by
  cases o <;> first | exact .inl rfl | exact .inr rfl | exact absurd (by decide) ho | cases hc

theorem NoneShared.of_cons (h : NoneShared (arg :: args)) :
    namesShared arg = false ∧ (arg = "--" ∨ NoneShared args) := by
  unfold NoneShared at h
  rw [List.takeWhile_cons] at h
  by_cases harg : arg = "--"
  · subst harg
    exact ⟨by decide, .inl rfl⟩
  · rw [decide_eq_true harg, if_pos rfl, List.forall_mem_cons] at h
    exact ⟨h.1, .inr h.2⟩

/-- Behind `--` only operands follow. -/
theorem onlyOperands_of_take {l : Level} {s' : State} (h : l.take s arg = .ok s')
    (hover : s.onlyOperands = true ∨ arg = "--") : s'.onlyOperands = true := by
  by_cases honly : s.onlyOperands = true
  · rw [Level.take_operand honly] at h
    exact (Level.keeps_takeOperand h).onlyOperands.trans honly
  · obtain rfl := hover.resolve_left honly
    rw [Level.take_ending (Bool.eq_false_iff.2 honly)] at h
    cases h
    rfl

section
variable (hg : ∀ x ∈ g, x.1 ∈ Opt.shared)
include hg

/-- An option of one verb is not among those that are given before. -/
theorem lookup_behind (ho : o ∉ Opt.shared) (given : Options) :
    (g ++ given).lookup o = given.lookup o := by
  have hnone : g.lookup o = none := by
    refine List.lookup_eq_none_iff.2 fun x hx => ?_
    refine bne_iff_ne.2 ?_
    rintro rfl
    exact ho (hg x hx)
  rw [List.lookup_append, hnone, Option.none_or]

theorem apart_give (ho : o ∉ Opt.shared) (y : Given) : Apart g fun s => s.give o y := by
  intro s hs
  have hlookup : (s.behind g).given.lookup o = s.given.lookup o := lookup_behind hg ho s.given
  dsimp only
  unfold State.give
  rw [hlookup]
  split
  · exact ⟨rfl, fun _ h => by cases h⟩
  · refine ⟨?_, ?_⟩
    · rw [State.behind, List.append_assoc]
      rfl
    · rintro s' ⟨⟩
      exact ⟨List.forall_mem_append.2 ⟨hs.given, List.forall_mem_singleton.2 ho⟩, hs.held⟩

/-- A value that is looked at. -/
theorem apart_giveRead (ho : o ∉ Opt.shared) (kind : ValueKind) (x : String) :
    Apart g fun s => s.give o .flag >>= fun _ => kind.read x >>= s.give o := by
  intro s hs
  obtain ⟨hsame, -⟩ := apart_give hg ho .flag s hs
  dsimp only at hsame ⊢
  rw [hsame]
  cases s.give o .flag with
  | error r => exact ⟨rfl, fun s' h => by cases h⟩
  | ok _ =>
    cases kind.read x with
    | error r => exact ⟨rfl, fun s' h => by cases h⟩
    | ok y => exact apart_give hg ho y s hs

theorem apart_settle : Apart g State.settle := by
  intro s hs
  cases hheld : s.held with
  | none =>
    rw [settle_of_held hheld, settle_of_held (s := s.behind g) hheld]
    exact ⟨rfl, fun s' h => by cases h; exact hs⟩
  | some x =>
    obtain ⟨o, value⟩ := x
    have ho := hs.held o value hheld
    cases value with
    | none =>
      have hwanting : ∀ s : State, s.held = some (o, none) → s.settle = .error .invalidValue :=
        fun s h => by rw [State.settle, h]
      rw [hwanting s hheld, hwanting (s.behind g) hheld]
      exact apart_error g .invalidValue s hs
    | some x =>
      have hopen : ({ s with held := none } : State).OwnOnly := ⟨hs.given, fun _ _ h => by cases h⟩
      rw [settle_of_value hheld, settle_of_value (s := s.behind g) hheld]
      cases o.shape with
      | flag | count => exact ⟨rfl, fun s' h => by cases h; exact hopen⟩
      | value name kind => exact apart_giveRead hg ho kind x { s with held := none } hopen

namespace Level

variable {l : Level}

theorem apart_takeFlag (ho : o ∉ Opt.shared) (byLong : Bool) :
    Apart g fun s => l.takeFlag s o byLong := by
  have hcount : o.shape ≠ .count := by
    intro h
    cases o <;> first | exact absurd (by decide) ho | cases h
  unfold takeFlag
  refine (apart_settle hg).bind ?_
  split
  · exact apart_error g _
  · exact apart_error g _
  · simp only [if_neg hcount]
    exact apart_give hg ho .flag

theorem apart_takeValue (ho : o ∉ Opt.shared) (attached : Option String) :
    Apart g fun s => takeValue s o attached := by
  have hheld : ∀ {s : State}, s.OwnOnly → ∀ value, ({ s with held := some (o, value) } : State).OwnOnly :=
    fun hs value => ⟨hs.given, fun _ _ h => by cases h; exact ho⟩
  unfold takeValue
  refine (apart_settle hg).bind fun s hs => ?_
  cases attached with
  | none => exact ⟨rfl, fun s' h => by cases h; exact hheld hs none⟩
  | some x => exact apart_settle hg { s with held := some (o, some x) } (hheld hs (some x))

theorem apart_takeLong {body : List Char}
    (h : (Opt.shared.any fun o => o.long == String.ofList (body.takeWhile (· != '='))) = false) :
    Apart g fun s => l.takeLong s body := by
  simp only [takeLong_eq]
  split
  · exact apart_error g _
  next o hfind =>
    have ho := not_shared_of_find? h hfind
    split
    · exact apart_takeValue hg ho _
    · split
      · exact apart_error g _
      · exact apart_takeFlag hg ho true

theorem apart_takeShorts {c : Char} (h : (Opt.shared.any fun o => o.short? == some c) = false)
    (rest : List Char) : Apart g fun s => l.takeShorts s (c :: rest) := by
  simp only [takeShorts]
  split
  · exact apart_error g _
  next o hfind =>
    have ho := not_shared_of_find? h hfind
    have hasked : ∀ r : Refusal, Apart g fun s => s.settle >>= fun _ => .error r :=
      fun r => (apart_settle hg).bind (apart_error g r)
    have hletter := List.find?_some hfind
    obtain rfl | rfl := asks_of_letter ho (beq_iff_eq.1 hletter)
    · simp only [takeFlag, bind_assoc]
      exact hasked (.help l.topic false)
    · simp only [takeFlag, bind_assoc]
      exact hasked .version

theorem apart_takeOperand (v : Verb) (arg : String) :
    Apart g fun s => (Level.verb v).takeOperand s arg := by
  have htaken : Apart g fun s => s.settle >>= fun s => .ok { s with operands := s.operands ++ [arg] } :=
    (apart_settle hg).bind fun s hs => ⟨rfl, fun s' h => by cases h; exact ⟨hs.given, hs.held⟩⟩
  intro s hs
  simp only [takeOperand]
  split
  · exact apart_error g _ s hs
  next p _ =>
    by_cases hmany : (p.isMany || s.operands.isEmpty) = true
    · rw [if_pos hmany, if_pos (show (p.isMany || (s.behind g).operands.isEmpty) = true from hmany)]
      exact htaken s hs
    · rw [if_neg hmany, if_neg (show ¬(p.isMany || (s.behind g).operands.isEmpty) = true from hmany)]
      exact apart_error g _ s hs

/-- An argument behind a verb that names no option of every verb. -/
theorem apart_take (v : Verb) (hs : s.OwnOnly)
    (harg : s.onlyOperands = true ∨ namesShared arg = false) :
    (Level.verb v).take (s.behind g) arg = ((Level.verb v).take s arg).map (State.behind g) ∧
      ∀ s', (Level.verb v).take s arg = .ok s' → s'.OwnOnly := by
  by_cases honly : s.onlyOperands = true
  · rw [take_operand honly, take_operand (s := s.behind g) honly]
    exact apart_takeOperand hg v arg s hs
  · have hname : namesShared arg = false := harg.resolve_left honly
    have hopen : s.onlyOperands = false := Bool.eq_false_iff.2 honly
    cases look arg with
    | ending h =>
      subst h
      rw [take_ending hopen, take_ending (s := s.behind g) hopen]
      exact ⟨rfl, fun s' h => by cases h; exact ⟨hs.given, hs.held⟩⟩
    | long h hbody =>
      rw [take_long hopen h hbody, take_long (s := s.behind g) hopen h hbody]
      rw [namesShared, h] at hname
      exact apart_takeLong hg hname s hs
    | @letters c rest h hc =>
      rw [take_letters hopen h hc, take_letters (s := s.behind g) hopen h hc]
      have hletter : (Opt.shared.any fun o => o.short? == some c) = false := by
        unfold namesShared at hname
        rw [h] at hname
        split at hname
        next heq => cases heq; exact absurd rfl hc
        next heq => cases heq; exact hname
        next hno => exact absurd rfl (hno c rest)
      exact apart_takeShorts hg hletter rest s hs
    | plain h =>
      rw [take_plain hopen h, take_plain (s := s.behind g) hopen h]
      have hheld : (s.behind g).held = s.held := rfl
      rw [hheld]
      split
      next o hwaits =>
        refine ⟨rfl, fun s' h => ?_⟩
        cases h
        exact ⟨hs.given, fun _ _ h => by cases h; exact hs.held o none hwaits⟩
      · exact apart_takeOperand hg v arg s hs

end Level

/-! ## All arguments behind a verb -/

/-- `a` with the options `g` given before all others. -/
def VerbArguments.behind (g : Options) (a : VerbArguments) : VerbArguments :=
  { a with given := g ++ a.given }

/-- What is read behind a verb is as if the options before it had never been given. -/
theorem readVerb_behind (env : Environment) (v : Verb) (hs : s.OwnOnly)
    (hargs : s.onlyOperands = true ∨ NoneShared args) :
    readVerb env v (s.behind g) args = (readVerb env v s args).map (VerbArguments.behind g) ∧
      ∀ a, readVerb env v s args = .ok a → ∀ x ∈ a.given, x.1 ∉ Opt.shared := by
  induction args generalizing s with
  | nil =>
    obtain ⟨hsame, hown⟩ := apart_settle hg s hs
    simp only [readVerb, finishVerb]
    rw [hsame]
    cases hsettle : s.settle with
    | error r => exact ⟨rfl, fun a h => by cases h⟩
    | ok s₀ =>
      have hlookup : ∀ o, o ∉ Opt.shared → (s₀.behind g).given.lookup o = s₀.given.lookup o :=
        fun o ho => lookup_behind hg ho s₀.given
      have hvariables : variableOptions env v (s₀.behind g).given = variableOptions env v s₀.given := by
        rw [variableOptions_eq, variableOptions_eq, hlookup .grep (by decide)]
      have hoperands : (s₀.behind g).operands = s₀.operands := rfl
      dsimp only [Except.map, bind, Except.bind]
      rw [hlookup .open (by decide), hlookup .upload (by decide), hvariables, hoperands]
      split
      · exact ⟨rfl, fun a h => by cases h⟩
      · split
        · exact ⟨rfl, fun a h => by cases h⟩
        · exact ⟨rfl, fun a h => by cases h; exact (hown s₀ hsettle).given⟩
  | cons arg args ih =>
    have harg : s.onlyOperands = true ∨ namesShared arg = false :=
      hargs.imp_right fun h => h.of_cons.1
    obtain ⟨hsame, hown⟩ := Level.apart_take hg v hs harg
    simp only [readVerb]
    rw [hsame]
    cases htake : (Level.verb v).take s arg with
    | error r => exact ⟨rfl, fun a h => by cases h⟩
    | ok s' =>
      -- Behind `--` it does not matter what arguments look like.
      refine ih (hown s' htake) ?_
      obtain honly | hnone := hargs
      · exact .inl (onlyOperands_of_take htake (.inl honly))
      · exact hnone.of_cons.2.imp_left fun h => onlyOperands_of_take htake (.inr h)

end

end

end BuildGate.CommandLine
