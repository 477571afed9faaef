import BuildGate.Proofs.GivenOptions

/-!
# Values that are looked at late

The value of an option is looked at only when the next argument is read. Where that goes well, the same
is read as if the value were looked at once, whatever the next arguments are: `--` alone leaves it as it
is, and then it is looked at behind it.

**Results.**
* `look`: what an argument can look like.
* `Level.take_iff`, `Level.settles_take`: the value is looked at before an argument.
* `settles_readVerb`, `settles_readProgram`: it may be looked at before all arguments.
-/
namespace BuildGate.CommandLine

open FileTree (bind_eq_ok)

/-! ## Arguments -/

/-- Whether `arg` is a hyphen with something behind it. No such argument is the value of an option
before it. -/
def isDashed (arg : String) : Bool :=
  match arg.toList with
  | '-' :: _ :: _ => true
  | _ => false

/-- What `arg` can look like where options may stand. -/
inductive Look (arg : String) : Prop
  | ending (h : arg = "--")
  | long {body : List Char} (h : arg.toList = '-' :: '-' :: body) (hbody : body ≠ [])
  | letters {c : Char} {rest : List Char} (h : arg.toList = '-' :: c :: rest) (hc : c ≠ '-')
  | plain (h : isDashed arg = false)

theorem look (arg : String) : Look arg := by
  by_cases hplain : isDashed arg = false
  · exact .plain hplain
  · unfold isDashed at hplain
    split at hplain
    next c rest h =>
      by_cases hc : c = '-'
      · subst hc
        cases rest with
        | nil => exact .ending (String.toList_inj.1 h)
        | cons d rest => exact .long h (List.cons_ne_nil d rest)
      · exact .letters h hc
    · exact absurd rfl hplain

section
variable {l : Level} {s : State} {o : Opt} {arg : String} {body rest : List Char} {c : Char}

namespace Level

theorem take_operand (hs : s.onlyOperands = true) : l.take s arg = l.takeOperand s arg := if_pos hs

variable (hs : s.onlyOperands = false)
include hs

theorem take_ending : l.take s "--" = .ok { s with onlyOperands := true } := by
  rw [take, hs]
  rfl

theorem take_long (h : arg.toList = '-' :: '-' :: body) (hbody : body ≠ []) :
    l.take s arg = l.takeLong s body := by
  rw [take, hs, h]
  cases body with
  | nil => exact absurd rfl hbody
  | cons d body => rfl

theorem take_letters (h : arg.toList = '-' :: c :: rest) (hc : c ≠ '-') :
    l.take s arg = l.takeShorts s (c :: rest) := by
  rw [take, hs, h, if_neg Bool.false_ne_true]
  split
  next heq => cases heq; exact absurd rfl hc
  next heq => cases heq; exact absurd rfl hc
  next heq => cases heq; rfl
  next hno => exact absurd rfl (hno c rest)

theorem take_plain (h : isDashed arg = false) : l.take s arg =
    match s.held with
    | some (o, none) => .ok { s with held := some (o, some arg) }
    | _ => l.takeOperand s arg := by
  have hdash : ∀ c rest, arg.toList ≠ '-' :: c :: rest := by
    intro c rest heq
    rw [isDashed, heq] at h
    cases h
  rw [take, hs, if_neg Bool.false_ne_true]
  split
  next heq => exact absurd heq (hdash _ _)
  next heq => exact absurd heq (hdash _ _)
  next heq => exact absurd heq (hdash _ _)
  · rfl

end Level

end

/-! ## Values that are looked at late -/

/-- No option waits for a value in `s`. -/
def State.Filled (s : State) : Prop := ∀ o, s.held ≠ some (o, none)

/-- Whether something comes of a state just if it comes of the state whose value is looked at. -/
def Settles {α : Type} (k : State → Except Refusal α) : Prop :=
  ∀ s a, s.Filled → (k s = .ok a ↔ ∃ s₀, s.settle = .ok s₀ ∧ k s₀ = .ok a)

section
variable {α : Type} {k : State → Except Refusal α} {l : Level} {s s₀ s' : State} {o : Opt}
  {arg : String}

theorem settle_of_held (h : s.held = none) : s.settle = .ok s := by
  rw [State.settle, h]

theorem settle_settle (h : s.settle = .ok s₀) : s₀.settle = .ok s₀ :=
  settle_of_held (State.keeps_settle h).2

/-- To look at a value changes nothing but what is given. -/
theorem eq_of_settle (h : s.settle = .ok s₀) : s₀ = { s with held := none, given := s₀.given } := by
  have hgive : ∀ {s s' : State} {o g}, s.give o g = .ok s' → s' = { s with given := s'.given } := by
    intro s s' o g hgive
    unfold State.give at hgive
    split at hgive
    · cases hgive
    · cases hgive
      rfl
  unfold State.settle at h
  split at h
  next hnone =>
    cases h
    cases s
    cases hnone
    rfl
  · cases h
  · dsimp only at h
    split at h
    · obtain ⟨_, -, h⟩ := bind_eq_ok.1 h
      obtain ⟨x, -, h⟩ := bind_eq_ok.1 h
      exact hgive h
    · cases h
      rfl

theorem settle_onlyOperands (s : State) : State.settle { s with onlyOperands := true } =
    s.settle.map fun s => { s with onlyOperands := true } := by
  obtain ⟨given, operands, held, only⟩ := s
  have hgive : ∀ o g, State.give ⟨given, operands, none, true⟩ o g =
      (State.give ⟨given, operands, none, only⟩ o g).map fun s => { s with onlyOperands := true } := by
    intro o g
    unfold State.give
    dsimp only
    split <;> rfl
  unfold State.settle
  dsimp only
  split
  · rfl
  · rfl
  next o x =>
    cases o.shape with
    | flag | count => rfl
    | value name kind =>
      dsimp only
      rw [hgive]
      cases State.give ⟨given, operands, none, only⟩ o .flag with
      | error r => rfl
      | ok _ =>
        cases kind.read x with
        | error r => rfl
        | ok g => exact hgive o g

theorem settles_bind (k : State → Except Refusal α) : Settles fun s => s.settle >>= k := by
  intro s a _
  constructor
  · intro h
    obtain ⟨s₀, hs, hk⟩ := bind_eq_ok.1 h
    exact ⟨s₀, hs, bind_eq_ok.2 ⟨s₀, settle_settle hs, hk⟩⟩
  · rintro ⟨s₀, hs, h⟩
    obtain ⟨s₁, hs₁, hk⟩ := bind_eq_ok.1 h
    cases (settle_settle hs).symm.trans hs₁
    exact bind_eq_ok.2 ⟨s₀, hs, hk⟩

theorem settles_error (r : Refusal) : Settles fun _ => (.error r : Except Refusal α) := by
  intro s a _
  simp

namespace Level

theorem settles_takeFlag (l : Level) (o : Opt) (byLong : Bool) :
    Settles fun s => l.takeFlag s o byLong := settles_bind _

theorem settles_takeValue (o : Opt) (attached : Option String) :
    Settles fun s => takeValue s o attached := settles_bind _

theorem settles_takeLong (l : Level) (body : List Char) : Settles fun s => l.takeLong s body := by
  simp only [takeLong_eq]
  split
  · exact settles_error _
  · split
    · exact settles_takeValue _ _
    · split
      · exact settles_error _
      · exact settles_takeFlag l _ _

theorem settles_takeShorts (l : Level) (c : Char) (letters : List Char) :
    Settles fun s => l.takeShorts s (c :: letters) := by
  simp only [takeShorts]
  split
  · exact settles_error _
  next o _ =>
    split
    · exact settles_takeValue _ _
    · simp only [takeFlag, bind_assoc]
      exact settles_bind _

theorem settles_takeOperand (l : Level) (arg : String) : Settles fun s => l.takeOperand s arg := by
  cases l with
  | program => intro s a _; simp [takeOperand]
  | verb v =>
    intro s a hs
    unfold takeOperand
    dsimp only
    split
    · exact settles_error _ s a hs
    next p _ =>
      have htaken := settles_bind (fun s => .ok { s with operands := s.operands ++ [arg] }) s a hs
      have hrefused := settles_error .unknownArgument (α := State) s a hs
      by_cases hmany : (p.isMany || s.operands.isEmpty) = true
      · rw [if_pos hmany]
        refine htaken.trans (exists_congr fun s₀ => and_congr_right fun hsettle => ?_)
        rw [if_pos (by rw [eq_of_settle hsettle]; exact hmany)]
        rfl
      · rw [if_neg hmany]
        refine hrefused.trans (exists_congr fun s₀ => and_congr_right fun hsettle => ?_)
        rw [if_neg (by rw [eq_of_settle hsettle]; exact hmany)]

/-- Before an argument other than `--` the value that is held is looked at. -/
theorem take_iff (hs : s.Filled) (harg : s.onlyOperands = true ∨ arg ≠ "--") :
    l.take s arg = .ok s' ↔ ∃ s₀, s.settle = .ok s₀ ∧ l.take s₀ arg = .ok s' := by
  have hsame : ∀ {s₀}, s.settle = .ok s₀ → s₀.onlyOperands = s.onlyOperands :=
    fun h => by rw [eq_of_settle h]
  have hvia : ∀ {f : State → Except Refusal State}, Settles f → l.take s arg = f s →
      (∀ s₀, s.settle = .ok s₀ → l.take s₀ arg = f s₀) →
      (l.take s arg = .ok s' ↔ ∃ s₀, s.settle = .ok s₀ ∧ l.take s₀ arg = .ok s') := by
    intro f hf htake htake₀
    rw [htake, hf s s' hs]
    exact exists_congr fun s₀ => and_congr_right fun h => by rw [htake₀ s₀ h]
  by_cases honly : s.onlyOperands = true
  · exact hvia (settles_takeOperand l arg) (take_operand honly) fun s₀ h =>
      take_operand ((hsame h).trans honly)
  · have hoptions : s.onlyOperands = false := Bool.eq_false_iff.2 honly
    have hoptions₀ : ∀ s₀, s.settle = .ok s₀ → s₀.onlyOperands = false :=
      fun s₀ h => (hsame h).trans hoptions
    cases look arg with
    | ending h => exact absurd h (harg.resolve_left honly)
    | long h hbody =>
      exact hvia (settles_takeLong l _) (take_long hoptions h hbody) fun s₀ h₀ =>
        take_long (hoptions₀ s₀ h₀) h hbody
    | letters h hc =>
      exact hvia (settles_takeShorts l _ _) (take_letters hoptions h hc) fun s₀ h₀ =>
        take_letters (hoptions₀ s₀ h₀) h hc
    | plain h =>
      refine hvia (settles_takeOperand l arg) ?_ fun s₀ h₀ => ?_
      · rw [take_plain hoptions h]
        split
        next o hheld => exact absurd hheld (hs o)
        · rfl
      · rw [take_plain (hoptions₀ s₀ h₀) h, (State.keeps_settle h₀).2]

/-- The value that is held can be looked at before the next argument. -/
theorem settles_take (l : Level) (arg : String) (hk : Settles k) :
    Settles fun s => l.take s arg >>= k := by
  intro s a hs
  dsimp only
  by_cases harg : s.onlyOperands = true ∨ arg ≠ "--"
  · constructor
    · intro h
      obtain ⟨s', htake, hk'⟩ := bind_eq_ok.1 h
      obtain ⟨s₀, hsettle, htake₀⟩ := (take_iff hs harg).1 htake
      exact ⟨s₀, hsettle, bind_eq_ok.2 ⟨s', htake₀, hk'⟩⟩
    · rintro ⟨s₀, hsettle, h⟩
      obtain ⟨s', htake₀, hk'⟩ := bind_eq_ok.1 h
      exact bind_eq_ok.2 ⟨s', (take_iff hs harg).2 ⟨s₀, hsettle, htake₀⟩, hk'⟩
  · -- `--` leaves the value as it is, to be looked at behind it.
    obtain ⟨honly, rfl⟩ : s.onlyOperands = false ∧ arg = "--" := by simpa using harg
    have hafter := hk { s with onlyOperands := true } a hs
    rw [take_ending honly]
    refine hafter.trans ?_
    rw [settle_onlyOperands]
    cases hsettle : s.settle with
    | error r => simp [Except.map]
    | ok s₀ =>
      have honly₀ : s₀.onlyOperands = false := by rw [eq_of_settle hsettle]; exact honly
      simp only [Except.map, Except.ok.injEq, exists_eq_left', take_ending honly₀]
      rfl

end Level

theorem settles_after {β : Type} (x : Except Refusal β) {k : β → State → Except Refusal α}
    (hk : ∀ b, Settles (k b)) : Settles fun s => x >>= fun b => k b s := by
  intro s a hs
  cases x with
  | error r => exact settles_error r s a hs
  | ok b => exact hk b s a hs

theorem State.waits_of_filled (hs : s.Filled) : s.waits = false := by
  unfold waits
  cases hheld : s.held with
  | none => simp
  | some x =>
    obtain ⟨o, value⟩ := x
    cases value with
    | none => exact absurd hheld (hs o)
    | some v => simp

theorem State.filled_of_held (hs : s.held = none) : s.Filled := by simp [Filled, hs]

theorem settles_readVerb (env : Environment) (v : Verb) (args : List String) :
    Settles fun s => readVerb env v s args := by
  induction args with
  | nil => exact settles_bind _
  | cons arg args ih => exact Level.settles_take (.verb v) arg ih

/-- Where no option waits for a value, a verb may stand unless options are over. -/
theorem readProgram_cons (env : Environment) (hs : s.Filled) (arg : String) (args : List String) :
    readProgram env s (arg :: args) =
      if s.onlyOperands = true then Level.program.take s arg >>= (readProgram env · args)
      else if arg = "help" then helpTopic args >>= fun t => .error (.help t true)
      else
        match Verb.ofWord? arg with
        | some v => readVerb env v {} args >>= fun a => finishProgram s (some a)
        | none => Level.program.take s arg >>= (readProgram env · args) := by
  rw [readProgram]
  exact if_congr (by rw [State.waits_of_filled hs, Bool.or_false]) rfl rfl

theorem settles_readProgram (env : Environment) (args : List String) :
    Settles fun s => readProgram env s args := by
  induction args with
  | nil => exact settles_bind _
  | cons arg args ih =>
    intro s a hs
    have htake := Level.settles_take .program arg ih s a hs
    have hverb : ∀ v, Settles fun s => readVerb env v {} args >>= fun b => finishProgram s (some b) :=
      fun v => settles_after _ fun b => settles_bind _
    have hhelp : Settles fun _ =>
        (helpTopic args >>= fun t => .error (.help t true) : Except Refusal Arguments) :=
      settles_after _ fun t => settles_error _
    have hopen : ∀ {s₀}, s.settle = .ok s₀ → s₀.onlyOperands = s.onlyOperands ∧ s₀.Filled := fun h =>
      ⟨by rw [eq_of_settle h], State.filled_of_held (State.keeps_settle h).2⟩
    dsimp only
    rw [readProgram_cons env hs]
    split
    next honly =>
      refine htake.trans (exists_congr fun s₀ => and_congr_right fun h => ?_)
      rw [readProgram_cons env (hopen h).2, if_pos ((hopen h).1.trans honly)]
    next honly =>
      split
      next harg =>
        refine (hhelp s a hs).trans (exists_congr fun s₀ => and_congr_right fun h => ?_)
        rw [readProgram_cons env (hopen h).2, (hopen h).1, if_neg honly, if_pos harg]
      next harg =>
        split
        next v hv =>
          refine (hverb v s a hs).trans (exists_congr fun s₀ => and_congr_right fun h => ?_)
          rw [readProgram_cons env (hopen h).2, (hopen h).1, if_neg honly, if_neg harg, hv]
        next hv =>
          refine htake.trans (exists_congr fun s₀ => and_congr_right fun h => ?_)
          rw [readProgram_cons env (hopen h).2, (hopen h).1, if_neg honly, if_neg harg, hv]

end

end BuildGate.CommandLine
