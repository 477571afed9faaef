import BuildGate.CommandLine.Basic
import BuildGate.Proofs.JsonTexts
import BuildGate.Proofs.LinkFree
import BuildGate.Proofs.UnreadVariables

/-!
# Options that are given

An option is given what fits its shape, whatever the arguments are. The environment has a say only in
options that are not given, so arguments that are read with one environment are read with every other
one, to the same options. And to an option that is not given yet a value can be given by one more
argument.

**Results.**
* `Level.take_cases`: what one argument keeps.
* `fitting_of_readVerb`: what options are given fits them.
* `readProgram_congr`: the arguments behind a verb decide what is read.
* `readArguments_env`: arguments with another environment.
* `readArguments_append`: one more argument gives a value to one more option.
* `testOptions_of_read`: what is asked of the tests.
-/
namespace BuildGate

namespace CommandLine

open FileTree (bind_eq_ok)

/-! ## What fits an option -/

/-- An option of this shape can be given this. -/
def Shape.Fits : Shape → Given → Prop
  | .flag, g => g = .flag
  | .count, g => ∃ n, g = .times n
  | .value _ .number, g => ∃ n < Word.bound, g = .number n
  | .value _ _, g => ∃ x, g = .text x

theorem fits_of_read {name : String} {kind : ValueKind} {x : String} {g : Given}
    (h : kind.read x = .ok g) : (Shape.value name kind).Fits g := by
  cases kind with
  | text =>
    cases h
    exact ⟨x, rfl⟩
  | path =>
    simp only [ValueKind.read] at h
    split at h
    · cases h
    · cases h
      exact ⟨x, rfl⟩
  | number =>
    simp only [ValueKind.read] at h
    split at h
    next n hn =>
      cases h
      exact ⟨n, readNumber?_lt hn, rfl⟩
    · cases h
  | choice words =>
    simp only [ValueKind.read] at h
    split at h
    · cases h
      exact ⟨x, rfl⟩
    · cases h

/-- Each option of `given` is given what fits its shape. -/
def Fitting (given : Options) : Prop := ∀ x ∈ given, x.1.shape.Fits x.2

/-! ## One argument -/

namespace State

/-- What reading an argument keeps between `s` and `s'`: options are given what fits them, and
options may stand where they could stand before. -/
structure Keeps (s s' : State) : Prop where
  fitting : Fitting s.given → Fitting s'.given
  onlyOperands : s'.onlyOperands = s.onlyOperands

variable {s s' s'' : State} {o : Opt} {g : Given}

theorem Keeps.refl (s : State) : Keeps s s := ⟨id, rfl⟩

theorem Keeps.trans (h : Keeps s s') (h' : Keeps s' s'') : Keeps s s'' :=
  ⟨h'.fitting ∘ h.fitting, h'.onlyOperands.trans h.onlyOperands⟩

theorem keeps_give (ho : o.shape.Fits g) (h : s.give o g = .ok s') : Keeps s s' := by
  unfold give at h
  split at h
  · cases h
  · cases h
    exact ⟨fun hs => List.forall_mem_append.2 ⟨hs, List.forall_mem_singleton.2 ho⟩, rfl⟩

theorem keeps_giveAgain (s : State) (ho : o.shape = .count) : Keeps s (s.giveAgain o) where
  fitting hs := by
    refine List.forall_mem_append.2 ⟨fun x hx => hs x (List.mem_of_mem_filter hx),
      List.forall_mem_singleton.2 ?_⟩
    rw [ho]
    exact ⟨_, rfl⟩
  onlyOperands := rfl

/-- After the value of the option that is held no option is held. -/
theorem keeps_settle (h : s.settle = .ok s') : Keeps s s' ∧ s'.held = none := by
  unfold settle at h
  split at h
  next hnone =>
    cases h
    exact ⟨Keeps.refl s, hnone⟩
  · cases h
  · dsimp only at h
    split at h
    next name kind hshape =>
      obtain ⟨_, -, h⟩ := bind_eq_ok.1 h
      obtain ⟨g, hg, h⟩ := bind_eq_ok.1 h
      obtain ⟨hfitting, honly⟩ := keeps_give (hshape ▸ fits_of_read hg) h
      refine ⟨⟨hfitting, honly⟩, ?_⟩
      unfold give at h
      split at h
      · cases h
      · cases h
        rfl
    · cases h
      exact ⟨⟨id, rfl⟩, rfl⟩

end State

namespace Level

open State (Keeps keeps_settle)

variable {l : Level} {s s' : State} {o : Opt}

theorem keeps_takeFlag {byLong : Bool} (ho : wantsValue o = false)
    (h : l.takeFlag s o byLong = .ok s') : Keeps s s' := by
  obtain ⟨s₁, hsettle, h⟩ := bind_eq_ok.1 h
  refine (keeps_settle hsettle).1.trans ?_
  split at h
  · cases h
  · cases h
  · split at h
    next hcount =>
      cases h
      exact State.keeps_giveAgain s₁ hcount
    next hcount =>
      refine State.keeps_give ?_ h
      unfold wantsValue at ho
      cases hshape : o.shape with
      | flag => rfl
      | count => exact absurd hshape hcount
      | value name kind => rw [hshape] at ho; cases ho

theorem keeps_takeValue {attached : Option String} (h : takeValue s o attached = .ok s') :
    Keeps s s' := by
  obtain ⟨s₁, hsettle, h⟩ := bind_eq_ok.1 h
  have hfirst := (keeps_settle hsettle).1
  cases attached with
  | none =>
    cases h
    exact hfirst.trans ⟨id, rfl⟩
  | some x =>
    obtain ⟨hfitting, honly⟩ := (keeps_settle h).1
    exact hfirst.trans ⟨hfitting, honly⟩

/-- The value that is attached with `=` to the name of an option. -/
def attached? (body : List Char) : Option String :=
  match body.dropWhile (· != '=') with
  | [] => none
  | _ :: v => some (String.ofList v)

theorem takeLong_eq (l : Level) (s : State) (body : List Char) : l.takeLong s body =
    match l.options.find? (·.long == String.ofList (body.takeWhile (· != '='))) with
    | none => .error .unknownArgument
    | some o =>
      if wantsValue o then takeValue s o (attached? body)
      else if (attached? body).isSome then .error .needlessValue
      else l.takeFlag s o true := rfl

theorem keeps_takeLong {body : List Char} (h : l.takeLong s body = .ok s') : Keeps s s' := by
  rw [takeLong_eq] at h
  split at h
  · cases h
  · split at h
    · exact keeps_takeValue h
    next ho =>
      split at h
      · cases h
      · exact keeps_takeFlag (Bool.eq_false_iff.2 ho) h

theorem keeps_takeShorts {letters : List Char} (h : l.takeShorts s letters = .ok s') :
    Keeps s s' := by
  induction letters generalizing s with
  | nil =>
    cases h
    exact Keeps.refl _
  | cons c letters ih =>
    unfold takeShorts at h
    split at h
    · cases h
    · split at h
      · exact keeps_takeValue h
      next ho =>
        obtain ⟨s₁, hflag, h⟩ := bind_eq_ok.1 h
        exact (keeps_takeFlag (Bool.eq_false_iff.2 ho) hflag).trans (ih h)

theorem keeps_takeOperand {arg : String} (h : l.takeOperand s arg = .ok s') : Keeps s s' := by
  unfold takeOperand at h
  split at h
  · cases h
  · split at h
    · cases h
    · split at h
      · obtain ⟨s₁, hsettle, h⟩ := bind_eq_ok.1 h
        obtain ⟨hfitting, honly⟩ := (keeps_settle hsettle).1
        cases h
        exact ⟨hfitting, honly⟩
      · cases h

/-- One argument keeps to what fits; only `--` ends the options. -/
theorem take_cases {arg : String} (h : l.take s arg = .ok s') :
    Keeps s s' ∨ arg = "--" ∧ s'.given = s.given := by
  unfold take at h
  split at h
  · exact .inl (keeps_takeOperand h)
  · split at h
    next harg =>
      cases h
      exact .inr ⟨String.toList_inj.1 harg, rfl⟩
    · exact .inl (keeps_takeLong h)
    · exact .inl (keeps_takeShorts h)
    · split at h
      · cases h
        exact .inl ⟨id, rfl⟩
      · exact .inl (keeps_takeOperand h)

end Level

/-! ## The arguments behind a verb -/

section
variable {env : Environment} {v : Verb} {s s' : State} {args : List String} {a : VerbArguments}

/-- The arguments behind a verb are taken one after the other. -/
theorem readVerb_eq (env : Environment) (v : Verb) (s : State) (args : List String) :
    readVerb env v s args = args.foldlM (Level.verb v).take s >>= finishVerb env v := by
  induction args generalizing s with
  | nil => rfl
  | cons arg args ih =>
    rw [readVerb, List.foldlM_cons, bind_assoc]
    exact congrArg _ (funext ih)

theorem fitting_of_takeAll {l : Level} (h : args.foldlM l.take s = .ok s') (hs : Fitting s.given) :
    Fitting s'.given := by
  induction args generalizing s with
  | nil =>
    cases h
    exact hs
  | cons arg args ih =>
    rw [List.foldlM_cons] at h
    obtain ⟨s₁, htake, h⟩ := bind_eq_ok.1 h
    obtain hkeeps | ⟨-, hgiven⟩ := Level.take_cases htake
    · exact ih h (hkeeps.fitting hs)
    · exact ih h (hgiven ▸ hs)

theorem onlyOperands_of_takeAll {l : Level} (h : args.foldlM l.take s = .ok s')
    (hargs : "--" ∉ args) : s'.onlyOperands = s.onlyOperands := by
  induction args generalizing s with
  | nil =>
    cases h
    rfl
  | cons arg args ih =>
    rw [List.mem_cons, not_or] at hargs
    rw [List.foldlM_cons] at h
    obtain ⟨s₁, htake, h⟩ := bind_eq_ok.1 h
    obtain hkeeps | ⟨harg, -⟩ := Level.take_cases htake
    · exact (ih h hargs.2).trans hkeeps.onlyOperands
    · exact absurd harg.symm hargs.1

theorem finishVerb_eq_ok_iff : finishVerb env v s = .ok a ↔ ∃ s', s.settle = .ok s' ∧
    ((s'.given.lookup .open).isSome && (s'.given.lookup .upload).isSome) = false ∧
    (v.operand?.any (!·.isMany) && s'.operands.isEmpty) = false ∧
    a = ⟨v, s'.given, variableOptions env v s'.given, s'.operands⟩ := by
  unfold finishVerb
  rw [bind_eq_ok]
  refine exists_congr fun s' => and_congr_right fun _ => ?_
  cases (s'.given.lookup .open).isSome && (s'.given.lookup .upload).isSome with
  | true => simp
  | false =>
    cases v.operand?.any (!·.isMany) && s'.operands.isEmpty with
    | true => simp
    | false => simp [pure, Except.pure, eq_comm]

/-- What the options of a verb are given fits them. -/
theorem fitting_of_readVerb (h : readVerb env v {} args = .ok a) : a.verb = v ∧ Fitting a.given := by
  rw [readVerb_eq] at h
  obtain ⟨s, hs, h⟩ := bind_eq_ok.1 h
  obtain ⟨s', hsettle, -, -, rfl⟩ := finishVerb_eq_ok_iff.1 h
  have hfitting := fitting_of_takeAll hs fun x hx => by cases hx
  exact ⟨rfl, (State.keeps_settle hsettle).1.fitting hfitting⟩

/-- The same arguments with another environment. -/
theorem readVerb_env (h : readVerb env v s args = .ok a) (env' : Environment) :
    readVerb env' v s args = .ok { a with fromVariables := variableOptions env' v a.given } := by
  rw [readVerb_eq] at h ⊢
  obtain ⟨s₁, hs, h⟩ := bind_eq_ok.1 h
  obtain ⟨s', hsettle, hopen, hoperand, rfl⟩ := finishVerb_eq_ok_iff.1 h
  exact bind_eq_ok.2 ⟨s₁, hs, finishVerb_eq_ok_iff.2 ⟨s', hsettle, hopen, hoperand, rfl⟩⟩

/-! ## One option more -/

/-- The argument `--o=x`. -/
def assign (o : Opt) (x : String) : String := "--" ++ o.long ++ "=" ++ x

theorem find?_long : ∀ v : Verb, ∀ o ∈ v.options, v.options.find? (·.long == o.long) = some o := by
  intro v
  cases v <;> decide

theorem no_equals_long (o : Opt) : ∀ c ∈ o.long.toList, (c != '=') = true := by
  cases o <;> simp [Opt.long]

theorem toList_assign (o : Opt) (x : String) :
    (assign o x).toList = '-' :: '-' :: (o.long.toList ++ '=' :: x.toList) := by
  simp [assign]

/-- The name of an option ends at the equals sign. -/
theorem takeWhile_assign (o : Opt) (rest : List Char) :
    (o.long.toList ++ '=' :: rest).takeWhile (· != '=') = o.long.toList := by
  rw [List.takeWhile_append_of_pos (no_equals_long o)]
  simp

theorem attached?_assign (o : Opt) (x : String) :
    Level.attached? (o.long.toList ++ '=' :: x.toList) = some x := by
  unfold Level.attached?
  rw [List.dropWhile_append_of_pos (no_equals_long o)]
  simp

theorem take_assign {o : Opt} {name x : String} {kind : ValueKind} {g : Given} (ho : o ∈ v.options)
    (hshape : o.shape = .value name kind) (hx : kind.read x = .ok g)
    (honly : s.onlyOperands = false) (hs : s.settle = .ok s') (hnew : s'.given.lookup o = none) :
    (Level.verb v).take s (assign o x) = .ok { s' with given := s'.given ++ [(o, g)] } := by
  have hwants : Level.wantsValue o = true := by rw [Level.wantsValue, hshape]
  have hgive : ∀ g, s'.give o g = .ok { s' with given := s'.given ++ [(o, g)] } := fun g => by
    rw [State.give, hnew]
    rfl
  have htake : (Level.verb v).take s (assign o x) =
      (Level.verb v).takeLong s (o.long.toList ++ '=' :: x.toList) := by
    unfold Level.take
    rw [honly, toList_assign]
    cases h : o.long.toList ++ '=' :: x.toList with
    | nil => simp at h
    | cons => rfl
  rw [htake, Level.takeLong_eq, takeWhile_assign, String.ofList_toList]
  rw [show (Level.verb v).options.find? (·.long == o.long) = some o from find?_long v o ho]
  dsimp only
  rw [if_pos hwants, attached?_assign, Level.takeValue, hs]
  change State.settle { s' with held := some (o, some x) } = _
  have hheld := (State.keeps_settle hs).2
  obtain ⟨given, operands, held, only⟩ := s'
  obtain rfl : held = none := hheld
  unfold State.settle
  dsimp only
  rw [hshape]
  dsimp only
  rw [hgive, hx]
  exact hgive g

/-- An option that is given besides others. -/
theorem lookup_given {given : Options} {o o' : Opt} {g : Given} (h : o' ≠ o) :
    (given ++ [(o, g)]).lookup o' = given.lookup o' := by
  rw [List.lookup_append, List.lookup_cons, beq_false_of_ne h, List.lookup_nil, Option.or_none]

theorem readVerb_append {o : Opt} {name x : String} {kind : ValueKind} {g : Given}
    (ho : o ∈ v.options) (hshape : o.shape = .value name kind) (hx : kind.read x = .ok g)
    (hargs : "--" ∉ args) (h : readVerb env v {} args = .ok a) (hnew : a.given.lookup o = none) :
    readVerb env v {} (args ++ [assign o x]) =
      .ok { a with
        given := a.given ++ [(o, g)]
        fromVariables := variableOptions env v (a.given ++ [(o, g)]) } := by
  rw [readVerb_eq] at h ⊢
  obtain ⟨s, hs, h⟩ := bind_eq_ok.1 h
  obtain ⟨s', hsettle, hopen, hoperand, rfl⟩ := finishVerb_eq_ok_iff.1 h
  have honly : s.onlyOperands = false := onlyOperands_of_takeAll hs hargs
  have hlookup : ∀ o', o'.shape = .flag →
      (s'.given ++ [(o, g)]).lookup o' = s'.given.lookup o' := by
    refine fun o' ho' => lookup_given ?_
    rintro rfl
    rw [hshape] at ho'
    cases ho'
  have hall : (args ++ [assign o x]).foldlM (Level.verb v).take {} =
      .ok { s' with given := s'.given ++ [(o, g)] } := by
    rw [List.foldlM_append]
    exact bind_eq_ok.2 ⟨s, hs, bind_eq_ok.2 ⟨_, take_assign ho hshape hx honly hsettle hnew, rfl⟩⟩
  refine bind_eq_ok.2 ⟨_, hall, finishVerb_eq_ok_iff.2
    ⟨{ s' with given := s'.given ++ [(o, g)] }, ?_, ?_, hoperand, rfl⟩⟩
  · rw [State.settle, (State.keeps_settle hsettle).2]
  · rwa [hlookup .open rfl, hlookup .upload rfl]

end

/-! ## All arguments -/

section
variable {env : Environment} {s : State} {args : List String} {a : Arguments} {b : VerbArguments}

/-- The arguments behind a verb decide what is read, whatever stands before it. -/
theorem readProgram_congr (h : readProgram env s args = .ok a) (hb : a.verb = some b) :
    ∃ rest, rest ⊆ args ∧ readVerb env b.verb {} rest = .ok b ∧
      ∀ env' more b', readVerb env' b.verb {} (rest ++ more) = .ok b' →
        readProgram env' s (args ++ more) = .ok { a with verb := some b' } := by
  induction args generalizing s with
  | nil =>
    obtain ⟨s', -, h⟩ := bind_eq_ok.1 h
    split at h
    · cases h
    · cases h
      cases hb
  | cons arg args ih =>
    unfold readProgram at h
    split at h
    next hwaits =>
      obtain ⟨s₁, htake, h⟩ := bind_eq_ok.1 h
      obtain ⟨rest, hsub, hrest, hmore⟩ := ih h
      refine ⟨rest, List.subset_cons_of_subset arg hsub, hrest, fun env' more b' hb' => ?_⟩
      rw [List.cons_append, readProgram, if_pos hwaits]
      exact bind_eq_ok.2 ⟨s₁, htake, hmore env' more b' hb'⟩
    next hwaits =>
      split at h
      · obtain ⟨_, -, h⟩ := bind_eq_ok.1 h
        cases h
      next hhelp =>
        split at h
        next v hv =>
          obtain ⟨b', hverb, h⟩ := bind_eq_ok.1 h
          obtain ⟨s', hsettle, h⟩ := bind_eq_ok.1 h
          cases h
          cases hb
          obtain ⟨rfl, -⟩ := fitting_of_readVerb hverb
          refine ⟨args, List.subset_cons_self arg args, hverb, fun env' more b' hb' => ?_⟩
          rw [List.cons_append, readProgram, if_neg hwaits, if_neg hhelp, hv]
          exact bind_eq_ok.2 ⟨b', hb', bind_eq_ok.2 ⟨s', hsettle, rfl⟩⟩
        next hv =>
          obtain ⟨s₁, htake, h⟩ := bind_eq_ok.1 h
          obtain ⟨rest, hsub, hrest, hmore⟩ := ih h
          refine ⟨rest, List.subset_cons_of_subset arg hsub, hrest, fun env' more b' hb' => ?_⟩
          rw [List.cons_append, readProgram, if_neg hwaits, if_neg hhelp, hv]
          exact bind_eq_ok.2 ⟨s₁, htake, hmore env' more b' hb'⟩

/-- Arguments that are read with one environment are read with every other one, and only what comes
from variables is another. -/
theorem readArguments_env (h : readArguments env args = .ok a) (hb : a.verb = some b)
    (env' : Environment) : readArguments env' args =
      .ok { a with verb := some { b with fromVariables := variableOptions env' b.verb b.given } } := by
  obtain ⟨rest, -, hrest, hmore⟩ := readProgram_congr h hb
  have hread := hmore env' [] _ (by rw [List.append_nil]; exact readVerb_env hrest env')
  rwa [List.append_nil] at hread

/-- One more argument gives a value to one more option. -/
theorem readArguments_append {o : Opt} {name x : String} {kind : ValueKind} {g : Given}
    (h : readArguments env args = .ok a) (hb : a.verb = some b) (ho : o ∈ b.verb.options)
    (hshape : o.shape = .value name kind) (hx : kind.read x = .ok g) (hargs : "--" ∉ args)
    (hnew : b.given.lookup o = none) :
    readArguments env (args ++ [assign o x]) =
      .ok { a with verb := some { b with
        given := b.given ++ [(o, g)]
        fromVariables := variableOptions env b.verb (b.given ++ [(o, g)]) } } := by
  obtain ⟨rest, hsub, hrest, hmore⟩ := readProgram_congr h hb
  exact hmore env [assign o x] _
    (readVerb_append ho hshape hx (fun hmem => hargs (hsub hmem)) hrest hnew)

end

theorem read_eq_ok_iff {env : Environment} {args : List String} {c : CommandLine} :
    CommandLine.read env args = .ok c ↔ ∃ a, readArguments env args = .ok a ∧ a.commandLine = c := by
  unfold CommandLine.read
  cases readArguments env args <;> simp [Except.map]

/-! ## What is asked of the tests -/

/-- The variable that names a filter for the tests. -/
def grepVariable : String := "STYLEGATE_TEST_GREP"

theorem envName?_eq_none {o : Opt} (h : o ≠ .grep) : o.envName? = none := by
  cases o <;> first | rfl | exact absurd rfl h

/-- A verb whose tests can be chosen has the filter before the time limit, and no other way to it. -/
theorem own_cases (v : Verb) :
    .grep ∉ v.own ∨ ∃ front, v.own = front ++ [.grep, .timeout] ∧ .grep ∉ front := by
  cases v with
  | test | testModule | all => exact .inr ⟨[], rfl, List.not_mem_nil⟩
  | coverage => exact .inr ⟨[.report, .open, .upload], rfl, by decide⟩
  | lint | scan | checkStyle | «show» | rules | info => exact .inl (by decide)

/-- Only the filter for the tests comes from a variable. -/
theorem variableOptions_eq (env : Environment) (v : Verb) (given : Options) :
    variableOptions env v given =
      if .grep ∈ v.own ∧ given.lookup .grep = none then
        ((env.get? grepVariable).map fun value => (Opt.grep, Given.text value)).toList
      else [] := by
  unfold variableOptions
  generalize hf : (fun o : Opt => if (given.lookup o).isSome then none
    else (o.envName?.bind env.get?).map fun value => (o, Given.text value)) = f
  have hothers : ∀ os : List Opt, .grep ∉ os → os.filterMap f = [] := by
    refine fun os hos => List.filterMap_eq_nil_iff.2 fun o ho => ?_
    rw [← hf]
    dsimp only
    rw [envName?_eq_none fun heq => hos (heq ▸ ho), Option.bind_none, Option.map_none, ite_self]
  obtain hno | ⟨front, hown, hfront⟩ := own_cases v
  · rw [hothers _ hno, if_neg fun h => hno h.1]
  · rw [hown, List.filterMap_append, hothers front hfront, List.nil_append, List.filterMap_cons,
      hothers [.timeout] (by decide)]
    have hvalue : f .grep = if (given.lookup .grep).isSome then none
      else (env.get? grepVariable).map fun value => (.grep, .text value) := by
      rw [← hf]
      rfl
    rw [hvalue]
    cases given.lookup .grep with
    | some g => simp
    | none => cases env.get? grepVariable <;> simp

theorem lookup_variableOptions {o : Opt} (ho : o ≠ .grep) (env : Environment) (v : Verb)
    (given : Options) : (variableOptions env v given).lookup o = none := by
  rw [variableOptions_eq]
  split
  · cases env.get? grepVariable with
    | none => rfl
    | some x => exact (List.lookup_cons.trans (by rw [beq_false_of_ne ho])).trans List.lookup_nil
  · rfl

/-- The number that is written in decimal. -/
theorem readNumber?_toString {n : Nat} (h : n < Word.bound) : readNumber? (toString n) = some n := by
  have hdigit : ∀ c ∈ Nat.toDigits 10 n, c.isDigit = true :=
    fun c hc => Nat.isDigit_of_mem_toDigits (by decide) (by decide) hc
  have hlist : (toString n).toList = Nat.toDigits 10 n := by simp
  have hplus : ∀ rest, Nat.toDigits 10 n ≠ '+' :: rest := fun rest heq =>
    absurd (hdigit '+' (by rw [heq]; exact List.mem_cons_self)) (by decide)
  have hnumber : ∀ (cs : List Char) start, (∀ c ∈ cs, c.isDigit = true) →
      (cs.filterMap (Data.digitOf 10)).foldl (fun n d => 10 * n + d) start =
        Nat.ofDigitChars 10 cs start := by
    intro cs
    induction cs with
    | nil => exact fun _ _ => rfl
    | cons c cs ih =>
      intro start hcs
      rw [List.forall_mem_cons] at hcs
      rw [List.filterMap_cons, Data.Json.digitOf_of_isDigit hcs.1, Nat.ofDigitChars_cons]
      exact ih _ hcs.2
  have hvalue : Data.numberOf 10 (Nat.toDigits 10 n) = n :=
    (hnumber _ 0 hdigit).trans Nat.ofDigitChars_ten_toDigits
  have hall : (Nat.toDigits 10 n).all Data.isDigit = true := by
    rw [List.all_eq_true]
    intro c hc
    rw [Data.isDigit, Data.Json.digitOf_of_isDigit (hdigit c hc)]
    rfl
  have hsome : (Nat.toDigits 10 n).isEmpty = false :=
    List.isEmpty_eq_false_iff.2 Nat.toDigits_ne_nil
  unfold readNumber?
  rw [hlist]
  split
  next rest heq => exact absurd heq (hplus rest)
  · dsimp only
    rw [hsome, hall, hvalue, if_pos h]
    rfl

/-- What `env` and the options of `b` ask of the tests: `grepVariable` counts where `--grep` is not
given, and only there. -/
structure Asks (env : Environment) (b : VerbArguments) (o : TestOptions) : Prop where
  grep_given : ∀ g, b.given.lookup .grep = some g → ∃ x, g = .text x ∧ o.grep = some x
  grep_variable : b.given.lookup .grep = none → o.grep = env.get? grepVariable
  timeout_given : ∀ g, b.given.lookup .timeout = some g →
    ∃ n < Word.bound, g = .number n ∧ o.timeoutMs = some n
  timeout_absent : b.given.lookup .timeout = none → o.timeoutMs = none

/-- What the options of `b` ask of the tests, whatever the environment says. -/
def VerbArguments.flags (b : VerbArguments) : TestOptions where
  grep := (b.given.lookup .grep).bind Given.text?
  timeoutMs := (b.given.lookup .timeout).bind Given.number?

/-- `b` and `b'` are one verb with the same operands and the same options but for those that ask
something of the tests. -/
structure SameBeside (b b' : VerbArguments) : Prop where
  verb : b'.verb = b.verb
  operands : b'.operands = b.operands
  given : ∀ o, o ≠ .grep → o ≠ .timeout → b'.given.lookup o = b.given.lookup o
  fromVariables : ∀ o, o ≠ .grep → o ≠ .timeout →
    b'.fromVariables.lookup o = b.fromVariables.lookup o

end CommandLine

namespace Command

/-- The command runs the tests, by itself or among other things. -/
def RunsTests : Command → Prop
  | .test _ | .testModule _ _ | .coverage _ _ _ | .all _ => True
  | _ => False

/-- The same command with `o` asked of the tests, if it runs them. -/
def asking (o : TestOptions) : Command → Command
  | .test _ => .test o
  | .testModule name _ => .testModule name o
  | .coverage report a _ => .coverage report a o
  | .all _ => .all o
  | c => c

end Command

namespace CommandLine

/-- The same command line with `o` asked of the tests, if its command runs them. -/
def asking (c : CommandLine) (o : TestOptions) : CommandLine :=
  { c with command := c.command.map (Command.asking o) }

section
variable {env : Environment} {args : List String} {a : Arguments} {b b' : VerbArguments}

theorem SameBeside.command (h : SameBeside b b') :
    b'.command = b.command.asking b'.testOptions := by
  have hvalue : ∀ o, o ≠ .grep → o ≠ .timeout → b'.value? o = b.value? o := fun o hg ht => by
    rw [VerbArguments.value?, VerbArguments.value?, h.given o hg ht, h.fromVariables o hg ht]
  unfold VerbArguments.command VerbArguments.operand VerbArguments.afterwards
  rw [h.verb, h.operands, hvalue .mode (by decide) (by decide), hvalue .report (by decide) (by decide),
    hvalue .upload (by decide) (by decide), hvalue .open (by decide) (by decide)]
  cases b.verb <;> rfl

theorem SameBeside.commandLine (h : SameBeside b b') (hb : a.verb = some b) :
    ({ a with verb := some b' } : Arguments).commandLine = a.commandLine.asking b'.testOptions := by
  have hshared : ∀ o, o ≠ .grep → o ≠ .timeout →
      ({ a with verb := some b' } : Arguments).shared? o = a.shared? o := fun o hg ht => by
    rw [Arguments.shared?, Arguments.shared?, hb]
    exact congrArg (Option.or · _) (h.given o hg ht)
  unfold Arguments.commandLine asking
  rw [hshared .config (by decide) (by decide), hshared .chdir (by decide) (by decide),
    hshared .quiet (by decide) (by decide), hshared .verbose (by decide) (by decide),
    hshared .color (by decide) (by decide), hshared .json (by decide) (by decide), hb]
  dsimp only [Option.map_some]
  rw [h.command]

/-- The verbs that take options for the tests are those that run them. -/
theorem runsTests_command (htests : .grep ∈ b.verb.own) : b.command.RunsTests := by
  unfold VerbArguments.command
  cases hverb : b.verb with
  | test | testModule | coverage | all => trivial
  | lint | scan | checkStyle | «show» | rules | info =>
    rw [hverb] at htests
    exact absurd htests (by decide)

theorem asking_testOptions (b : VerbArguments) : b.command.asking b.testOptions = b.command := by
  unfold VerbArguments.command
  cases b.verb <;> rfl

variable (h : readArguments env args = .ok a) (hb : a.verb = some b)
include h hb

theorem fitting_of_read : Fitting b.given ∧
    b.fromVariables = variableOptions env b.verb b.given := by
  obtain ⟨rest, -, hrest, -⟩ := readProgram_congr h hb
  refine ⟨(fitting_of_readVerb hrest).2, ?_⟩
  have hsame := hrest.symm.trans (readVerb_env hrest env)
  exact congrArg VerbArguments.fromVariables (Except.ok.inj hsame)

/-- What is asked of the tests when arguments are read. -/
theorem testOptions_of_read (htests : .grep ∈ b.verb.own) : Asks env b b.testOptions := by
  obtain ⟨hfitting, hvariables⟩ := fitting_of_read h hb
  have hfits : ∀ o g, b.given.lookup o = some g → o.shape.Fits g := by
    intro o g hg
    obtain ⟨front, back, hgiven, -⟩ := List.lookup_eq_some_iff.1 hg
    exact hfitting (o, g) (hgiven ▸ List.mem_append_right front List.mem_cons_self)
  have hgrep : b.testOptions.grep = (b.value? .grep).bind Given.text? := rfl
  have htimeout : b.testOptions.timeoutMs = (b.value? .timeout).bind Given.number? := rfl
  rw [VerbArguments.value?, hvariables, variableOptions_eq] at hgrep htimeout
  refine ⟨fun g hg => ?_, fun hg => ?_, fun g hg => ?_, fun hg => ?_⟩
  · obtain ⟨x, rfl⟩ := hfits .grep g hg
    refine ⟨x, rfl, ?_⟩
    rw [hgrep, hg]
    rfl
  · rw [hgrep, hg, if_pos ⟨htests, rfl⟩]
    cases env.get? grepVariable <;> rfl
  · obtain ⟨n, hn, rfl⟩ := hfits .timeout g hg
    refine ⟨n, hn, rfl, ?_⟩
    rw [htimeout, hg]
    rfl
  · rw [htimeout, hg]
    split
    · cases env.get? grepVariable <;> rfl
    · rfl

/-- Without the variable the same arguments ask what the options ask. -/
theorem read_without : CommandLine.read (env.without grepVariable) args =
    .ok (a.commandLine.asking b.flags) := by
  have hnone : (env.without grepVariable).get? grepVariable = none := by
    rw [Environment.get?, Environment.without, List.lookup_eq_none_iff]
    intro v hv
    exact bne_iff_ne.2 (Ne.symm (bne_iff_ne.1 (List.mem_filter.1 hv).2))
  have hvariables : ∀ given, variableOptions (env.without grepVariable) b.verb given = [] :=
    fun given => by
      rw [variableOptions_eq, hnone]
      exact ite_self []
  have hread := readArguments_env h hb (env.without grepVariable)
  rw [hvariables] at hread
  rw [CommandLine.read, hread]
  have hsame : SameBeside b { b with fromVariables := [] } :=
    ⟨rfl, rfl, fun _ _ _ => rfl, fun o hg _ => by
      rw [(fitting_of_read h hb).2, lookup_variableOptions hg]
      rfl⟩
  have hflags : VerbArguments.testOptions { b with fromVariables := [] } = b.flags := by
    simp [VerbArguments.testOptions, VerbArguments.flags, VerbArguments.value?]
  exact congrArg Except.ok ((hsame.commandLine hb).trans (by rw [hflags]))

/-- One more argument asks one thing more of the tests. -/
theorem read_append {o : Opt} {name x : String} {kind : ValueKind} {g : Given}
    (htests : .grep ∈ b.verb.own) (ho : o = .grep ∨ o = .timeout) (hshape : o.shape = .value name kind)
    (hx : kind.read x = .ok g) (hargs : "--" ∉ args) (hnew : b.given.lookup o = none) :
    let b' : VerbArguments :=
      { b with
        given := b.given ++ [(o, g)]
        fromVariables := variableOptions env b.verb (b.given ++ [(o, g)]) }
    CommandLine.read env (args ++ [assign o x]) = .ok (a.commandLine.asking b'.testOptions) := by
  intro b'
  have hmem : o ∈ b.verb.options := by
    obtain hno | ⟨front, hown, -⟩ := own_cases b.verb
    · exact absurd htests hno
    · rw [Verb.options, hown]
      obtain rfl | rfl := ho <;> simp
  have hsame : SameBeside b b' := by
    refine ⟨rfl, rfl, fun o' hg ht => lookup_given ?_, fun o' hg _ => ?_⟩
    · obtain rfl | rfl := ho
      · exact hg
      · exact ht
    · rw [(fitting_of_read h hb).2, lookup_variableOptions hg, lookup_variableOptions hg]
  rw [CommandLine.read, readArguments_append h hb hmem hshape hx hargs hnew]
  exact congrArg Except.ok (hsame.commandLine hb)

/-- The filter is given by one more argument, and counts before the variable. -/
theorem read_grep (htests : .grep ∈ b.verb.own) (hargs : "--" ∉ args)
    (hnew : b.given.lookup .grep = none) (x : String) :
    CommandLine.read env (args ++ [assign .grep x]) =
      .ok (a.commandLine.asking { b.testOptions with grep := some x }) := by
  rw [read_append h hb htests (.inl rfl) rfl (g := .text x) rfl hargs hnew]
  refine congrArg (fun o => Except.ok (a.commandLine.asking o)) ?_
  have hgrep : (b.given ++ [(Opt.grep, Given.text x)]).lookup .grep = some (.text x) := by
    rw [List.lookup_append, hnew]
    rfl
  have htimeout : (b.given ++ [(Opt.grep, Given.text x)]).lookup .timeout =
      b.given.lookup .timeout := lookup_given (by decide)
  have hvariable : ∀ given, (variableOptions env b.verb given).lookup .timeout = none :=
    lookup_variableOptions (by decide) env b.verb
  unfold VerbArguments.testOptions VerbArguments.value?
  dsimp only
  rw [(fitting_of_read h hb).2, hgrep, htimeout, hvariable, hvariable]
  rfl

/-- The time limit is given by one more argument, in decimal. -/
theorem read_timeout (htests : .grep ∈ b.verb.own) (hargs : "--" ∉ args)
    (hnew : b.given.lookup .timeout = none) {n : Nat} (hn : n < Word.bound) :
    CommandLine.read env (args ++ [assign .timeout (toString n)]) =
      .ok (a.commandLine.asking { b.testOptions with timeoutMs := some n }) := by
  have hx : ValueKind.number.read (toString n) = .ok (.number n) := by
    simp only [ValueKind.read, readNumber?_toString hn]
  rw [read_append h hb htests (.inr rfl) rfl hx hargs hnew]
  refine congrArg (fun o => Except.ok (a.commandLine.asking o)) ?_
  have hsame : variableOptions env b.verb (b.given ++ [(.timeout, .number n)]) = b.fromVariables := by
    rw [(fitting_of_read h hb).2, variableOptions_eq, variableOptions_eq, lookup_given (by decide)]
  unfold VerbArguments.testOptions VerbArguments.value?
  dsimp only
  rw [hsame, lookup_given (by decide), List.lookup_append, hnew]
  rfl

end

end CommandLine

end BuildGate
