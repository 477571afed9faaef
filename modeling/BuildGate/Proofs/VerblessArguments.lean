import BuildGate.Proofs.SpelledOptions

/-!
# Arguments without a verb

Arguments are read without a verb just if they are options of the program and nothing else: at least
one, none twice unless it is counted, each with a value that it can have, and perhaps `--` at the end.

**Results.**
* `exists_spelled`, `exists_spelling`: what is read without a verb is spelled options.
* `readArguments_spelled`: what spelled options without a verb come to.
* `nothingAsked_iff`: when neither a command nor the version is asked for.
-/
namespace BuildGate.CommandLine

open FileTree (bind_eq_ok)
open Level (wantsValue)

/-! ## What is read without a verb -/

section
variable {env : Environment} {l : Level} {g : Options} {s s' : State} {o : Opt} {a : Arguments}
  {arg : String} {args words : List String} {ms : List Mention} {r : Refusal}

/-- Where a value is wanting no option can follow. -/
theorem takeFlag_wanting (hs : s.settle = .error r) (byLong : Bool) :
    l.takeFlag s o byLong = .error r := by
  unfold Level.takeFlag
  rw [hs]
  rfl

theorem takeValue_wanting (hs : s.settle = .error r) (attached : Option String) :
    Level.takeValue s o attached = .error r := by
  unfold Level.takeValue
  rw [hs]
  rfl

theorem takeLong_wanting (hs : s.settle = .error r) (body : List Char) : l.takeLong s body ≠ .ok s' := by
  rw [Level.takeLong_eq]
  split
  · simp
  · rw [takeValue_wanting hs, takeFlag_wanting hs]
    split
    · simp
    · split <;> simp

theorem takeShorts_wanting (hs : s.settle = .error r) (c : Char) (rest : List Char) :
    l.takeShorts s (c :: rest) ≠ .ok s' := by
  rw [takeShorts_cons]
  split
  · simp
  · rw [takeValue_wanting hs, takeFlag_wanting hs]
    split <;> simp [bind, Except.bind]

/-- Where options are over nothing but the end can follow. -/
theorem readProgram_over (hs : s.onlyOperands = true) (h : readProgram env s args = .ok a) :
    args = [] := by
  cases args with
  | nil => rfl
  | cons arg args =>
    rw [readProgram, hs, Bool.true_or, if_pos rfl, Level.take_operand hs] at h
    cases h

/-- Behind an option that waits for a value one stands. -/
theorem exists_value (h : readProgram env { State.ofGiven g with held := some (o, none) } args = .ok a) :
    ∃ x rest, args = x :: rest ∧ isDashed x = false := by
  have hwanting : ∀ {s : State}, s.held = some (o, none) → s.settle = .error .invalidValue :=
    fun hs => by rw [State.settle, hs]
  cases args with
  | nil =>
    obtain ⟨s', hsettle, -⟩ := bind_eq_ok.1 h
    cases hsettle
  | cons x rest =>
    refine ⟨x, rest, rfl, ?_⟩
    rw [readProgram_waits env rfl] at h
    obtain ⟨s', htake, hrest⟩ := bind_eq_ok.1 h
    cases look x with
    | ending hx =>
      subst hx
      cases htake.symm.trans (Level.take_ending rfl)
      obtain rfl := readProgram_over rfl hrest
      obtain ⟨s', hsettle, -⟩ := bind_eq_ok.1 hrest
      cases hsettle
    | long hx hbody =>
      rw [Level.take_long rfl hx hbody] at htake
      exact absurd htake (takeLong_wanting (hwanting rfl) _)
    | letters hx hc =>
      rw [Level.take_letters rfl hx hc] at htake
      exact absurd htake (takeShorts_wanting (hwanting rfl) _ _)
    | plain hx => exact hx

theorem mem_programOptions {p : Opt → Bool} (h : Level.program.options.find? p = some o)
    (ho : o ≠ .help ∧ o ≠ .version) : o ∈ programOptions := by
  have hmem : o ∈ programOptions ++ [.help, .version] := List.mem_of_find?_eq_some h
  simpa [ho] using hmem

theorem ne_help_of_wantsValue (h : wantsValue o = true) : o ≠ .help ∧ o ≠ .version := by
  constructor <;> (rintro rfl; cases h)

/-- A flag that is taken asks for no help. -/
theorem ne_help_of_takeFlag {byLong : Bool} (h : l.takeFlag s o byLong = .ok s') :
    o ≠ .help ∧ o ≠ .version := by
  obtain ⟨s₁, -, h⟩ := bind_eq_ok.1 h
  constructor <;> (rintro rfl; cases h)

theorem exists_ofGiven {byLong : Bool} (hflag : wantsValue o = false)
    (h : l.takeFlag (.ofGiven g) o byLong = .ok s) : ∃ g', s = .ofGiven g' := by
  rw [takeFlag_ofGiven (ne_help_of_takeFlag h) hflag] at h
  obtain ⟨g', -, rfl⟩ := map_eq_ok.1 h
  exact ⟨g', rfl⟩

/-- Letters that are taken are flags, and then perhaps an option with a value. -/
theorem takeShorts_cases {cs : List Char} (h : Level.program.takeShorts (.ofGiven g) cs = .ok s) :
    ∃ fs, AreFlags programOptions fs ∧ (cs = fs.filterMap Opt.short? ∨
      ∃ o c tail, o ∈ programOptions ∧ wantsValue o = true ∧ o.short? = some c ∧
        cs = fs.filterMap Opt.short? ++ c :: tail) := by
  induction cs generalizing g with
  | nil => exact ⟨[], fun o ho => absurd ho List.not_mem_nil, .inl rfl⟩
  | cons c rest ih =>
    rw [takeShorts_cons] at h
    split at h
    · cases h
    next o hfind =>
      have hc : o.short? = some c := by simpa using List.find?_some hfind
      split at h
      next hvalue =>
        refine ⟨[], fun o ho => absurd ho List.not_mem_nil, .inr ⟨o, c, rest, ?_, hvalue, hc, rfl⟩⟩
        exact mem_programOptions hfind (ne_help_of_wantsValue hvalue)
      next hvalue =>
        have hflag := Bool.eq_false_iff.2 hvalue
        obtain ⟨s₁, htake, hrest⟩ := bind_eq_ok.1 h
        obtain ⟨g', rfl⟩ := exists_ofGiven hflag htake
        obtain ⟨fs, hfs, hcases⟩ := ih hrest
        have hall : AreFlags programOptions (o :: fs) := List.forall_mem_cons.2
          ⟨⟨mem_programOptions hfind (ne_help_of_takeFlag htake), hflag, by rw [hc]; rfl⟩, hfs⟩
        refine ⟨o :: fs, hall, ?_⟩
        rw [List.filterMap_cons_some hc]
        obtain rfl | ⟨o', c', tail, ho', hvalue', hc', rfl⟩ := hcases
        · exact .inl rfl
        · exact .inr ⟨o', c', tail, ho', hvalue', hc', rfl⟩

theorem exists_attached {tail : List Char} (h : tail ≠ []) : ∃ x, Attached x tail := by
  cases tail with
  | nil => exact absurd rfl h
  | cons c rest =>
    by_cases hc : c = '='
    · subst hc
      have hx := Attached.equals (x := String.ofList rest)
      rw [String.toList_ofList] at hx
      exact ⟨_, hx⟩
    · have hx := Attached.joined (x := String.ofList (c :: rest)) String.toList_ofList hc
      rw [String.toList_ofList] at hx
      exact ⟨_, hx⟩

/-- What stands behind two hyphens is a name, or a name and a value. -/
theorem nameWord_or_assign {body : List Char} (harg : arg.toList = '-' :: '-' :: body)
    (ho : o.long = String.ofList (body.takeWhile (· != '='))) :
    arg = nameWord o ∧ Level.attached? body = none ∨ ∃ x, arg = assign o x := by
  have hname : o.long.toList = body.takeWhile (· != '=') := by rw [ho, String.toList_ofList]
  have hsplit := List.takeWhile_append_dropWhile (p := (· != '=')) (l := body)
  rw [← hname] at hsplit
  cases hdrop : body.dropWhile (· != '=') with
  | nil =>
    rw [hdrop, List.append_nil] at hsplit
    refine .inl ⟨String.toList_inj.1 ?_, by rw [Level.attached?, hdrop]⟩
    rw [harg, toList_nameWord, hsplit]
  | cons c rest =>
    have hhead := List.head?_dropWhile_not (· != '=') body
    rw [hdrop] at hhead
    have hc : c = '=' := by simpa using hhead
    refine .inr ⟨String.ofList rest, String.toList_inj.1 ?_⟩
    rw [harg, toList_assign, ← hsplit, hdrop, hc, String.toList_ofList]

/-- `args` begin with spelled options of the program. -/
def BeginsSpelled (args : List String) : Prop :=
  ∃ ws ms rest, Spelled programOptions ws ms ∧ args = ws ++ rest

theorem beginsSpelled_long {body : List Char} (harg : arg.toList = '-' :: '-' :: body)
    (htake : Level.program.takeLong (.ofGiven g) body = .ok s) (hrest : readProgram env s args = .ok a) :
    BeginsSpelled (arg :: args) := by
  rw [Level.takeLong_eq] at htake
  split at htake
  · cases htake
  next o hfind =>
    have hname : o.long = String.ofList (body.takeWhile (· != '=')) := by
      simpa using List.find?_some hfind
    obtain ⟨rfl, hnone⟩ | ⟨x, rfl⟩ := nameWord_or_assign harg hname
    · rw [hnone] at htake
      split at htake
      next hvalue =>
        -- The value is the next argument, or nothing is read.
        have ho := mem_programOptions hfind (ne_help_of_wantsValue hvalue)
        cases htake.symm.trans (takeValue_none o)
        obtain ⟨x, rest, rfl, hx⟩ := exists_value hrest
        exact ⟨_, _, rest, .longApart ho hvalue hx, rfl⟩
      next hvalue =>
        have ho := mem_programOptions hfind (ne_help_of_takeFlag htake)
        exact ⟨_, _, args, .long ho (Bool.eq_false_iff.2 hvalue), rfl⟩
    · have hsplit : body = o.long.toList ++ '=' :: x.toList := by
        simpa using harg.symm.trans (toList_assign o x)
      rw [hsplit, attached?_assign] at htake
      split at htake
      next hvalue =>
        have ho := mem_programOptions hfind (ne_help_of_wantsValue hvalue)
        exact ⟨_, _, args, .longWith ho hvalue x, rfl⟩
      · cases htake

theorem beginsSpelled_letters {c : Char} {rest : List Char} (harg : arg.toList = '-' :: c :: rest)
    (htake : Level.program.takeShorts (.ofGiven g) (c :: rest) = .ok s)
    (hrest : readProgram env s args = .ok a) : BeginsSpelled (arg :: args) := by
  obtain ⟨fs, hfs, hletters | ⟨o, d, tail, ho, hvalue, hd, hletters⟩⟩ := takeShorts_cases htake
  · obtain rfl : arg = letterWord fs [] := by
      rw [letterWord, List.append_nil, ← hletters, ← harg, String.ofList_toList]
    refine ⟨_, _, args, .letters hfs ?_, rfl⟩
    rintro rfl
    cases hletters
  · obtain rfl : arg = letterWord fs (d :: tail) := by
      rw [letterWord, ← hletters, ← harg, String.ofList_toList]
    rw [hletters] at htake
    -- A value stands behind the last letter, or else it is the next argument.
    by_cases htail : tail = []
    · subst htail
      rw [takeShorts_apart Level.offers_program hfs ho hvalue hd] at htake
      obtain ⟨g', -, rfl⟩ := map_eq_ok.1 htake
      obtain ⟨x, rest, rfl, hx⟩ := exists_value hrest
      exact ⟨_, _, rest, .lettersApart hfs ho hvalue hd hx, rfl⟩
    · obtain ⟨x, hx⟩ := exists_attached htail
      exact ⟨_, _, args, .lettersWith hfs ho hvalue hd hx, rfl⟩

/-- Without a verb every argument is taken as one of the program. -/
theorem exists_take (h : readProgram env (.ofGiven g) (arg :: args) = .ok a) (hverb : a.verb = none) :
    ∃ s, Level.program.take (.ofGiven g) arg = .ok s ∧ readProgram env s args = .ok a := by
  have hopen : ¬(State.ofGiven g).onlyOperands = true := Bool.false_ne_true
  rw [readProgram_cons env (State.filled_of_held rfl), if_neg hopen] at h
  split at h
  · obtain ⟨_, -, h⟩ := bind_eq_ok.1 h
    cases h
  · split at h
    · obtain ⟨b, -, h⟩ := bind_eq_ok.1 h
      obtain ⟨s', -, h⟩ := bind_eq_ok.1 h
      split at h
      · cases h
      · cases h
        cases hverb
    · exact bind_eq_ok.1 h

/-- Arguments that are read begin with options, unless there is a verb. -/
theorem exists_spelled (h : readProgram env (.ofGiven g) (arg :: args) = .ok a) (hverb : a.verb = none) :
    arg = "--" ∧ args = [] ∨ BeginsSpelled (arg :: args) := by
  obtain ⟨s, htake, hrest⟩ := exists_take h hverb
  cases look arg with
  | ending harg =>
    subst harg
    cases htake.symm.trans (Level.take_ending rfl)
    exact .inl ⟨rfl, readProgram_over rfl hrest⟩
  | long harg hbody =>
    rw [Level.take_long rfl harg hbody] at htake
    exact .inr (beginsSpelled_long harg htake hrest)
  | letters harg hc =>
    rw [Level.take_letters rfl harg hc] at htake
    exact .inr (beginsSpelled_letters harg htake hrest)
  | plain harg =>
    rw [Level.take_plain rfl harg] at htake
    cases htake

/-! ## What arguments without a verb come to -/

/-- Arguments that are read without a verb are nothing but options of the program. -/
theorem exists_spelling (h : readProgram env (.ofGiven g) args = .ok a) (hverb : a.verb = none) :
    ∃ words ms, Spelling programOptions words ms ∧ (args = words ∨ args = words ++ ["--"]) := by
  induction hlength : args.length using Nat.strongRecOn generalizing g args with
  | ind n ih =>
    cases args with
    | nil => exact ⟨[], [], .nil, .inl rfl⟩
    | cons arg args =>
      obtain ⟨rfl, rfl⟩ | ⟨ws, ms, rest, hws, hsplit⟩ := exists_spelled h hverb
      · exact ⟨[], [], .nil, .inr rfl⟩
      · have hpos := hws.length_pos
        rw [hsplit] at h hlength ⊢
        rw [List.length_append] at hlength
        obtain ⟨g', -, hrest⟩ := (readProgram_spelled Level.offers_program hws.spelling).1 h
        obtain ⟨words, mentions, hwords, hcases⟩ := ih rest.length (by omega) hrest rfl
        refine ⟨ws ++ words, ms ++ mentions, .append hws hwords, ?_⟩
        obtain rfl | rfl := hcases
        · exact .inl rfl
        · exact .inr (List.append_assoc ..).symm

theorem readProgram_nil (env : Environment) (hs : s.held = none) :
    readProgram env s [] = .ok a ↔ s.given ≠ [] ∧ a = ⟨s.given, none⟩ := by
  rw [readProgram, finishProgram, settle_of_held hs]
  cases hgiven : s.given with
  | nil => simp [bind, Except.bind, hgiven]
  | cons x rest => simp [bind, Except.bind, pure, Except.pure, hgiven, eq_comm]

/-- What options of the program come to when nothing stands behind them. -/
theorem readArguments_spelled (env : Environment) (h : Spelling programOptions words ms)
    (hargs : args = words ∨ args = words ++ ["--"]) :
    readArguments env args = .ok a ↔
      ms.foldlM put [] = .ok a.given ∧ a.given ≠ [] ∧ a.verb = none := by
  have hend : ∀ g, readProgram env (.ofGiven g) [] = .ok a ↔ g ≠ [] ∧ a = ⟨g, none⟩ :=
    fun g => readProgram_nil env rfl
  have hall : readArguments env args = .ok a ↔
      ∃ g, ms.foldlM put [] = .ok g ∧ readProgram env (.ofGiven g) [] = .ok a := by
    obtain rfl | rfl := hargs
    · rw [← List.append_nil args]
      exact readProgram_spelled Level.offers_program h
    · exact readProgram_spelled Level.offers_program h
  rw [hall]
  simp only [hend]
  constructor
  · rintro ⟨g, hputs, hne, rfl⟩
    exact ⟨hputs, hne, rfl⟩
  · rintro ⟨hputs, hne, hverb⟩
    obtain ⟨given, verb⟩ := a
    cases hverb
    exact ⟨given, hputs, hne, rfl⟩

/-! ## When nothing is asked for -/

/-- `args` are options of `Opt.shared` and nothing else: one at least, each that is not counted at
most once (`Once`), with values that they can have, and perhaps `--` at the end. -/
inductive OnlyShared (args : List String) : Prop
  | intro {words : List String} {ms : List Mention} (hwords : Spelling Opt.shared words ms)
    (hargs : args = words ∨ args = words ++ ["--"]) (hne : ms ≠ []) (honce : Once ms)
    (hsound : ∀ m ∈ ms, m.Sound)

/-- Arguments that are options of every verb and nothing else are those that are read and ask neither
for the version nor for a command. -/
theorem nothingAsked_iff (env : Environment) (args : List String) : OnlyShared args ↔
    ∃ c, CommandLine.read env args = .ok c ∧ c.versionOnly = false ∧ c.command = none := by
  constructor
  · rintro ⟨hwords, hargs, hne, honce, hsound⟩
    obtain ⟨g, hputs⟩ := holds_nil.puts_iff.2 ⟨hsound, honce⟩
    have hholds := holds_nil.puts hputs
    have hprogram := hwords.restrict fun m hm => List.mem_cons_of_mem .versionOnly (hwords.mem m hm)
    have hread := (readArguments_spelled env (a := ⟨g, none⟩) hprogram hargs).2
      ⟨hputs, mt hholds.eq_nil_iff.1 hne, rfl⟩
    have hversion : g.lookup .versionOnly = none := by
      refine hholds.lookup_eq_none_iff.2 (List.countP_eq_zero.2 fun m hm => ?_)
      have hshared : m.option ∈ Opt.shared := hwords.mem m hm
      rw [decide_eq_true_iff]
      rintro heq
      rw [heq] at hshared
      revert hshared
      decide
    refine ⟨_, read_eq_ok_iff.2 ⟨_, hread, rfl⟩, ?_, rfl⟩
    change (g.lookup .versionOnly).isSome = false
    rw [hversion]
    rfl
  · rintro ⟨c, hread, hversion, hcommand⟩
    obtain ⟨a, ha, rfl⟩ := read_eq_ok_iff.1 hread
    have hverb : a.verb = none := Option.map_eq_none_iff.1 hcommand
    obtain ⟨words, ms, hwords, hargs⟩ := exists_spelling (g := []) ha hverb
    obtain ⟨hputs, hne, -⟩ := (readArguments_spelled env hwords hargs).1 ha
    have hholds := holds_nil.puts hputs
    obtain ⟨hsound, honce⟩ := holds_nil.puts_iff.1 ⟨_, hputs⟩
    have hzero := hholds.lookup_eq_none_iff.1 (Option.not_isSome_iff_eq_none.1 (Bool.eq_false_iff.1 hversion))
    refine ⟨hwords.restrict fun m hm => ?_, hargs, mt hholds.eq_nil_iff.2 hne, honce, hsound⟩
    refine (List.mem_cons.1 (hwords.mem m hm)).resolve_left fun heq => ?_
    exact List.countP_eq_zero.1 hzero m hm (decide_eq_true heq)

end

end BuildGate.CommandLine
