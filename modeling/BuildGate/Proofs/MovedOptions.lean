import BuildGate.Proofs.OwnArguments
import BuildGate.Proofs.SpelledOptions

/-!
# Options before and behind the verb

Options of every verb may stand before the verb and behind it. Options that are not counted mean the
same on both sides. How often an option is counted does not: what is counted before the verb is
forgotten as soon as it is counted behind it.

**Results.**
* `readArguments_sides`: what is read of options before the verb, behind it, and of its own arguments.
* `commandLine_sides`: what it comes to if the options behind the verb are moved before it.
* `read_moved`: when a command line means the same with its options moved.
-/
namespace BuildGate.CommandLine

open FileTree (bind_eq_ok)

section
variable {env : Environment} {word : String} {v : Verb} {before after own : List String}
  {ms ns : List Mention} {g g' all : Options} {a : Arguments} {b : VerbArguments} {c : CommandLine}
  {o : Opt}

/-! ## What is read on both sides -/

/-- Behind options that are given, the arguments behind a verb are read by themselves. -/
theorem readProgram_verb (hword : Verb.ofWord? word = some v) (g : Options) (args : List String) :
    readProgram env (.ofGiven g) (word :: args) = .ok a ↔
      ∃ b, readVerb env v {} args = .ok b ∧ a = ⟨g, some b⟩ := by
  have hhelp : word ≠ "help" := by
    rintro rfl
    have hnone : Verb.ofWord? "help" = none := by decide
    cases hnone.symm.trans hword
  have hopen : ¬(State.ofGiven g).onlyOperands = true := Bool.false_ne_true
  rw [readProgram_cons env (State.filled_of_held rfl), if_neg hopen, if_neg hhelp, hword]
  dsimp only
  rw [bind_eq_ok]
  refine exists_congr fun b => and_congr_right fun _ => ?_
  simp [finishProgram, State.settle, State.ofGiven, bind, Except.bind, pure, Except.pure, eq_comm]

/-- Options before a verb and behind it, and its own arguments, are read apart. -/
theorem readArguments_sides (hword : Verb.ofWord? word = some v) (hbefore : Spelling Opt.shared before ms)
    (hafter : Spelling Opt.shared after ns) (hown : NoneShared own) :
    readArguments env (before ++ word :: (after ++ own)) = .ok a ↔
      ∃ g g' b, ms.foldlM put [] = .ok g ∧ ns.foldlM put [] = .ok g' ∧
        readVerb env v {} own = .ok b ∧ a = ⟨g, some (b.behind g')⟩ := by
  have hprogram := hbefore.restrict fun m hm => List.mem_cons_of_mem .versionOnly (hbefore.mem m hm)
  have hverb : ∀ b', readVerb env v {} (after ++ own) = .ok b' ↔
      ∃ g' b, ns.foldlM put [] = .ok g' ∧ readVerb env v {} own = .ok b ∧ b' = b.behind g' := by
    intro b'
    refine (readVerb_spelled (g := []) hafter).trans (exists_congr fun g' => ?_)
    rw [exists_and_left]
    refine and_congr_right fun hputs => ?_
    have hshared : ∀ x ∈ g', x.1 ∈ Opt.shared := (holds_nil.puts hputs).mem hafter.mem
    have hbehind : State.ofGiven g' = State.behind g' {} :=
      congrArg (fun given => ({ given } : State)) (List.append_nil g').symm
    rw [hbehind, (readVerb_behind hshared env v State.ownOnly_start (.inr hown)).1]
    cases readVerb env v {} own with
    | error r => simp [Except.map]
    | ok b => simp [Except.map, eq_comm]
  refine (readProgram_spelled (g := []) Level.offers_program hprogram).trans ?_
  simp only [readProgram_verb hword, hverb]
  constructor
  · rintro ⟨g, hg, _, ⟨g', b, hg', hb, rfl⟩, rfl⟩
    exact ⟨g, g', b, hg, hg', hb, rfl⟩
  · rintro ⟨g, g', b, hg, hg', hb, rfl⟩
    exact ⟨g, hg, _, ⟨g', b, hg', hb, rfl⟩, rfl⟩

/-! ## What it comes to -/

/-- The command does not depend on options of every verb. -/
theorem command_behind (hg : ∀ x ∈ g, x.1 ∈ Opt.shared) (b : VerbArguments) :
    (b.behind g).command = b.command := by
  have hvalue : ∀ o, o ∉ Opt.shared → (b.behind g).value? o = b.value? o := fun o ho =>
    congrArg (Option.or · _) (lookup_behind hg ho b.given)
  unfold VerbArguments.command VerbArguments.testOptions VerbArguments.afterwards
    VerbArguments.operand
  rw [hvalue .mode (by decide), hvalue .grep (by decide), hvalue .timeout (by decide),
    hvalue .report (by decide), hvalue .upload (by decide), hvalue .open (by decide)]
  rfl

/-- What an option of every verb is given on both sides: behind the verb, or else before it. -/
theorem shared?_sides (hg : Holds g ms) (hg' : Holds g' ns) (hb : ∀ x ∈ b.given, x.1 ∉ Opt.shared)
    (ho : o ∈ Opt.shared) : Arguments.shared? ⟨g, some (b.behind g')⟩ o = (told o ns).or (told o ms) := by
  have hnone : b.given.lookup o = none :=
    List.lookup_eq_none_iff.2 fun x hx => bne_iff_ne.2 fun heq => hb x hx (heq ▸ ho)
  have hbehind : (b.behind g').given.lookup o = told o ns :=
    List.lookup_append.trans (by rw [hnone, Option.or_none, hg'.lookup o])
  rw [Arguments.shared?, Option.bind_some, hbehind, hg.lookup o]

/-- How often `o` counts with `ms` before the verb and `ns` behind it: as often as it stands behind
it, or if it does not stand there as often as it stands before it. -/
def countedSides (o : Opt) (ms ns : List Mention) : Nat :=
  min maxTimes (if times o ns = 0 then times o ms else times o ns)

theorem counted_of_told (ho : o.shape = .count) (ms : List Mention) :
    ((told o ms).bind Given.times?).getD 0 = min maxTimes (times o ms) := by
  rw [told_of_count ho]
  split
  next hzero => rw [hzero]; rfl
  · rfl

theorem counted_of_sides (ho : o.shape = .count) (ms ns : List Mention) :
    (((told o ns).or (told o ms)).bind Given.times?).getD 0 = countedSides o ms ns := by
  unfold countedSides
  by_cases hzero : times o ns = 0
  · rw [if_pos hzero, told_of_times hzero, Option.none_or, counted_of_told ho]
  · rw [if_neg hzero, ← counted_of_told ho ns, told_of_count ho ns, if_neg hzero, Option.some_or]

/-- What changes if the options behind a verb are moved before it. -/
theorem commandLine_sides (hg : Holds g ms) (hg' : Holds g' ns) (hall : Holds all (ms ++ ns))
    (hms : ∀ m ∈ ms, m.option ∈ Opt.shared) (hns : ∀ m ∈ ns, m.option ∈ Opt.shared)
    (hb : ∀ x ∈ b.given, x.1 ∉ Opt.shared) :
    let c := Arguments.commandLine ⟨g, some (b.behind g')⟩
    Arguments.commandLine ⟨all, some b⟩ =
        { c with verbose := min maxTimes (times .verbose (ms ++ ns)) } ∧
      c.verbose = countedSides .verbose ms ns := by
  intro c
  have hsides : ∀ o ∈ Opt.shared,
      Arguments.shared? ⟨g, some (b.behind g')⟩ o = (told o ns).or (told o ms) :=
    fun o ho => shared?_sides hg hg' hb ho
  have hmoved : ∀ o ∈ Opt.shared, Arguments.shared? ⟨all, some b⟩ o = told o (ms ++ ns) := by
    intro o ho
    have hnothing : told o [] = none := told_of_times rfl
    have hbefore := shared?_sides hall holds_nil hb ho
    rwa [hnothing, Option.none_or] at hbefore
  have hsame : ∀ o ∈ Opt.shared, o.shape ≠ .count →
      Arguments.shared? ⟨all, some b⟩ o = Arguments.shared? ⟨g, some (b.behind g')⟩ o :=
    fun o ho hcount => by rw [hmoved o ho, hsides o ho, told_append hcount (hall.once o hcount)]
  have hversion : ∀ {g : Options}, (∀ x ∈ g, x.1 ∈ Opt.shared) → g.lookup .versionOnly = none := by
    intro g hg
    have hnone := lookup_behind hg (o := .versionOnly) (by decide) []
    rwa [List.append_nil] at hnone
  have hallShared := hall.mem (List.forall_mem_append.2 ⟨hms, hns⟩)
  constructor
  · unfold c Arguments.commandLine
    rw [hsame .config (by decide) (by decide), hsame .chdir (by decide) (by decide),
      hsame .quiet (by decide) (by decide), hsame .color (by decide) (by decide),
      hsame .json (by decide) (by decide), hmoved .verbose (by decide), counted_of_told rfl]
    dsimp only [Option.map_some]
    rw [hversion hallShared, hversion (hg.mem hms), command_behind (hg'.mem hns)]
  · change (((Arguments.shared? ⟨g, some (b.behind g')⟩ .verbose).bind Given.times?).getD 0) = _
    rw [hsides .verbose (by decide), counted_of_sides rfl]

/-- Moving options over the verb changes nothing just if the option that is counted is not mentioned on
both sides, or so often behind the verb that more does not count. -/
theorem countedSides_eq_iff (o : Opt) (ms ns : List Mention) :
    min maxTimes (times o (ms ++ ns)) = countedSides o ms ns ↔
      times o ms = 0 ∨ times o ns = 0 ∨ maxTimes ≤ times o ns := by
  rw [countedSides, times_append]
  split <;> omega

/-! ## Command lines -/

/-- Options of `Opt.shared` that stand behind a verb can be moved before it: the command line is
read as well, and means the same but for `verbose`. Behind the verb that is counted anew. -/
theorem read_moved (hword : Verb.ofWord? word = some v) (hbefore : Spelling Opt.shared before ms)
    (hafter : Spelling Opt.shared after ns) (honce : Once (ms ++ ns)) (hown : NoneShared own)
    (h : CommandLine.read env (before ++ word :: (after ++ own)) = .ok c) :
    CommandLine.read env (before ++ after ++ word :: own) =
        .ok { c with verbose := min maxTimes (times .verbose (ms ++ ns)) } ∧
      c.verbose = countedSides .verbose ms ns ∧
      (CommandLine.read env (before ++ after ++ word :: own) = .ok c ↔
        times .verbose ms = 0 ∨ times .verbose ns = 0 ∨ maxTimes ≤ times .verbose ns) := by
  obtain ⟨a, ha, hc⟩ := read_eq_ok_iff.1 h
  obtain ⟨g, g', b, hg, hg', hb, rfl⟩ := (readArguments_sides hword hbefore hafter hown).1 ha
  have hms : Holds g ms := holds_nil.puts hg
  have hns : Holds g' ns := holds_nil.puts hg'
  have hsound : ∀ m ∈ ms ++ ns, m.Sound := List.forall_mem_append.2 ⟨hms.sound, hns.sound⟩
  obtain ⟨all, hputs⟩ := holds_nil.puts_iff.2 ⟨hsound, honce⟩
  -- The moved command line is one with nothing but the verb's own arguments behind the verb.
  have hall : readArguments env (before ++ after ++ word :: own) = .ok ⟨all, some b⟩ :=
    (readArguments_sides hword (hbefore.trans hafter) .nil hown).2 ⟨all, [], b, hputs, rfl, hb, rfl⟩
  have hgiven : ∀ x ∈ b.given, x.1 ∉ Opt.shared :=
    (readVerb_behind (fun x hx => absurd hx List.not_mem_nil) env v State.ownOnly_start
      (.inr hown)).2 b hb
  obtain ⟨hline, hverbose⟩ :=
    commandLine_sides hms hns (holds_nil.puts hputs) hbefore.mem hafter.mem hgiven
  rw [hc] at hline hverbose
  have hread := read_eq_ok_iff.2 ⟨_, hall, hline⟩
  refine ⟨hread, hverbose, ?_⟩
  rw [hread, ← countedSides_eq_iff, ← hverbose]
  constructor
  · intro heq
    exact congrArg CommandLine.verbose (Except.ok.inj heq)
  · intro heq
    rw [heq]

/-- What is counted before the verb is forgotten when it is counted behind it. -/
theorem read_moved_verbose :
    let mentions : List Mention := [⟨.verbose, none⟩]
    Verb.ofWord? "info" = some .info ∧ Spelling Opt.shared ["-v"] mentions ∧
      Once (mentions ++ mentions) ∧ NoneShared [] ∧
      CommandLine.read {} ["-v", "info", "-v"] = .ok { verbose := 1, command := some .info } ∧
      CommandLine.read {} ["-v", "-v", "info"] = .ok { verbose := 2, command := some .info } := by
  intro mentions
  have hword : Verb.ofWord? "info" = some .info := Verb.ofWord?_name .info
  have hflags : AreFlags Opt.shared [.verbose] := List.forall_mem_singleton.2 (by decide)
  have hspelled : Spelled Opt.shared ["-v"] mentions := .letters hflags (by decide)
  have honce : Once (mentions ++ mentions) := by
    intro o ho
    cases o <;> first | decide | exact absurd rfl ho
  have hown : NoneShared [] := fun arg h => absurd h List.not_mem_nil
  have hread : CommandLine.read {} ["-v", "info", "-v"] = .ok { verbose := 1, command := some .info } := by
    decide +kernel
  exact ⟨hword, hspelled.spelling, honce, hown, hread,
    (read_moved hword hspelled.spelling hspelled.spelling honce hown hread).1⟩

end

end BuildGate.CommandLine
