import BuildGate.Proofs.ExitStatus
import BuildGate.Proofs.VerblessArguments

/-!
# Runs that do nothing

A run with the status of success has told what was asked for or carried a command out, with one
exception: options of every verb alone ask for nothing, are no error, and leave no trace. Only no
arguments at all are answered with help.

**Results.**
* `runCommand_passes_iff`: when a command that is asked for passes.
* `passes_iff`: what the status of success means, and which arguments ask for nothing.
* `passes_iff_quiet`: a run that passes and does nothing.
-/
namespace BuildGate.Gate

open CommandLine (AreFlags OnlyShared Opt Refusal Spelled)

/-- How a run of `s` comes to end with status 0. -/
inductive Passes (runner : Runner) (s : Start) : Prop
  /-- Help or the version is asked for, and told. -/
  | told {r : Refusal} (hread : CommandLine.read s.env s.args = .error r)
    (hasked : r = .version ∨ ∃ topic inFull, r = .help topic inFull)
  /-- The number of the version is asked for, and printed. -/
  | versionOnly {c : CommandLine} (hread : CommandLine.read s.env s.args = .ok c)
    (hversion : c.versionOnly = true) (hout : (runWith runner s).out = version ++ "\n")
  /-- A command is asked for, and carried out without a failure. -/
  | carriedOut {c : CommandLine} {command : Command} {t : FileTree} {ready : Ready}
    (hread : CommandLine.read s.env s.args = .ok c) (hversion : c.versionOnly = false)
    (hcommand : c.command = some command) (hready : prepare runner s c = (t, .ok ready))
    (hdone : (mainStep c ready.context command { tree := ready.tree }).1 = .ok ())
  /-- Nothing is asked for. -/
  | idle (hnothing : OnlyShared s.args)

section
variable {runner : Runner} {laid : List Answer → Prop}

theorem endRefused_passes_iff (s : Start) (r : Refusal) : (endRefused s r).status = 0 ↔
    r = .version ∨ ∃ topic inFull, r = .help topic inFull := by
  cases r <;> simp [endRefused, Refusal.status]

/-- A command that is asked for passes if the run is set up and the command succeeds. -/
theorem runCommand_passes_iff (hrun : runner.InRange laid) (s : Start) (c : CommandLine)
    (command : Command) : (runCommand runner s c command).status = 0 ↔
      ∃ t ready, prepare runner s c = (t, .ok ready) ∧
        (mainStep c ready.context command { tree := ready.tree }).1 = .ok () := by
  have hzero : ∀ {t ready}, prepare runner s c = (t, .ok ready) →
      ((runCommand runner s c command).status = 0 ↔
        (mainStep c ready.context command { tree := ready.tree }).1 = .ok ()) := by
    intro t ready h
    rw [runCommand_status h]
    exact statusOf_eq_zero fun e he => exits_of_mainStep hrun h he
  constructor
  · intro hstatus
    rcases hprepare : prepare runner s c with ⟨t, f | ready⟩
    · exact absurd hstatus (runCommand_fault hprepare command)
    · exact ⟨t, ready, rfl, (hzero hprepare).1 hstatus⟩
  · rintro ⟨t, ready, h, hok⟩
    exact (hzero h).2 hok

/-- A run ends with status 0 exactly if it `Passes`. The arguments that ask for nothing are
`OnlyShared` ones, and with them nothing happens. -/
theorem passes_iff (hrun : runner.InRange laid) (s : Start) :
    ((runWith runner s).status = 0 ↔ Passes runner s) ∧
    (OnlyShared s.args ↔ ∃ c, CommandLine.read s.env s.args = .ok c ∧ c.versionOnly = false ∧
      c.command = none) ∧
    (OnlyShared s.args → runWith runner s = { tree := s.tree }) := by
  have hidle := CommandLine.nothingAsked_iff s.env s.args
  have hend : OnlyShared s.args → runWith runner s = { tree := s.tree } := by
    intro hnothing
    obtain ⟨c, hread, hversion, hcommand⟩ := hidle.1 hnothing
    unfold runWith
    rw [hread]
    dsimp only
    rw [hversion, if_neg Bool.false_ne_true, hcommand]
  refine ⟨⟨fun hstatus => ?_, fun hpasses => ?_⟩, hidle, hend⟩
  · cases hread : CommandLine.read s.env s.args with
    | error r =>
      have hrefused : runWith runner s = endRefused s r := by rw [runWith, hread]
      exact .told hread ((endRefused_passes_iff s r).1 (hrefused ▸ hstatus))
    | ok c =>
      cases hversion : c.versionOnly with
      | true =>
        refine .versionOnly hread hversion ?_
        rw [runWith, hread]
        dsimp only
        rw [hversion, if_pos rfl]
      | false =>
        cases hcommand : c.command with
        | none => exact .idle (hidle.2 ⟨c, hread, hversion, hcommand⟩)
        | some command =>
          have hrunCommand : runWith runner s = runCommand runner s c command := by
            rw [runWith, hread]
            dsimp only
            rw [hversion, if_neg Bool.false_ne_true, hcommand]
          obtain ⟨t, ready, hready, hdone⟩ :=
            (runCommand_passes_iff hrun s c command).1 (hrunCommand ▸ hstatus)
          exact .carriedOut hread hversion hcommand hready hdone
  · cases hpasses with
    | @told r hread hasked =>
      rw [runWith, hread]
      exact (endRefused_passes_iff s r).2 hasked
    | versionOnly hread hversion =>
      rw [runWith, hread]
      dsimp only
      rw [hversion, if_pos rfl]
    | @carriedOut c command t ready hread hversion hcommand hready hdone =>
      rw [runWith, hread]
      dsimp only
      rw [hversion, if_neg Bool.false_ne_true, hcommand]
      exact (runCommand_passes_iff hrun s c command).2 ⟨t, ready, hready, hdone⟩
    | idle hnothing => rw [hend hnothing]

/-- A run that is asked for nothing but to be quiet passes and does nothing. -/
theorem passes_iff_quiet :
    let s : Start := { args := ["-q"] }
    (Host.runner s.env).InRange (fun _ => True) ∧ OnlyShared s.args ∧ Passes (Host.runner s.env) s ∧
      run s = { status := 0, out := "", err := "", tree := {} } ∧
      ∃ c, CommandLine.read s.env s.args = .ok c ∧ ¬ (c.versionOnly = true ∨ c.command.isSome) := by
  intro s
  have hquiet : OnlyShared ["-q"] := by
    have hflags : AreFlags Opt.shared [.quiet] := List.forall_mem_singleton.2 (by decide)
    have hwords : Spelled Opt.shared ["-q"] [⟨.quiet, none⟩] := .letters hflags (by decide)
    refine ⟨hwords.spelling, .inl rfl, by simp, fun o _ => List.countP_le_length, ?_⟩
    exact List.forall_mem_singleton.2 ⟨.flag, rfl⟩
  obtain ⟨hstatus, hread, hend⟩ := passes_iff (Host.runner_inRange s.env) s
  obtain ⟨c, hc, hversion, hcommand⟩ := hread.1 hquiet
  refine ⟨Host.runner_inRange s.env, hquiet, hstatus.1 ?_, hend hquiet, c, hc, ?_⟩
  · rw [hend hquiet]
  · rw [hversion, hcommand]
    simp

end

end BuildGate.Gate
