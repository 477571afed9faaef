import BuildGate.Host.Tools
import BuildGate.Proofs.ExitCodes

/-!
# The statuses that a host reports

No program of the host ends with a status above 255: what a script exits with is cut down to that, and
every command of the shell has a small status of its own. So calls on the host report what a system
can hand on, whatever they do to the tree.

**Results.**
* `Shell.command_status`: what one command of a script keeps.
* `Shell.runScript_status`: what a whole script keeps.
* `runner_inRange`: the runner of the host.
-/
namespace BuildGate.Host

theorem cat_status (t : FileTree) (input : Input) (args : List String) :
    (cat t input args).status ≤ 1 := by
  unfold cat
  dsimp only
  split
  · exact Nat.le_refl 1
  · refine List.foldlRecOn (motive := fun w : Written => w.status ≤ 1) _ _ (Nat.zero_le 1) ?_
    intro w hw file _
    split
    · exact hw
    · exact Nat.le_refl 1

namespace Shell

variable {s : Shell}

@[simp] theorem write_status (s : Shell) (w : Written) : (s.write w).1.status = w.status := rfl

@[simp] theorem fail_status (s : Shell) (status : Nat) (words : String) :
    (s.fail status words).1.status = status := rfl

theorem changeEach_status (s : Shell) (what : String) (f : Change) (paths : List String) :
    (s.changeEach what f paths).1.status ≤ 1 := by
  refine List.foldlRecOn (motive := fun r : FileTree × Written => r.2.status ≤ 1) paths _
    (Nat.zero_le 1) ?_
  intro (t, w) hw path _
  dsimp only
  split
  · exact hw
  · exact Nat.le_refl 1

/-! ## One command -/

/-- Each command has a small status of its own, or leaves the one before it. -/
theorem command_status (h : s.status ≤ 255) (args : List String) :
    (s.command args).1.status ≤ 255 := by
  have hchange : ∀ what f paths, (s.changeEach what f paths).1.status ≤ 255 :=
    fun what f paths => Nat.le_trans (s.changeEach_status what f paths) (by decide)
  have hcat : ∀ args, (s.write (cat s.tree s.input args)).1.status ≤ 255 :=
    fun args => Nat.le_trans (cat_status s.tree s.input args) (by decide)
  unfold command
  split
  · simp
  · simp
  · simp
  · simp
  · split <;> simp [echo]
  · simp
  · dsimp only
    split <;> exact hcat _
  · split
    · exact h
    · split
      · dsimp only
        omega
      · simp
  · split
    · exact h
    · simp
  · dsimp only
    split <;> simp
  · split <;> exact hchange ..
  · exact hchange ..
  · exact hchange ..
  · simp

theorem redirect_status {k k' : Sinks} {s' : Shell} {r : Redirect}
    (h : s.redirect k r = .ok (s', k')) : s'.status = s.status := by
  unfold redirect at h
  dsimp only at h
  split at h
  · split at h
    · cases h
      rfl
    · split at h
      · cases h
        rfl
      · cases h
        rfl
      · cases h
  · split at h
    · cases h
      rfl
    · split at h
      · cases h
        rfl
      · cases h
      · cases h
  · split at h
    · cases h
      rfl
    · cases h

theorem redirects_status {k' : Sinks} {s' : Shell} : ∀ {rs : List Redirect} {s : Shell} {k : Sinks},
    rs.foldlM (fun (s, k) r => s.redirect k r) (s, k) = .ok (s', k') → s'.status = s.status
  | [], _, _, h => by
    cases h
    rfl
  | r :: rs, s, k, h => by
    rw [List.foldlM_cons] at h
    cases hr : s.redirect k r with
    | error words =>
      simp only [hr] at h
      cases h
    | ok opened =>
      simp only [hr] at h
      exact (redirects_status h).trans (redirect_status hr)

theorem send_status (sink : Sink) (text : String) : (s.send sink text).status = s.status := by
  unfold send
  split
  · rfl
  · rfl
  · rfl
  · split
    · split <;> rfl
    · rfl

theorem runSimple_status (h : s.status ≤ 255) (c : Simple) : (s.runSimple c).status ≤ 255 := by
  unfold runSimple
  split
  · simp
  next opened k hopened =>
    have hopen : opened.status ≤ 255 := by
      rw [redirects_status hopened]
      exact h
    dsimp only
    rw [send_status, send_status]
    split
    · exact command_status hopen _
    · exact command_status hopen _

/-! ## A script -/

theorem runPipe_status : ∀ {s : Shell} (cs : List Simple), s.status ≤ 255 → (s.runPipe cs).status ≤ 255
  | _, [], h => h
  | _, [c], h => runSimple_status h c
  | s, c :: c' :: rest, h => by
    unfold runPipe
    exact runPipe_status _ h

/-- A script leaves a small status behind. -/
theorem runScript_status : ∀ {s : Shell} (script : Script), s.status ≤ 255 →
    (s.runScript script).status ≤ 255
  | _, [], h => h
  | s, (joint, pipe) :: rest, h => by
    unfold runScript
    split
    · exact h
    · have hnext : ∀ runs : Bool, (if runs then s.runPipe pipe else s).status ≤ 255 := by
        intro runs
        cases runs with
        | true => exact runPipe_status pipe h
        | false => exact h
      exact runScript_status rest (hnext _)

theorem run_status (h : s.status ≤ 255) (text : String) : (s.run text).status ≤ 255 := by
  unfold run
  split
  · exact runScript_status _ h
  · simp

end Shell

/-! ## Calls -/

theorem exitCode_small {s : Shell} (h : s.status ≤ 255) {code : Int}
    (hcode : s.exitCode = some code) : 0 ≤ code ∧ code ≤ 255 := by
  unfold Shell.exitCode at hcode
  split at hcode
  · cases hcode
  · cases hcode
    omega

theorem runShell_code {env : Environment} {t : FileTree} {input : Input} {args : List String}
    {code : Int} (h : (runShell env t input args).code = some code) : 0 ≤ code ∧ code ≤ 255 := by
  unfold runShell at h
  refine exitCode_small ?_ h
  split
  · exact Shell.run_status (by simp) _
  · exact Shell.run_status (by simp) _
  · split
    · simp
    · split
      · exact Shell.run_status (by simp) _
      · simp

theorem ofWritten_code {t : FileTree} {w : Written} (hw : w.status ≤ 255) {code : Int}
    (h : (Left.ofWritten t w).code = some code) : 0 ≤ code ∧ code ≤ 255 := by
  cases h
  omega

/-- Every program ends with a status that a system can hand on, or by a signal. -/
theorem run_code {env : Environment} {t : FileTree} {input : Input} {args : List String} {code : Int}
    (p : Program) (h : (p.run env t input args).code = some code) : 0 ≤ code ∧ code ≤ 255 := by
  cases p with
  | shell => exact runShell_code h
  | yes => exact ofWritten_code (by simp) h
  | no => exact ofWritten_code (by simp) h
  | print => exact ofWritten_code (by simp [echo]) h
  | join => exact ofWritten_code (Nat.le_trans (cat_status t input args) (by decide)) h

theorem start_code {env : Environment} {t : FileTree} {input : Input} {call : Invocation}
    {left : Left} {code : Int} (h : start env t input call = .ok left) (hcode : left.code = some code) :
    0 ≤ code ∧ code ≤ 255 := by
  have hprogram : ∀ there, (do
        let program ← Program.find there call.program
        return program.run env there input call.args) = Except.ok left → 0 ≤ code ∧ code ≤ 255 := by
    intro there h
    obtain ⟨program, -, hrun⟩ := FileTree.bind_eq_ok.1 h
    cases hrun
    exact run_code program hcode
  unfold start at h
  dsimp only at h
  split at h <;> exact (FileTree.bind_eq_ok.1 h).elim fun there h => hprogram there h.2

theorem carryOut_code {env : Environment} {t : FileTree} {call : Invocation} {left : Left} {code : Int}
    (h : carryOut env t call = .ok left) (hcode : left.code = some code) : 0 ≤ code ∧ code ≤ 255 := by
  unfold carryOut at h
  split at h
  · cases h
  next input _ =>
    cases hstart : start env t input call with
    | error cause =>
      rw [hstart] at h
      cases h
    | ok started =>
      rw [hstart] at h
      cases h
      exact start_code hstart hcode

/-- A call ends as its program does. -/
theorem runner_result (env : Environment) (call : Invocation) (w : World) :
    (runner env call w).1 = (carryOut env w.tree call).map Left.code := by
  obtain ⟨w', hemit, htree⟩ : ∃ w', Step.emit (.called call) w = (.ok (), w') ∧ w'.tree = w.tree :=
    ⟨_, rfl, rfl⟩
  unfold runner
  rw [Step.bind_ok hemit, Step.bind_ok (Step.tree_run w'), htree]
  cases hleft : carryOut env w.tree call with
  | error e => rw [Step.ofExcept_bind_error rfl]; rfl
  | ok left => rw [Step.ofExcept_bind_ok rfl]; rfl

/-- The runner of the host reports what a system can hand on. -/
theorem runner_inRange (env : Environment) : (runner env).InRange fun _ => True := by
  refine ⟨trivial, fun _ _ _ => trivial, fun call w code _ h => ?_, fun call w e code _ h hleads => ?_⟩
  · rw [runner_result] at h
    cases hleft : carryOut env w.tree call with
    | error e =>
      rw [hleft] at h
      cases h
    | ok left =>
      rw [hleft] at h
      exact carryOut_code hleft (Except.ok.inj h)
  · rw [runner_result] at h
    cases hleft : carryOut env w.tree call with
    | error e' =>
      rw [hleft] at h
      cases h
      -- A call that could not be made leads to no tool.
      rcases carryOut_error hleft with ⟨path, cause, -, rfl⟩ | ⟨cause, rfl⟩ <;> cases hleads
    | ok left =>
      rw [hleft] at h
      cases h

end BuildGate.Host
