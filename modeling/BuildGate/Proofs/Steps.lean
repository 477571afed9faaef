import BuildGate.Tool

/-!
# What a step leaves of the world

A step is a function on worlds, so a run of it is an equation `step w = (r, w')`. The equations here
take a composed step apart, and `World.Reports` says of two worlds that the second one is the first
one with entries of the log and given findings added to its trace: no file is touched, no tool is
called and no answer is used up.

**Results.**
* `Step.bind_ok`, `Step.bind_error`: a composed step goes on after a success and ends at a failure.
* `World.Reports.trans`: reports add up in order.
* `Step.inSpan_reports`: a span shows in the log and nowhere else.
-/
namespace BuildGate

/-- The finding that an event reports. -/
def Event.finding? : Event → Option Finding
  | .found f => some f
  | _ => none

/-- The call that an event records. -/
def Event.call? : Event → Option Invocation
  | .called c => some c
  | _ => none

/-- The line that an event writes for the user. -/
def Event.line? : Event → Option String
  | .printed line => some line
  | _ => none

namespace World

/-- What was reported, in order. -/
def reported (w : World) : List Finding := w.trace.filterMap Event.finding?

/-- The tools that were called, in order. -/
def calls (w : World) : List Invocation := w.trace.filterMap Event.call?

/-- The lines that were written for the user, in order. -/
def printed (w : World) : List String := w.trace.filterMap Event.line?

/-- `w'` is `w` with entries of the log and the findings `fs` in its trace. -/
structure Reports (w : World) (fs : List Finding) (w' : World) : Prop where
  tree : w'.tree = w.tree
  answers : w'.answers = w.answers
  spans : w'.spans = w.spans
  reported : w'.reported = w.reported ++ fs
  calls : w'.calls = w.calls

namespace Reports

theorem refl (w : World) : Reports w [] w := ⟨rfl, rfl, rfl, by simp, rfl⟩

theorem trans {w₁ w₂ w₃ : World} {fs gs : List Finding} (h : Reports w₁ fs w₂)
    (h' : Reports w₂ gs w₃) : Reports w₁ (fs ++ gs) w₃ where
  tree := h'.tree.trans h.tree
  answers := h'.answers.trans h.answers
  spans := h'.spans.trans h.spans
  reported := by rw [h'.reported, h.reported, List.append_assoc]
  calls := h'.calls.trans h.calls

end Reports

end World

open World (Reports)

namespace Step

variable {α β : Type}

/-! ## Equations of composed steps -/

@[simp] theorem pure_run (a : α) (w : World) : (pure a : Step α) w = (.ok a, w) := rfl

@[simp] theorem throw_run (e : Failure) (w : World) : (throw e : Step α) w = (.error e, w) := rfl

@[simp] theorem tree_run (w : World) : tree w = (.ok w.tree, w) := rfl

@[simp] theorem ofExcept_run (r : Except Failure α) (w : World) : ofExcept r w = (r, w) := rfl

theorem bind_ok {x : Step α} {w w' : World} {a : α} (h : x w = (.ok a, w')) (f : α → Step β) :
    (x >>= f) w = f a w' := by
  simp only [bind, ExceptT.bind, ExceptT.mk, StateT.bind, h]
  rfl

theorem bind_error {x : Step α} {w w' : World} {e : Failure} (h : x w = (.error e, w'))
    (f : α → Step β) : (x >>= f) w = (.error e, w') := by
  simp only [bind, ExceptT.bind, ExceptT.mk, StateT.bind, h]
  rfl

theorem ofExcept_bind_ok {r : Except Failure α} {a : α} (h : r = .ok a) (f : α → Step β)
    (w : World) : (ofExcept r >>= f) w = f a w :=
  bind_ok (by rw [ofExcept_run, h]) f

theorem ofExcept_bind_error {r : Except Failure α} {e : Failure} (h : r = .error e)
    (f : α → Step β) (w : World) : (ofExcept r >>= f) w = (.error e, w) :=
  bind_error (by rw [ofExcept_run, h]) f

/-- Both cases of a composed step in one equation. -/
theorem bind_run (x : Step α) (f : α → Step β) (w : World) :
    (x >>= f) w =
      match (x w).1 with
      | .ok a => f a (x w).2
      | .error e => (.error e, (x w).2) := by
  cases h : (x w).1 with
  | ok a => exact bind_ok (Prod.ext h rfl) f
  | error e => exact bind_error (Prod.ext h rfl) f

/-! ## What the parts report -/

theorem log_run (level : LogLevel) (source : LogSource) (message : String)
    (fields : List LogField) (w : World) :
    ∃ w', log level source message fields w = (.ok (), w') ∧ Reports w [] w' := by
  refine ⟨_, rfl, ?_⟩
  exact ⟨rfl, rfl, rfl, by simp [World.reported, Event.finding?], by simp [World.calls, Event.call?]⟩

theorem emit_found_run (f : Finding) (w : World) :
    ∃ w', emit (.found f) w = (.ok (), w') ∧ Reports w [f] w' := by
  refine ⟨_, rfl, ?_⟩
  exact ⟨rfl, rfl, rfl, by simp [World.reported, Event.finding?], by simp [World.calls, Event.call?]⟩

/-- A step in a span ends as it does without, and reports the same. -/
theorem inSpan_reports {s : LogSpan} {step : Step α} {w : World} {fs : List Finding}
    (h : Reports { w with spans := w.spans ++ [s] } fs (step { w with spans := w.spans ++ [s] }).2) :
    Reports w fs (inSpan s step w).2 :=
  ⟨h.tree, h.answers, rfl, h.reported, h.calls⟩

@[simp] theorem inSpan_result (s : LogSpan) (step : Step α) (w : World) :
    (inSpan s step w).1 = (step { w with spans := w.spans ++ [s] }).1 := rfl

end Step

end BuildGate
