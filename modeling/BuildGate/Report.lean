import BuildGate.Line
import BuildGate.Scan

/-!
# Findings and outcomes

A `Finding` is a match in a file together with the line it starts on. Each finding counts as
`Outcome.fail`, and the outcome of a run is all of them combined, from `Outcome.pass` on.

**Results.**
* `combine_assoc`: outcomes combine associatively, and a failure absorbs.
* `all_append`, `all_eq_pass_iff`: what a run comes to that has parts, and when it passes.
-/
namespace BuildGate

/-- Whether a run, or a part of one, found nothing. -/
inductive Outcome where
  | pass
  | fail
  deriving Repr, DecidableEq

namespace Outcome

def combine : Outcome → Outcome → Outcome
  | pass, pass => pass
  | _, _ => fail

def isFail (o : Outcome) : Bool := o == fail

def all (os : List Outcome) : Outcome := os.foldl combine pass

theorem combine_assoc (a b c : Outcome) : (a.combine b).combine c = a.combine (b.combine c) := by
  cases a <;> cases b <;> cases c <;> rfl

@[simp] theorem pass_combine (o : Outcome) : pass.combine o = o := by cases o <;> rfl

@[simp] theorem combine_pass (o : Outcome) : o.combine pass = o := by cases o <;> rfl

theorem combine_eq_pass_iff {a b : Outcome} : a.combine b = pass ↔ a = pass ∧ b = pass := by
  cases a <;> cases b <;> simp [combine]

/-- To go on from an outcome is to combine it with what comes after. -/
theorem foldl_combine (o : Outcome) (os : List Outcome) : os.foldl combine o = o.combine (all os) := by
  induction os generalizing o with
  | nil => exact (combine_pass o).symm
  | cons p os ih => rw [all, List.foldl_cons, List.foldl_cons, ih, ih, pass_combine, combine_assoc]

theorem all_cons (o : Outcome) (os : List Outcome) : all (o :: os) = o.combine (all os) := by
  rw [all, List.foldl_cons, pass_combine, foldl_combine]

theorem all_append (os ps : List Outcome) : all (os ++ ps) = (all os).combine (all ps) := by
  rw [all, List.foldl_append, foldl_combine]
  rfl

theorem all_eq_pass_iff {os : List Outcome} : all os = pass ↔ ∀ o ∈ os, o = pass := by
  induction os with
  | nil => simp [all]
  | cons o os ih => rw [all_cons, combine_eq_pass_iff, ih, List.forall_mem_cons]

def name : Outcome → String
  | pass => "pass"
  | fail => "fail"

end Outcome

/-- A match `found` in a `file`, with the `line` it starts on. -/
structure Finding where
  file : String
  found : Match
  line : LineInfo
  deriving Repr, DecidableEq

/-- What is kept of a `Finding`. -/
structure Violation where
  file : String
  message : String
  line : Nat
  lineText : String
  matched : String
  deriving Repr, DecidableEq

/-- The words for a match on a line: message, line number and line. -/
def diagnostic (message : String) (line : LineInfo) : String :=
  message ++ ": " ++ toString line.number ++ ": " ++ line.text

namespace Finding

def violation (f : Finding) : Violation :=
  ⟨f.file, f.found.message, f.line.number, f.line.text, f.found.matched⟩

def diagnostic (f : Finding) : String := BuildGate.diagnostic f.found.message f.line

end Finding

end BuildGate
