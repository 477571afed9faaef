import BuildGate.Console
import BuildGate.Data.Json.Printer
import BuildGate.Report
import BuildGate.Slice

/-!
# Reports

Findings for a reader, one a line, or for a program, as one JSON document with the outcome. Both are
functions of the same list of findings.

**Results.**
* `findingLine_plain`: without paint a line is the file and the words for the finding.
* `behindMessage_eq`: the line number and the line, which are never painted.
* `outcomeOf_eq_pass_iff`: the outcome is a success if and only if nothing was found.
-/
namespace BuildGate.Gate

open Data

/-- What stands behind the message in `Finding.diagnostic`, as many bytes on as the message has. -/
def behindMessage (f : Finding) : String :=
  match Slice.behind? f.diagnostic.toList (Slice.bytes f.found.message.toList).length with
  | some rest => String.ofList rest
  | none => ""

/-- The line of `f` on a console. Only its message is painted, if `color` says so. -/
def findingLine (color : Bool) (f : Finding) : String :=
  f.file ++ ": " ++ Console.paintIf color .red f.found.message ++ behindMessage f

theorem behindMessage_eq (f : Finding) :
    behindMessage f = ": " ++ toString f.line.number ++ ": " ++ f.line.text := by
  have hrest : Slice.behind? f.diagnostic.toList (Slice.bytes f.found.message.toList).length =
      some (": " ++ toString f.line.number ++ ": " ++ f.line.text).toList := by
    refine Slice.behind?_eq_some.2 ⟨f.found.message.toList, ?_, rfl⟩
    simp [Finding.diagnostic, diagnostic, List.append_assoc]
  rw [behindMessage, hrest]
  exact String.ofList_toList

theorem findingLine_plain (f : Finding) :
    findingLine false f = f.file ++ ": " ++ f.diagnostic := by
  rw [findingLine, behindMessage_eq, Finding.diagnostic, diagnostic, Console.paintIf]
  simp [String.append_assoc]

/-- The outcome for `vs`: each of them fails. -/
def outcomeOf (vs : List Violation) : Outcome := .all (vs.map fun _ => .fail)

theorem outcomeOf_eq_pass_iff (vs : List Violation) : outcomeOf vs = .pass ↔ vs = [] := by
  rw [outcomeOf, Outcome.all_eq_pass_iff, List.forall_mem_map, List.eq_nil_iff_forall_not_mem]
  exact forall_congr' fun v => by simp

def violationData (v : Violation) : Plain :=
  .table ()
    [("file", Plain.ofText v.file), ("message", Plain.ofText v.message),
      ("line", .scalar () (.unsigned v.line)), ("line_text", Plain.ofText v.lineText),
      ("matched", Plain.ofText v.matched)]

/-- The document for `vs`. -/
def reportData (vs : List Violation) : Plain :=
  .table ()
    [("outcome", Plain.ofText (outcomeOf vs).name),
      ("violations", Plain.ofList (vs.map violationData))]

end BuildGate.Gate
