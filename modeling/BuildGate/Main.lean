import BuildGate.Gate.Run
import BuildGate.Host.Description

/-!
# The program

Runs the command line on the host that standard input describes. An empty input describes the empty
host.
-/
namespace BuildGate

/-- What is left to read on a stream. -/
partial def readAll (input : IO.FS.Stream) (start : String) : IO String := do
  let line ← input.getLine
  if line.isEmpty then return start else readAll input (start ++ line)

end BuildGate

def main (args : List String) : IO UInt32 := do
  let text ← BuildGate.readAll (← IO.getStdin) ""
  match if text.isEmpty then some {} else BuildGate.Host.Description.read? text with
  | none =>
    IO.eprintln "error: the standard input describes no host"
    return 1
  | some { env, tree } =>
    let ending := BuildGate.Gate.run { args, env, tree }
    IO.print ending.out
    IO.eprint ending.err
    return ending.status.toUInt32
