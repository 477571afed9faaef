import BuildGate.Environment
import BuildGate.Path

/-!
# Sources of settings

The files that settings were read from, and the directories in which they are looked for. The later
file of a kind weighs more; an explicit file weighs more than one of the project, and that more than
the user's.

**Results.**
* `primary_eq_none_iff`: there is a weightiest file unless there is no file.
-/
namespace BuildGate.Settings

/-- The files that settings were read from, those of more weight last. -/
structure Sources where
  projectFiles : List String := []
  userFile : Option String := none
  explicitFiles : List String := []
  deriving Repr, DecidableEq

namespace Sources

/-- The file of most weight. -/
def primary (s : Sources) : Option String :=
  (s.explicitFiles.getLast?.or s.projectFiles.getLast?).or s.userFile

theorem primary_eq_none_iff (s : Sources) :
    s.primary = none ↔ s.explicitFiles = [] ∧ s.projectFiles = [] ∧ s.userFile = none := by
  simp [primary, and_assoc]

/-- The directory that patterns are relative to: that of `projectFiles`, or else `cwd`, in which the
program runs. -/
def projectRoot (s : Sources) (cwd : String) : String :=
  (s.projectFiles.getLast?.bind Path.parent?).getD cwd

end Sources

/-- The name of the program, of its files and of its directories. -/
def appName : String := "stylegate"

/-- The directory of the user's own configuration, if there is a home directory: that of `HOME`, or
else that of the account. -/
def userDir? (env : Environment) : Option String :=
  ((env.nonempty? "HOME").or env.account.home).map fun home =>
    let base := ((env.get? "XDG_CONFIG_HOME").filter Path.isAbsolute).getD (Path.join home ".config")
    Path.join base appName

/-- The text of that directory, which is empty if there is none. -/
def userDir (env : Environment) : String := (userDir? env).getD ""

end BuildGate.Settings
