/-!
# Environments

The variables that a program is started with, in the order in which it sees them, and the account
that it runs under. Each name occurs once. Variables alone make an `Environment` for the `Account` in
scope, which is `rootAccount` where no other one is.
-/
namespace BuildGate

/-- What the system knows of an account. -/
class Account where
  /-- Its home directory, if it has one. -/
  home : Option String
  deriving Repr, DecidableEq

instance (priority := low) rootAccount : Account := ⟨some "/root"⟩

structure Environment where
  vars : List (String × String) := []
  [account : Account]
  deriving Repr, DecidableEq

namespace Environment

def get? (e : Environment) (name : String) : Option String := e.vars.lookup name

/-- The variable if it is set and not empty. -/
def nonempty? (e : Environment) (name : String) : Option String :=
  (e.get? name).filter (· ≠ "")

end Environment

end BuildGate
