import BuildGate.CommandLine.Option
import BuildGate.Environment
import BuildGate.Word

/-!
# Reading arguments

The arguments of the program are read one after the other, first as its own and, from the first verb
on, as those of the verb. An option that takes a value and has not got one takes the next argument.
A value is looked at only when the next option or operand is met, so of two faults the one that
stands behind may be the one that is reported.

**Results.**
* `readNumber?_lt`: a number that is read has 64 bits.
-/
namespace BuildGate.CommandLine

/-- What help can be about. -/
inductive Topic where
  | program
  | verb (v : Verb)
  /-- The verb that asks for help. -/
  | help
  deriving Repr, DecidableEq

/-- Why arguments are not carried out. -/
inductive Refusal where
  | help (topic : Topic) (inFull : Bool)
  | version
  /-- There are no arguments at all. -/
  | nothingGiven
  | unknownArgument
  | unknownVerb
  | invalidValue
  /-- A value that is no number. -/
  | noNumber
  /-- An option that is given twice, or beside one that excludes it. -/
  | conflict
  /-- A value for an option that takes none. -/
  | needlessValue
  | missingOperand
  deriving Repr, DecidableEq

/-- To ask for help or the version is no error. -/
def Refusal.status : Refusal → Nat
  | help _ _ | version => 0
  | _ => 2

/-- What an option was given. -/
inductive Given where
  | flag
  | times (n : Nat)
  | text (value : String)
  | number (n : Nat)
  deriving Repr, DecidableEq

/-- The options of a level, each at most once. -/
abbrev Options := List (Opt × Given)

/-- The arguments of one level, as far as they are read. -/
structure State where
  given : Options := []
  operands : List String := []
  /-- An option that takes a value, and the value once it is there. -/
  held : Option (Opt × Option String) := none
  /-- Whether `--` stood before. -/
  onlyOperands : Bool := false
  deriving Repr, DecidableEq

/-! ## Values -/

/-- The number that a text writes in decimal, with an optional plus sign. -/
def readNumber? (s : String) : Option Nat :=
  let digits :=
    match s.toList with
    | '+' :: rest => rest
    | cs => cs
  if digits.isEmpty || !digits.all Data.isDigit then none
  else
    let n := Data.numberOf 10 digits
    if n < Word.bound then some n else none

theorem readNumber?_lt {s : String} {n : Nat} (h : readNumber? s = some n) : n < Word.bound := by
  unfold readNumber? at h
  dsimp only at h
  generalize (match s.toList with | '+' :: rest => rest | cs => cs) = digits at h
  split at h
  · cases h
  · split at h
    · rename_i hlt
      cases h
      exact hlt
    · cases h

/-- What a text is as a value. -/
def ValueKind.read : ValueKind → String → Except Refusal Given
  | text, s => .ok (.text s)
  | path, s => if s = "" then .error .invalidValue else .ok (.text s)
  | number, s =>
    match readNumber? s with
    | some n => .ok (.number n)
    | none => .error .noNumber
  | choice words, s =>
    if words.any (·.1 == s) then .ok (.text s) else .error .invalidValue

/-- The most that repetitions count. -/
def maxTimes : Nat := 255

namespace State

/-- Whether an option waits for its value. -/
def waits (s : State) : Bool := !s.onlyOperands && s.held.any (·.2.isNone)

/-- Adds an option that may be given once. -/
def give (s : State) (o : Opt) (g : Given) : Except Refusal State :=
  if (s.given.lookup o).isSome then .error .conflict
  else .ok { s with given := s.given ++ [(o, g)] }

/-- Counts an option once more. -/
def giveAgain (s : State) (o : Opt) : State :=
  let n :=
    match s.given.lookup o with
    | some (.times n) => min maxTimes (n + 1)
    | _ => 1
  { s with given := s.given.filter (·.1 != o) ++ [(o, .times n)] }

/-- Looks at the value of the option that is held. -/
def settle (s : State) : Except Refusal State :=
  match s.held with
  | none => .ok s
  | some (_, none) => .error .invalidValue
  | some (o, some v) =>
    let s := { s with held := none }
    match o.shape with
    | .value _ kind => do
      let _ ← s.give o .flag
      s.give o (← kind.read v)
    | _ => .ok s

end State

/-! ## One argument -/

/-- Whose arguments are read. -/
inductive Level where
  | program
  | verb (v : Verb)
  deriving Repr, DecidableEq

namespace Level

def options : Level → List Opt
  | program => Opt.root
  | verb v => v.options

def topic : Level → Topic
  | program => .program
  | verb v => .verb v

/-- Takes an option without a value. -/
def takeFlag (l : Level) (s : State) (o : Opt) (byLong : Bool) : Except Refusal State := do
  let s ← s.settle
  match o with
  | .help => .error (.help l.topic byLong)
  | .version => .error .version
  | _ => if o.shape = .count then return s.giveAgain o else s.give o .flag

/-- Takes an option that wants a value, with the value if it is attached. -/
def takeValue (s : State) (o : Opt) (attached : Option String) : Except Refusal State := do
  let s ← s.settle
  match attached with
  | some v => ({ s with held := some (o, some v) } : State).settle
  | none => return { s with held := some (o, none) }

def wantsValue (o : Opt) : Bool :=
  match o.shape with
  | .value _ _ => true
  | _ => false

/-- Takes the argument `--body`. -/
def takeLong (l : Level) (s : State) (body : List Char) : Except Refusal State :=
  let name := String.ofList (body.takeWhile (· != '='))
  let attached :=
    match body.dropWhile (· != '=') with
    | [] => none
    | _ :: v => some (String.ofList v)
  match l.options.find? (·.long == name) with
  | none => .error .unknownArgument
  | some o =>
    if wantsValue o then takeValue s o attached
    else if attached.isSome then .error .needlessValue
    else l.takeFlag s o true

/-- Takes the argument that is a hyphen and letters, the last of which may have a value attached. -/
def takeShorts (l : Level) (s : State) : List Char → Except Refusal State
  | [] => .ok s
  | c :: rest =>
    match l.options.find? (·.short? == some c) with
    | none => .error .unknownArgument
    | some o =>
      if wantsValue o then
        takeValue s o
          (match rest with
          | [] => none
          | '=' :: v => some (String.ofList v)
          | v => some (String.ofList v))
      else do takeShorts l (← l.takeFlag s o false) rest

/-- Whether a word would be a verb where one may stand. -/
def namesVerb (word : String) : Bool := word == "help" || (Verb.ofWord? word).isSome

/-- Takes an argument that is no option. -/
def takeOperand (l : Level) (s : State) (arg : String) : Except Refusal State :=
  match l with
  | program =>
    .error (if s.onlyOperands && namesVerb arg then .unknownArgument else .unknownVerb)
  | verb v =>
    match v.operand? with
    | none => .error .unknownArgument
    | some p =>
      if p.isMany || s.operands.isEmpty then do
        let s ← s.settle
        return { s with operands := s.operands ++ [arg] }
      else .error .unknownArgument

/-- Takes one argument. -/
def take (l : Level) (s : State) (arg : String) : Except Refusal State :=
  if s.onlyOperands then l.takeOperand s arg
  else
    match arg.toList with
    | ['-', '-'] => .ok { s with onlyOperands := true }
    | '-' :: '-' :: body => l.takeLong s body
    | '-' :: c :: rest => l.takeShorts s (c :: rest)
    | _ =>
      match s.held with
      | some (o, none) => .ok { s with held := some (o, some arg) }
      | _ => l.takeOperand s arg

end Level

/-! ## All arguments -/

/-- What was read after a verb. -/
structure VerbArguments where
  verb : Verb
  given : Options
  /-- Options whose value comes from the environment. -/
  fromVariables : Options
  operands : List String
  deriving Repr, DecidableEq

structure Arguments where
  /-- The options before the verb. -/
  given : Options
  verb : Option VerbArguments
  deriving Repr, DecidableEq

/-- The options that variables give a value to. -/
def variableOptions (env : Environment) (v : Verb) (given : Options) : Options :=
  v.own.filterMap fun o =>
    if (given.lookup o).isSome then none
    else (o.envName?.bind env.get?).map fun value => (o, .text value)

/-- What the arguments of a verb come to when there are no more. -/
def finishVerb (env : Environment) (v : Verb) (s : State) : Except Refusal VerbArguments := do
  let s ← s.settle
  if (s.given.lookup .open).isSome && (s.given.lookup .upload).isSome then .error .conflict
  else if v.operand?.any (!·.isMany) && s.operands.isEmpty then .error .missingOperand
  else return ⟨v, s.given, variableOptions env v s.given, s.operands⟩

/-- The arguments after a verb. -/
def readVerb (env : Environment) (v : Verb) : State → List String → Except Refusal VerbArguments
  | s, [] => finishVerb env v s
  | s, arg :: rest => do readVerb env v (← (Level.verb v).take s arg) rest

/-- What the words after `help` ask for. -/
def helpTopic : List String → Except Refusal Topic
  | [] => .ok .program
  | [word] =>
    if word = "help" then .ok .help
    else
      match Verb.ofWord? word with
      | some v => .ok (.verb v)
      | none => .error .unknownVerb
  | _ => .error .unknownVerb

def finishProgram (s : State) (verb : Option VerbArguments) : Except Refusal Arguments := do
  let s ← s.settle
  if verb.isNone && s.given.isEmpty then .error .nothingGiven else return ⟨s.given, verb⟩

/-- The arguments from the start, of which some are read. -/
def readProgram (env : Environment) : State → List String → Except Refusal Arguments
  | s, [] => finishProgram s none
  | s, arg :: rest =>
    if s.onlyOperands || s.waits then do readProgram env (← Level.program.take s arg) rest
    else if arg = "help" then do
      .error (.help (← helpTopic rest) true)
    else
      match Verb.ofWord? arg with
      | some v => do finishProgram s (some (← readVerb env v {} rest))
      | none => do readProgram env (← Level.program.take s arg) rest

/-- Reads the arguments of the program. -/
def readArguments (env : Environment) (args : List String) : Except Refusal Arguments :=
  readProgram env {} args

end BuildGate.CommandLine
