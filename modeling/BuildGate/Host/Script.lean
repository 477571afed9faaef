/-!
# Scripts

The scripts that the shell carries out: simple commands with quotes, parameters and redirections,
joined by `;`, `&&`, `||` and `|`. Whatever else a script may hold is not read.
-/
namespace BuildGate.Host

/-- A part of a word: a text, or a parameter, whose blanks separate words unless it is quoted. -/
inductive Part where
  | text (s : String)
  | param (name : String) (quoted : Bool)
  deriving Repr, DecidableEq

abbrev Word := List Part

/-- What a stream of a command is bound to. -/
inductive Redirect where
  | input (file : Word)
  | output (stream : Nat) (file : Word) (append : Bool)
  /-- One output stream goes where another one goes. -/
  | join (stream : Nat) (other : Word)
  deriving Repr, DecidableEq

structure Simple where
  words : List Word := []
  redirects : List Redirect := []
  deriving Repr, DecidableEq

/-- When a command is carried out after another one. -/
inductive Joint where
  | always
  | ifOk
  | ifFailed
  deriving Repr, DecidableEq

/-- Commands of which each reads what the one before it writes, one pipe after the other. -/
abbrev Script := List (Joint × List Simple)

/-! ## Tokens -/

inductive Token where
  | word (w : Word)
  | joint (j : Joint)
  | pipe
  /-- An arrow with the stream before it: `<`, `>`, `>>` or `>&`. -/
  | arrow (stream : Nat) (kind : String)
  deriving Repr, DecidableEq

def isBlank (c : Char) : Bool := c == ' ' || c == '\t'

/-- Whether a character ends a word. -/
def endsWord (c : Char) : Bool := isBlank c || "\n;&|<>()".toList.contains c

def isNameChar (c : Char) : Bool := c.isAlphanum || c == '_'

/-- The parameters whose names are one sign. -/
def signs : List Char := "$@*#?0123456789".toList

/-- The name of a parameter after its sign, and the rest. -/
def readParam (cs : List Char) : Option (String × List Char) :=
  match cs with
  | '\x7b' :: rest =>
    let name := rest.takeWhile (· != '\x7d')
    match rest.dropWhile (· != '\x7d') with
    | _ :: rest => if name.isEmpty then none else some (String.ofList name, rest)
    | [] => none
  | c :: rest =>
    if signs.contains c then some (String.singleton c, rest)
    else if isNameChar c then
      some (String.ofList (cs.takeWhile isNameChar), cs.dropWhile isNameChar)
    else none
  | [] => none

/-- What follows a dollar sign, which stands for itself before anything that names nothing. Commands
are not substituted. -/
def readDollar (quoted : Bool) (cs : List Char) : Option (Part × List Char) :=
  match cs with
  | '(' :: _ => none
  | _ =>
    match readParam cs with
    | some (name, rest) => some (.param name quoted, rest)
    | none => some (.text "$", cs)

mutual

/-- The parts of a word up to its end. The fuel bounds its characters. -/
def readBare : Nat → List Char → Option (Word × List Char)
  | 0, _ | _, [] => some ([], [])
  | fuel + 1, c :: rest =>
    if endsWord c then some ([], c :: rest)
    else
      match c with
      | '\'' =>
        match rest.dropWhile (· != '\'') with
        | [] => none
        | _ :: after => do
          let (w, left) ← readBare fuel after
          return (.text (String.ofList (rest.takeWhile (· != '\''))) :: w, left)
      | '"' => do
        let (inner, after) ← readQuoted fuel rest
        let (w, left) ← readBare fuel after
        return (.text "" :: inner ++ w, left)
      | '\\' => do
        let (w, left) ← readBare fuel (rest.drop 1)
        return (.text (String.ofList (rest.take 1)) :: w, left)
      | '`' => none
      | '$' => do
        let (p, after) ← readDollar false rest
        let (w, left) ← readBare fuel after
        return (p :: w, left)
      | c => do
        let (w, left) ← readBare fuel rest
        return (.text (String.singleton c) :: w, left)

/-- The parts up to a closing double quote. -/
def readQuoted : Nat → List Char → Option (Word × List Char)
  | 0, _ | _, [] => none
  | fuel + 1, c :: rest =>
    match c with
    | '"' => some ([], rest)
    | '`' => none
    | '$' => do
      let (p, after) ← readDollar true rest
      let (w, left) ← readQuoted fuel after
      return (p :: w, left)
    | '\\' =>
      match rest with
      | d :: after => do
        let (w, left) ← readQuoted fuel after
        let kept := if "$`\"\\".toList.contains d then String.singleton d else String.ofList ['\\', d]
        return (.text kept :: w, left)
      | [] => none
    | c => do
      let (w, left) ← readQuoted fuel rest
      return (.text (String.singleton c) :: w, left)

end

/-- An arrow, and the rest. -/
def readArrow (stream : Option Nat) : List Char → Option (Token × List Char)
  | '<' :: rest => if rest.head? = some '<' ∨ rest.head? = some '&' then none
    else some (.arrow (stream.getD 0) "<", rest)
  | '>' :: '>' :: rest => some (.arrow (stream.getD 1) ">>", rest)
  | '>' :: '&' :: rest => some (.arrow (stream.getD 1) ">&", rest)
  | '>' :: rest => some (.arrow (stream.getD 1) ">", rest)
  | _ => none

/-- The tokens of a text. The fuel bounds their number. -/
def readTokens : Nat → List Char → Option (List Token)
  | 0, _ | _, [] => some []
  | fuel + 1, c :: rest =>
    if isBlank c then readTokens fuel rest
    else
      match c, rest with
      | '#', _ => readTokens fuel (rest.dropWhile (· != '\n'))
      | '\n', _ | ';', _ => do return .joint .always :: (← readTokens fuel rest)
      | '&', '&' :: after => do return .joint .ifOk :: (← readTokens fuel after)
      | '|', '|' :: after => do return .joint .ifFailed :: (← readTokens fuel after)
      | '|', _ => do return .pipe :: (← readTokens fuel rest)
      | '&', _ | '(', _ | ')', _ => none
      | _, _ =>
        let arrow :=
          if c = '<' ∨ c = '>' then some (none, c :: rest)
          else if c.isDigit ∧ (rest.head? = some '<' ∨ rest.head? = some '>') then
            some (some (c.toNat - '0'.toNat), rest)
          else none
        match arrow with
        | some (stream, cs) => do
          let (t, after) ← readArrow stream cs
          return t :: (← readTokens fuel after)
        | none => do
          let (w, after) ← readBare (fuel + 1) (c :: rest)
          return .word w :: (← readTokens fuel after)

/-! ## Commands -/

/-- Words that begin what is not a simple command. -/
def reserved : List String :=
  ["if", "then", "else", "elif", "fi", "for", "while", "until", "do", "done", "case", "esac", "in",
    "!", "\x7b", "\x7d"]

/-- A script as far as it is read. -/
structure Draft where
  done : Script := []
  joint : Joint := .always
  /-- The commands of the pipe that are complete. -/
  before : List Simple := []
  current : Simple := {}
  /-- An arrow that waits for its word. -/
  arrow : Option (Nat × String) := none

namespace Draft

def addWord (d : Draft) (w : Word) : Option Draft :=
  match d.arrow with
  | none =>
    let isReserved := d.current.words.isEmpty && w.all fun
      | .text _ => true
      | .param _ _ => false
    let literal := String.join (w.map fun
      | .text s => s
      | .param _ _ => "")
    if isReserved && reserved.contains literal then none
    else some { d with current := { d.current with words := d.current.words ++ [w] } }
  | some (stream, kind) =>
    let r : Redirect :=
      if kind = "<" then .input w
      else if kind = ">&" then .join stream w
      else .output stream w (kind == ">>")
    some { d with
      arrow := none, current := { d.current with redirects := d.current.redirects ++ [r] } }

def isEmpty (s : Simple) : Bool := s.words.isEmpty && s.redirects.isEmpty

/-- Closes the pipe. -/
def close (d : Draft) : Option Draft :=
  if d.arrow.isSome then none
  else if isEmpty d.current then
    if d.before.isEmpty && d.joint = .always then some d else none
  else some { done := d.done ++ [(d.joint, d.before ++ [d.current])] }

def add (d : Draft) : Token → Option Draft
  | .word w => d.addWord w
  | .arrow stream kind => if d.arrow.isSome then none else some { d with arrow := some (stream, kind) }
  | .pipe =>
    if d.arrow.isSome || isEmpty d.current then none
    else some { d with before := d.before ++ [d.current], current := {} }
  | .joint j =>
    if j != .always && isEmpty d.current then none
    else d.close.map fun d => { d with joint := j }

end Draft

/-- The script that a text holds. -/
def Script.read? (text : String) : Option Script := do
  let tokens ← readTokens (text.length + 1) text.toList
  let d ← tokens.foldlM Draft.add {}
  return (← d.close).done

end BuildGate.Host
