import BuildGate.Data.Basic
import BuildGate.Data.Decimal
import BuildGate.Unicode.Blank
import BuildGate.Word

/-!
# Data in one line

How the value of a variable is read: a word, a number, a text in quotes, a list in brackets or a
table in braces. Whatever is none of these is a text as it stands.

**Results.**
* `read_of_read?_eq_none`: a line that does not fit the grammar is a text.
-/
namespace BuildGate.Data.Inline

def isBlank (c : Char) : Bool :=
  c == ' ' || c == '\t' || c == '\n' || c == '\r' || c == '\x0c'

def blanks : Reading Unit := Reading.skipWhile isBlank

/-- Whether a character ends a word. -/
def isSeparator (c : Char) : Bool :=
  c == ',' || c == '\x7b' || c == '\x7d' || c == '[' || c == ']'

def isKeyChar (c : Char) : Bool := c.isAlphanum || c == '_' || c == '-'

/-- A code point of a fixed number of digits. -/
def codePoint : Nat → Nat → Reading Char
  | 0, n => (scalarOf n : Option Char)
  | k + 1, n => do codePoint k (16 * n + numberOf 16 [← Reading.one isHex])

/-- What follows a backslash. -/
def escaped : Reading Char := do
  match ← Reading.next with
  | '"' => return '"'
  | '\\' => return '\\'
  | 'b' => return '\x08'
  | 'f' => return '\x0c'
  | 'n' => return '\n'
  | 'r' => return '\r'
  | 't' => return '\t'
  | 'u' => codePoint 4 0
  | 'U' => codePoint 8 0
  | _ => Reading.refuse

/-- Whether a character may stand in quotes as it is. -/
def isPlain (c : Char) : Bool := c == '\t' || 0x20 ≤ c.toNat && c.toNat ≠ 0x7F

/-- A text after its opening quote. -/
def textTail : Nat → Reading (List Char)
  | 0 => Reading.refuse
  | fuel + 1 => do
    match ← Reading.next with
    | '"' => return []
    | '\\' => return (← escaped) :: (← textTail fuel)
    | c => if isPlain c then return c :: (← textTail fuel) else Reading.refuse

def quoted (fuel : Nat) : Reading String := do
  Reading.char '"'
  return String.ofList (← textTail fuel)

/-- An integer of 64 bits. -/
def integer? (word : String) : Option Scalar :=
  match word.toList with
  | '-' :: ds =>
    let n := numberOf 10 ds
    if ds.isEmpty || !ds.all isDigit || Word.half < n then none else some (.signed (-(n : Int)))
  | cs =>
    let ds := if cs.head? = some '+' then cs.tail else cs
    let n := numberOf 10 ds
    if ds.isEmpty || !ds.all isDigit || Word.bound ≤ n then none else some (.unsigned n)

/-- A word is a number if it can be. -/
def ofWord (word : String) : Scalar :=
  let float := if word.toList.contains '.' then Decimal.read? word else none
  match float with
  | some d => .float d.toDouble
  | none => (integer? word).getD (.text word)

/-- A key, which may be quoted. -/
def key (fuel : Nat) : Reading String := do
  if (← Reading.peek) = some '"' then quoted fuel
  else pure (String.ofList (← Reading.takeSome isKeyChar))

mutual

/-- A value and the blanks around it. -/
def value : Nat → Reading Plain
  | 0 => Reading.refuse
  | fuel + 1 => do
    blanks
    let d ← core fuel
    blanks
    return d

def core : Nat → Reading Plain
  | 0 => Reading.refuse
  | fuel + 1 => do
    if ← Reading.skip? "true" then return Plain.ofBool true
    if ← Reading.skip? "false" then return Plain.ofBool false
    match ← Reading.peek with
    | some '\x7b' =>
      let _ ← Reading.next
      return Plain.ofEntries (← members fuel)
    | some '[' =>
      let _ ← Reading.next
      return Plain.ofList (← items fuel)
    | some '"' => return Plain.ofText (← quoted fuel)
    | some '\'' =>
      let _ ← Reading.next
      let c ← Reading.next
      Reading.char '\''
      return .scalar () (.char c)
    | _ =>
      let word ← Reading.takeWhile fun c => !isSeparator c
      return .scalar () (ofWord (Unicode.trim (String.ofList word)))

/-- The values of a list up to its bracket; a comma may stand behind the last one. -/
def items : Nat → Reading (List Plain)
  | 0 => Reading.refuse
  | fuel + 1 => do
    if ← Reading.skip? "]" then return []
    let d ← value fuel
    if ← Reading.skip? "," then return d :: (← items fuel)
    Reading.char ']'
    return [d]

/-- The entries of a table up to its brace. -/
def members : Nat → Reading (List (String × Plain))
  | 0 => Reading.refuse
  | fuel + 1 => do
    if ← Reading.skip? "\x7d" then return []
    blanks
    let key ← key fuel
    blanks
    Reading.char '='
    let d ← value fuel
    if ← Reading.skip? "," then return (key, d) :: (← members fuel)
    Reading.char '\x7d'
    return [(key, d)]

end

/-- The data that a line writes by the grammar. -/
def read? (line : String) : Option Plain := Reading.whole (value (3 * line.length + 3)) line

/-- The data that a line writes. -/
def read (line : String) : Plain := (read? line).getD (Plain.ofText line)

/-- A line that does not fit the grammar is a text. -/
theorem read_of_read?_eq_none {line : String} (h : read? line = none) :
    read line = Plain.ofText line := by simp [read, h]

end BuildGate.Data.Inline
