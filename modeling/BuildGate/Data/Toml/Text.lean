import BuildGate.Data.Reading

/-!
# TOML: texts and blanks

Texts stand in double quotes, where a backslash escapes, or in single quotes, where nothing does;
three quotes let a text span lines. A line ends with a line feed, which a carriage return may come
before.
-/
namespace BuildGate.Data.Toml

def isSpace (c : Char) : Bool := c == ' ' || c == '\t'

def spaces : Reading Unit := Reading.skipWhile isSpace

/-- Whether a character may stand in a comment. -/
def isComment (c : Char) : Bool := c == '\t' || 0x20 ≤ c.toNat && c.toNat ≠ 0x7F

/-- Whether a character may stand between quotes of a kind as it is. -/
def isPlain (quote c : Char) : Bool :=
  isComment c && c != quote && (quote == '\'' || c != '\\')

/-- Takes the end of a line if it comes next, and says whether it did. -/
def newline? : Reading Bool := do
  if ← Reading.skip? "\n" then return true
  Reading.skip? "\r\n"

/-- The end of a line or of the text. -/
def lineEnd : Reading Unit := do
  if (← Reading.peek).isNone then return
  if ← newline? then return
  Reading.refuse

/-- A comment may come next. -/
def comment : Reading Unit := do
  if ← Reading.skip? "#" then Reading.skipWhile isComment

/-- The rest of a line on which nothing else stands. -/
def lineRest : Reading Unit := do
  spaces
  comment
  lineEnd

/-- A code point of a fixed number of digits. -/
def codePoint : Nat → Nat → Reading Char
  | 0, n => (scalarOf n : Option Char)
  | k + 1, n => do codePoint k (16 * n + numberOf 16 [← Reading.one isHex])

/-- What follows a backslash, unless it is the end of a line. -/
def escaped : Reading Char := do
  match ← Reading.next with
  | '"' => return '"'
  | '\\' => return '\\'
  | 'b' => return '\x08'
  | 'f' => return '\x0c'
  | 'n' => return '\n'
  | 'r' => return '\r'
  | 't' => return '\t'
  | 'u' => codePoint 4 0
  | 'U' => codePoint 8 0
  | _ => Reading.refuse

/-- A text on one line, after its opening quote. -/
def lineTail (quote : Char) : Nat → Reading (List Char)
  | 0 => Reading.refuse
  | fuel + 1 => do
    let c ← Reading.next
    if c = quote then return []
    else if isPlain quote c then return c :: (← lineTail quote fuel)
    else if c = '\\' then return (← escaped) :: (← lineTail quote fuel)
    else Reading.refuse

/-- The blanks and line ends that an escaped line end takes with it. -/
def lineBreaks : Nat → Reading Unit
  | 0 => pure ()
  | fuel + 1 => do
    spaces
    if ← newline? then lineBreaks fuel

/-- The most quotes that may stand together: two that belong to the text, and three that end it. -/
def mostQuotes : Nat := 5

/-- A text on several lines, after its opening quotes. Up to two quotes may stand before the three
that end it. -/
def blockTail (quote : Char) : Nat → Reading (List Char)
  | 0 => Reading.refuse
  | fuel + 1 => do
    match ← Reading.takeWhile (· == quote) with
    | [] =>
      if ← newline? then return '\n' :: (← blockTail quote fuel)
      let c ← Reading.next
      if isPlain quote c then return c :: (← blockTail quote fuel)
      else if c = '\\' then
        match ← Reading.optional (do spaces; unless ← newline? do Reading.refuse) with
        | some () =>
          lineBreaks fuel
          blockTail quote fuel
        | none => return (← escaped) :: (← blockTail quote fuel)
      else Reading.refuse
    | qs =>
      if qs.length < 3 then return qs ++ (← blockTail quote fuel)
      else if qs.length ≤ mostQuotes then return qs.drop 3
      else Reading.refuse

/-- A text on one line. -/
def lineText (quote : Char) : Reading String := do
  Reading.char quote
  return String.ofList (← lineTail quote ((← Reading.remaining).length + 1))

/-- A text on one line or on several. -/
def quoted (quote : Char) : Reading String := do
  if ← Reading.skip? (String.ofList [quote, quote, quote]) then
    let _ ← newline?
    return String.ofList (← blockTail quote ((← Reading.remaining).length + 1))
  else lineText quote

end BuildGate.Data.Toml
