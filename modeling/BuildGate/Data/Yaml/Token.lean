import BuildGate.Data.Yaml.Scalar

/-!
# YAML: tokens

The pieces that a text is cut into before its structure is read. Indentation has become explicit: a
block begins and ends with a token.
-/
namespace BuildGate.Data.Yaml

/-- A tag as it is written: a handle, which may be empty, and what follows it. -/
structure TagText where
  handle : String
  suffix : String
  deriving Repr, DecidableEq

inductive Token where
  | documentStart
  | documentEnd
  | version (major minor : Nat)
  | tagHandle (handle pre : String)
  | blockListStart
  | blockTableStart
  | blockEnd
  | flowListStart
  | flowListEnd
  | flowTableStart
  | flowTableEnd
  | blockEntry
  | flowEntry
  | key
  | value
  | reference (name : String)
  | anchor (name : String)
  | tag (text : TagText)
  /-- A scalar, and whether it is neither quoted nor a block. -/
  | scalar (text : String) (isPlain : Bool)
  deriving Repr, DecidableEq

/-! ## Names and tags -/

/-- The name of an anchor or alias, with the sign before it. -/
def anchorName : Scan String := do
  Scan.skip
  let name ← Scan.takeWhile isNameChar
  let after ← Scan.peek
  let ends := isGap after ||
    (after.map fun c => ['?', ':', ',', ']', '\x7d', '%', '@', '\x60'].contains c).getD false
  if name.isEmpty || !ends then Scan.refuse
  return String.ofList name

/-- The handle of a tag: an exclamation mark, and perhaps a name and another one. -/
def handleText : Scan String := do
  Scan.char '!'
  let name ← Scan.takeWhile isNameChar
  if (← Scan.peek) = some '!' then
    Scan.skip
    return "!" ++ String.ofList name ++ "!"
  else return "!" ++ String.ofList name

/-- Whether a character may stand in a tag; some may only stand in angle brackets. -/
def isTagChar (verbatim : Bool) (c : Char) : Bool :=
  isNameChar c || ";/?:@&=+$.!~*'()".toList.contains c || (verbatim && ",[]".toList.contains c)

/-- Two hexadecimal digits after a percent sign. -/
def escapedByte : Scan UInt8 := do
  Scan.char '%'
  let digit : Scan Nat := do
    match ← Scan.peek with
    | some c =>
      Scan.skip
      (digitOf 16 c : Option Nat)
    | none => Scan.refuse
  let hi ← digit
  let lo ← digit
  return (16 * hi + lo).toUInt8

/-- The bytes of a tag. -/
def tagBytes (verbatim : Bool) : Nat → Scan (List UInt8)
  | 0 => pure []
  | fuel + 1 => do
    match ← Scan.peek with
    | some c =>
      if c = '%' then
        let b ← escapedByte
        return b :: (← tagBytes verbatim fuel)
      else if isTagChar verbatim c then
        Scan.skip
        return (toString c).toUTF8.toList ++ (← tagBytes verbatim fuel)
      else return []
    | none => return []

/-- The text of a tag after its handle. -/
def tagSuffix (verbatim : Bool) : Scan String := do
  let bytes ← tagBytes verbatim (← Scan.bound)
  (String.fromUTF8? ⟨bytes.toArray⟩ : Option String)

def tagText : Scan TagText := do
  if (← Scan.peekAt 1) = some '<' then
    Scan.skip
    Scan.skip
    let suffix ← tagSuffix true
    if suffix.isEmpty then Scan.refuse
    Scan.char '>'
    finish ⟨"", suffix⟩
  else
    let handle ← handleText
    if 2 ≤ handle.length ∧ handle.endsWith "!" then
      let suffix ← tagSuffix false
      if suffix.isEmpty then Scan.refuse
      finish ⟨handle, suffix⟩
    else
      let suffix := String.ofList (handle.toList.drop 1) ++ (← tagSuffix false)
      finish (if suffix.isEmpty then ⟨"", "!"⟩ else ⟨"!", suffix⟩)
where
  finish (t : TagText) : Scan TagText := do
    if isGap (← Scan.peek) then return t else Scan.refuse

/-! ## Directives -/

/-- A number of up to nine digits. -/
def versionNumber : Scan Nat := do
  let ds ← Scan.takeWhile isDigit
  if ds.isEmpty ∨ 9 < ds.length then Scan.refuse
  return numberOf 10 ds

/-- A directive with the line it stands on. -/
def directive : Scan Token := do
  Scan.skip
  let name := String.ofList (← Scan.takeWhile isNameChar)
  if name.isEmpty || !isGap (← Scan.peek) then Scan.refuse
  Scan.skipWhile isBlank
  let token ←
    if name = "YAML" then
      let major ← versionNumber
      Scan.char '.'
      let minor ← versionNumber
      pure (Token.version major minor)
    else if name = "TAG" then
      let handle ← handleText
      if handle ≠ "!" ∧ !(2 ≤ handle.length ∧ handle.endsWith "!") then Scan.refuse
      if !((← Scan.peek).map isBlank).getD false then Scan.refuse
      Scan.skipWhile isBlank
      let pre ← tagSuffix true
      if pre.isEmpty || !isGap (← Scan.peek) then Scan.refuse
      pure (Token.tagHandle handle pre)
    else Scan.refuse
  Scan.lineRest
  return token

end BuildGate.Data.Yaml
