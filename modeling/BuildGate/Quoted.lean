import BuildGate.Unicode.Property

/-!
# Quoted text

A text between double quotes, with escapes for quotes, backslashes, control characters and whatever
does not show by itself. Log lines show optional texts in this form.
-/
namespace BuildGate.Quoted

/-- The hexadecimal digits of a number, in lower case. -/
def hex (n : Nat) : String := String.ofList (Nat.toDigits 16 n)

/-- Whether a character shows by itself: no control, format, private or unassigned character, no
separator but the blank, and no mark that joins the character before it. -/
def isShown (c : Char) : Bool :=
  if c.toNat < 0x7F then 0x20 ≤ c.toNat
  else
    !(Unicode.categories ["Cc", "Cf", "Co", "Cn", "Zl", "Zp", "Zs"]).mem c &&
      !Unicode.graphemeExtend.mem c

def escape (c : Char) : String :=
  match c with
  | '"' => "\\\""
  | '\\' => "\\\\"
  | '\n' => "\\n"
  | '\r' => "\\r"
  | '\t' => "\\t"
  | '\x00' => "\\0"
  | c => if isShown c then toString c else "\\u\x7b" ++ hex c.toNat ++ "\x7d"

/-- A text in quotes. -/
def text (s : String) : String := "\"" ++ String.join (s.toList.map escape) ++ "\""

/-- A path in quotes; single quotes are escaped as well. -/
def path (s : String) : String :=
  "\"" ++ String.join (s.toList.map fun c => if c = '\'' then "\\'" else escape c) ++ "\""

/-- An optional path: `None`, or the path in quotes. -/
def optionalPath : Option String → String
  | none => "None"
  | some s => "Some(" ++ path s ++ ")"

/-- An optional text: `None`, or the text in quotes. -/
def optional : Option String → String
  | none => "None"
  | some s => "Some(" ++ text s ++ ")"

end BuildGate.Quoted
