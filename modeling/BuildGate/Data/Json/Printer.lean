import BuildGate.Data.Basic

/-!
# Writing JSON

Writes data as JSON, one value a line, each level moved in by two blanks. Entries keep the order in
which a table has them.

**Results.**
* `escape_ne_nil`: every character leaves something.
-/
namespace BuildGate.Data.Json

/-- Two hexadecimal digits. -/
def byteText (n : Nat) : List Char := [Nat.digitChar (n / 16), Nat.digitChar (n % 16)]

/-- A character inside quotes. -/
def escape (c : Char) : List Char :=
  match c with
  | '"' => ['\\', '"']
  | '\\' => ['\\', '\\']
  | '\n' => ['\\', 'n']
  | '\r' => ['\\', 'r']
  | '\t' => ['\\', 't']
  | '\x08' => ['\\', 'b']
  | '\x0c' => ['\\', 'f']
  | c => if c.toNat < 0x20 then '\\' :: 'u' :: '0' :: '0' :: byteText c.toNat else [c]

theorem escape_ne_nil (c : Char) : escape c ≠ [] := by
  unfold escape
  repeat' split
  all_goals simp

/-- A text in quotes. -/
def quote (s : String) : String := "\"" ++ String.ofList (s.toList.flatMap escape) ++ "\""

def scalarText : Scalar → String
  | .null => "null"
  | .bool b => if b then "true" else "false"
  | .unsigned n => toString n
  | .signed i | .wide i => toString i
  | .float x => x.text
  | .char c => quote (toString c)
  | .text s => quote s

/-- A new line, moved in. -/
def newLine (depth : Nat) : String := "\n" ++ String.ofList (List.replicate (2 * depth) ' ')

mutual

/-- Data at a depth. -/
def textAt (depth : Nat) : Plain → String
  | .scalar _ v => scalarText v
  | .list _ items =>
    if items.isEmpty then "[]"
    else "[" ++ ",".intercalate (itemTexts (depth + 1) items) ++ newLine depth ++ "]"
  | .table _ entries =>
    if entries.isEmpty then "\x7b\x7d"
    else
      "\x7b" ++ ",".intercalate (entryTexts (depth + 1) entries) ++ newLine depth ++ "\x7d"

def itemTexts (depth : Nat) : List Plain → List String
  | [] => []
  | d :: rest => (newLine depth ++ textAt depth d) :: itemTexts depth rest

def entryTexts (depth : Nat) : List (String × Plain) → List String
  | [] => []
  | (k, d) :: rest =>
    (newLine depth ++ quote k ++ ": " ++ textAt depth d) :: entryTexts depth rest

end

/-- The text of data. -/
def pretty (d : Plain) : String := textAt 0 d

end BuildGate.Data.Json
