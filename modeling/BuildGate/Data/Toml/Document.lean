import BuildGate.Data.Toml.Number
import BuildGate.Data.Toml.Text

/-!
# TOML: documents

A document is a list of statements: headers that name a table, headers that add a table to a list,
and entries. `Node` is a table while it is filled: it remembers which tables have had their header,
because none may have two, and which were made by dotted keys, because no header may name those.
-/
namespace BuildGate.Data.Toml

/-! ## Filling tables -/

/-- What stands under a key while a table is filled. -/
inductive Node where
  | value (d : Plain)
  /-- A table that a header may have named, or that a dotted key made. -/
  | table (headed dotted : Bool) (entries : List (String × Node))
  /-- A list of tables, of which the last one is being filled. -/
  | tables (elements : List (List (String × Node)))
  deriving Inhabited

/-- Changes the table to which a path leads; tables on the way are made if they are not there.
Dotted keys must not enter a table that has had its header. -/
def atPath (dotted : Bool) (f : Bool → Entries Node → Option (Entries Node)) :
    List String → Bool → Entries Node → Option (Entries Node)
  | [], here, es => f here es
  | k :: path, _, es =>
    match es.lookup k with
    | none => do return es.put k (.table false dotted (← atPath dotted f path dotted []))
    | some (.value _) => none
    | some (.table headed d sub) =>
      if dotted && headed then none
      else do return es.put k (.table headed d (← atPath dotted f path d sub))
    | some (.tables ts) =>
      match ts.reverse with
      | [] => none
      | last :: before => do
        return es.put k (.tables (before.reverse ++ [← atPath dotted f path false last]))

/-- Puts a value under a new key. -/
def addEntry (path : List String) (key : String) (d : Plain) (es : Entries Node) :
    Option (Entries Node) :=
  atPath true
    (fun here es =>
      if !path.isEmpty && !here then none
      else if (es.lookup key).isSome then none
      else some (es.put key (.value d)))
    path false es

/-- Begins the table that a header names. -/
def openTable (path : List String) (key : String) (es : Entries Node) : Option (Entries Node) :=
  atPath false
    (fun _ es =>
      match es.lookup key with
      | none => some (es.put key (.table true false []))
      | some (.table false false sub) => some (es.put key (.table true false sub))
      | some _ => none)
    path false es

/-- Adds a table to the list that a header names. -/
def openElement (path : List String) (key : String) (es : Entries Node) : Option (Entries Node) :=
  atPath false
    (fun _ es =>
      match es.lookup key with
      | none => some (es.put key (.tables [[]]))
      | some (.tables ts) => some (es.put key (.tables (ts ++ [[]])))
      | some _ => none)
    path false es

mutual

/-- The data of a filled table. -/
def Node.plain : Node → Plain
  | .value d => d
  | .table _ _ es => .table () (plainEntries es)
  | .tables ts => .list () (plainElements ts)

def plainEntries : List (String × Node) → List (String × Plain)
  | [] => []
  | (k, n) :: rest => (k, n.plain) :: plainEntries rest

def plainElements : List (List (String × Node)) → List Plain
  | [] => []
  | es :: rest => .table () (plainEntries es) :: plainElements rest

end

/-! ## Values -/

def isBare (c : Char) : Bool := c.isAlphanum || c == '_' || c == '-'

/-- One part of a key. -/
def keyPart : Reading String := do
  match ← Reading.peek with
  | some '"' => lineText '"'
  | some '\'' => lineText '\''
  | _ => return String.ofList (← Reading.takeSome isBare)

/-- Parts of a key with dots between them: all but the last one, and that. -/
def keyParts : Nat → Reading (List String × String)
  | 0 => Reading.refuse
  | fuel + 1 => do
    spaces
    let part ← keyPart
    spaces
    if ← Reading.skip? "." then
      let (parts, last) ← keyParts fuel
      return (part :: parts, last)
    else return ([], part)

/-- How many parts stand in front of the last one of a key at most. -/
def pathLimit : Nat := 78

/-- A key of an entry or a header. -/
def key (fuel : Nat) : Reading (List String × String) := do
  let (path, last) ← keyParts fuel
  if pathLimit < path.length then Reading.refuse
  return (path, last)

/-- Blanks, ends of lines and comments, as they may stand in a list. -/
def blankLines : Nat → Reading Unit
  | 0 => pure ()
  | fuel + 1 => do
    spaces
    if ← newline? then blankLines fuel
    else if (← Reading.peek) = some '#' then
      comment
      unless ← newline? do Reading.refuse
      blankLines fuel

/-- How deep lists and tables may nest in a value. -/
def nestLimit : Nat := 79

mutual

/-- A value. The fuel bounds its parts, and `depth` how deep they nest. -/
def value (depth : Nat) : Nat → Reading Plain
  | 0 => Reading.refuse
  | fuel + 1 => do
    match ← Reading.peek with
    | some '"' => return Plain.ofText (← quoted '"')
    | some '\'' => return Plain.ofText (← quoted '\'')
    | some 't' => Reading.text "true"; return Plain.ofBool true
    | some 'f' => Reading.text "false"; return Plain.ofBool false
    | some '[' =>
      let _ ← Reading.next
      if depth = 0 then Reading.refuse
      return Plain.ofList (← items (depth - 1) fuel)
    | some '\x7b' =>
      let _ ← Reading.next
      if depth = 0 then Reading.refuse
      spaces
      if ← Reading.skip? "\x7d" then return Plain.ofEntries []
      return .table () (plainEntries (← members (depth - 1) [] fuel))
    | _ =>
      match ← Reading.optional date with
      | some d => return d
      | none => return .scalar () (← number)

/-- The values of a list up to its bracket; a comma may stand behind the last one. -/
def items (depth : Nat) : Nat → Reading (List Plain)
  | 0 => Reading.refuse
  | fuel + 1 => do
    blankLines (fuel + 1)
    if ← Reading.skip? "]" then return []
    let d ← value depth fuel
    blankLines (fuel + 1)
    if ← Reading.skip? "," then return d :: (← items depth fuel)
    Reading.char ']'
    return [d]

/-- The entries of a table up to its brace, all on one line. -/
def members (depth : Nat) (es : Entries Node) : Nat → Reading (Entries Node)
  | 0 => Reading.refuse
  | fuel + 1 => do
    let (path, last) ← key (fuel + 1)
    Reading.char '='
    spaces
    let d ← value depth fuel
    spaces
    match addEntry path last d es with
    | none => Reading.refuse
    | some es =>
      if ← Reading.skip? "," then members depth es fuel
      else
        Reading.char '\x7d'
        return es

end

/-! ## Documents -/

/-- Reads statements and fills the table that the last header opened. -/
def statements (opened : List String) (es : Entries Node) : Nat → Reading (Entries Node)
  | 0 => Reading.refuse
  | fuel + 1 => do
    spaces
    match ← Reading.peek with
    | none => return es
    | some '#' =>
      comment
      lineEnd
      statements opened es fuel
    | some '\n' | some '\r' =>
      lineEnd
      statements opened es fuel
    | some '[' =>
      let isElement ← Reading.skip? "[["
      if !isElement then Reading.char '['
      let (path, last) ← key (fuel + 1)
      Reading.text (if isElement then "]]" else "]")
      lineRest
      match (if isElement then openElement else openTable) path last es with
      | some es => statements (path ++ [last]) es fuel
      | none => Reading.refuse
    | some _ =>
      let (path, last) ← key (fuel + 1)
      Reading.char '='
      spaces
      let d ← value nestLimit (fuel + 1)
      lineRest
      match atPath false (fun _ es => addEntry path last d es) opened false es with
      | some es => statements opened es fuel
      | none => Reading.refuse

/-- A byte order mark may stand in front of a document. -/
def document (fuel : Nat) : Reading (Entries Node) := do
  let _ ← Reading.skip? "\ufeff"
  statements [] [] fuel

/-- The table that a document describes. -/
def read? (text : String) : Option Plain :=
  (Reading.whole (document (2 * text.length + 2)) text).map fun es => .table () (plainEntries es)

end BuildGate.Data.Toml
