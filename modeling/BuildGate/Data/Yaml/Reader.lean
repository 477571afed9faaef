import BuildGate.Data.Basic
import BuildGate.Data.Decimal
import BuildGate.Data.Yaml.Node
import BuildGate.Word

/-!
# YAML: from nodes to data

A plain scalar is null, a truth value or a number if it looks like one; every other scalar is a
text. A standard tag asks for a kind of scalar, and any other tag makes a table with one entry. Keys
are texts as they are written, and of entries under one key the last one counts.
-/
namespace BuildGate.Data.Yaml

def isNull (s : String) : Bool := ["null", "Null", "NULL", "~"].contains s

def bool? (s : String) : Option Bool :=
  if ["true", "True", "TRUE"].contains s then some true
  else if ["false", "False", "FALSE"].contains s then some false
  else none

/-- Whether a number would begin with a zero that is not its only digit. -/
def hasLeadingZero (s : String) : Bool :=
  let cs := match s.toList with
    | '-' :: rest => rest
    | '+' :: rest => rest
    | cs => cs
  2 ≤ cs.length && cs.head? == some '0' && cs.all isDigit

/-- The number that digits of a base write. -/
def digits? (base : Nat) (cs : List Char) : Option Nat :=
  if cs.isEmpty || !(cs.all fun c => (digitOf base c).isSome) then none else some (numberOf base cs)

/-- An integer without its sign, which may state its base. -/
def magnitude? (cs : List Char) : Option Nat :=
  match cs with
  | '0' :: 'x' :: ds => digits? 16 ds
  | '0' :: 'o' :: ds => digits? 8 ds
  | '0' :: 'b' :: ds => digits? 2 ds
  | ds => digits? 10 ds

/-- An integer of up to 128 bits. -/
def integer? (s : String) : Option Scalar :=
  if hasLeadingZero s then none
  else
    match s.toList with
    | '-' :: cs => do
      let n ← magnitude? cs
      if n ≤ Word.half then return .signed (-(n : Int))
      else if n ≤ Word.wideHalf then return .wide (-(n : Int))
      else none
    | cs => do
      let n ← magnitude? (if cs.head? = some '+' then cs.tail else cs)
      if n < Word.bound then return .unsigned n
      else if n < Word.wideBound then return .wide n
      else none

def float? (s : String) : Option Double :=
  let unsigned := match s.toList with
    | '+' :: rest => String.ofList rest
    | _ => s
  if s.startsWith "++" || s.startsWith "+-" then none
  else if [".inf", ".Inf", ".INF"].contains unsigned then some (.infinite false)
  else if ["-.inf", "-.Inf", "-.INF"].contains s then some (.infinite true)
  else if [".nan", ".NaN", ".NAN"].contains s then some .nan
  else
    match (Decimal.read? unsigned).map Decimal.toDouble with
    | some (.finite n m e) => some (.finite n m e)
    | _ => none

/-- What a plain scalar without a tag is. -/
def ofPlain (s : String) : Scalar :=
  if s = "" ∨ isNull s then .null
  else
    match bool? s, integer? s with
    | some b, _ => .bool b
    | none, some i => i
    | none, none =>
      if hasLeadingZero s then .text s
      else
        match float? s with
        | some x => .float x
        | none => .text s

/-- The name that a tag of the text's own gives. -/
def ownTag? : Option String → Option String
  | none => none
  | some t =>
    match t.toList with
    | ['!'] => some "!"
    | '!' :: rest => some (String.ofList rest)
    | _ => none

/-- A scalar with a standard tag, which it has to fit. -/
def tagged? (tag : Option String) (s : String) (isPlain : Bool) : Option Scalar :=
  match tag with
  | none => some (if isPlain then ofPlain s else .text s)
  | some t =>
    if t = "tag:yaml.org,2002:bool" then (bool? s).map .bool
    else if t = "tag:yaml.org,2002:int" then integer? s
    else if t = "tag:yaml.org,2002:float" then (float? s).map .float
    else if t = "tag:yaml.org,2002:null" then if isNull s then some .null else none
    else some (.text s)

/-- The key that a node writes. -/
def key? : Node → Option String
  | .scalar _ s _ => some s
  | _ => none

/-- Puts a value under the tag that is the text's own. -/
def underTag (tag : Option String) (d : Plain) : Plain :=
  match ownTag? tag with
  | some name => Plain.ofEntries [(name, d)]
  | none => d

/-- The data of a node, whose lists and tables nest no deeper than the bound. -/
def plain? : Nat → Node → Option Plain
  | _, .scalar tag s isPlain =>
    match ownTag? tag with
    | some name => do
      return Plain.ofEntries [(name, .scalar () (← tagged? none s isPlain))]
    | none => do return .scalar () (← tagged? tag s isPlain)
  | 0, _ => none
  | depth + 1, .list tag items => do
    return underTag tag (Plain.ofList (← items.mapM (plain? depth)))
  | depth + 1, .table tag entries => do
    return underTag tag (Plain.ofEntries (← entries.mapM (member? depth)))
where
  member? (depth : Nat) (e : Node × Node) : Option (String × Plain) := do
    return (← key? e.1, ← plain? depth e.2)

/-- How deep lists and tables may nest. -/
def nestLimit : Nat := 128

/-- The table that a text describes; a text without content describes an empty one. -/
def read? (text : String) : Option Plain := do
  match ← document? (← tokens? text) with
  | none | some (.scalar _ "" true) => return Plain.ofEntries []
  | some (.table _ entries) => plain? nestLimit (.table none entries)
  | some _ => none

end BuildGate.Data.Yaml
