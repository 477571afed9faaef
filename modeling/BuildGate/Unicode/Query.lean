import BuildGate.Unicode.Segment
import BuildGate.Unicode.Names
import BuildGate.Unicode.ScriptExtensionTable
import BuildGate.Unicode.AgeTable

/-!
# Classes of characters by name

Answers `\p{...}` of a pattern: a category, a script or a binary property by itself, or the value of
a property that is named with it. A name by itself is tried as a property, then as a category, then
as a script.
-/
namespace BuildGate.Unicode

/-- What a pattern writes between the braces. -/
inductive Query where
  | name (text : String)
  | value (property value : String)
  deriving Repr, DecidableEq

inductive QueryFault where
  | noProperty
  | noValue
  deriving Repr, DecidableEq

/-- A name without case, blanks, dashes and underscores, and without a leading `is`. Characters
beyond ASCII are dropped. -/
def looseName (s : String) : String :=
  let kept (cs : List Char) := (cs.filter fun c =>
    c.toNat < 0x80 && c != ' ' && c != '_' && c != '-').map Char.toLower
  match s.toList with
  | a :: b :: rest =>
    if a.toLower = 'i' ∧ b.toLower = 's' then
      if kept rest = ['c'] then "isc" else String.ofList (kept rest)
    else String.ofList (kept (a :: b :: rest))
  | cs => String.ofList (kept cs)

/-- The entry of a table of names that has the given loose spelling, by its first spelling. -/
def canonicalName (table : List String) (loose : String) : Option String :=
  table.findSome? fun entry =>
    let spellings := entry.splitOn " "
    if spellings.any (fun s => looseName s == loose) then spellings.head? else none

/-- The name of a category by its loose spelling; three sets besides are named like categories. -/
def categoryName (loose : String) : Option String :=
  if ["any", "assigned", "ascii"].contains loose then some loose
  else canonicalName categoryNames loose

/-- The set of a category. No character is a surrogate, so `Cs` has none. -/
def categorySet : String → Option Charset
  | "any" => some .full
  | "assigned" => some assigned
  | "ascii" => some (.ofRange '\x00' '\x7F')
  | "Cs" => none
  | name => some (category name)

def scriptSet (name : String) : Option Charset := (scriptTable.lookup name).map .ofTable

/-- The short name of a script, by which the table of extensions lists it. -/
def shortScript (name : String) : String :=
  (scriptNames.findSome? fun entry =>
    match entry.splitOn " " with
    | long :: short :: _ => if long = name then some short else none
    | _ => none).getD name

/-- The characters that are used with a script: those of the script itself but for the ones that
the table of extensions lists, and the listed ones that name the script. -/
def scriptExtensions (name : String) : Charset :=
  let short := shortScript name
  let listed := Charset.unions (scriptExtensionTable.map fun e => .ofTable e.2)
  let named := Charset.unions ((scriptExtensionTable.filter fun e =>
    (e.1.splitOn " ").contains short).map fun e => .ofTable e.2)
  ((script name).diff listed).union named

/-- The characters that Unicode had assigned by a version. -/
def age (loose : String) : Option Charset :=
  let key (e : String × String) : String := looseName ("v" ++ e.1)
  let short (e : String × String) : String := e.1.replace "_" "."
  match ageTable.findIdx? fun e => key e == loose || short e == loose with
  | some i => some (.unions ((ageTable.take (i + 1)).map fun e => .ofTable e.2))
  | none => none

/-- The set for a value that a property is known to have, if any character has it. -/
def found : Option Charset → Except QueryFault Charset
  | some s => .ok s
  | none => .error .noValue

/-- The set that a query names. Three short names are categories, though properties have them too. -/
def classNamed : Query → Except QueryFault Charset
  | .name text =>
    let loose := looseName text
    let asProperty :=
      if ["cf", "sc", "lc"].contains loose then none
      else canonicalName (propertyNames ++ otherPropertyNames) loose
    match asProperty, categoryName loose, canonicalName scriptNames loose with
    | some name, _, _ =>
      match property name with
      | some s => .ok s
      | none => .error .noProperty
    | none, some name, _ => found (categorySet name)
    | none, none, some name => found (scriptSet name)
    | none, none, none => .error .noProperty
  | .value prop value =>
    let loose := looseName value
    match canonicalName (propertyNames ++ otherPropertyNames) (looseName prop) with
    | some "General_Category" => found ((categoryName loose).bind categorySet)
    | some "Script" => found ((canonicalName scriptNames loose).bind scriptSet)
    | some "Script_Extensions" =>
      found ((canonicalName scriptNames loose).bind fun name =>
        (scriptSet name).map fun _ => scriptExtensions name)
    | some "Age" => found (age loose)
    | some "Grapheme_Cluster_Break" =>
      found ((canonicalName graphemeBreakNames loose).bind graphemeBreak)
    | some "Word_Break" => found ((canonicalName wordBreakNames loose).bind wordBreak)
    | some "Sentence_Break" => found ((canonicalName sentenceBreakNames loose).bind sentenceBreak)
    | some _ => .error .noValue
    | none => .error .noProperty

end BuildGate.Unicode
