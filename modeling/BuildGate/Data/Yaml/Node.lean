import BuildGate.Data.Yaml.Scanner

/-!
# YAML: from tokens to nodes

The structure that tokens write: scalars, lists and tables, each with an optional tag. An alias is
replaced by the node it names, which must be complete. A text holds one document at most.

Aliases of nodes that hold aliases make a short text stand for a huge document, so a `Builder` counts
beside the nodes: `events` is what the text writes, and `jumps` how many aliases a reader of the
document will follow. With more than `jumpFactor` jumps for each event the text is refused.
-/
namespace BuildGate.Data.Yaml

inductive Node where
  /-- A scalar, and whether it is neither quoted nor a block. -/
  | scalar (tag : Option String) (text : String) (isPlain : Bool)
  | list (tag : Option String) (items : List Node)
  | table (tag : Option String) (entries : List (Node × Node))
  deriving Repr, Inhabited

/-- A complete node with an anchor, and the aliases that are followed to read it. -/
structure Anchored where
  node : Node
  jumps : Nat

/-- The state between two nodes. -/
structure Builder where
  tokens : List Token
  /-- The number of the last node with an anchor of each name. -/
  anchors : List (String × Nat) := []
  /-- The nodes with an anchor that are complete, by number. -/
  nodes : List (Nat × Anchored) := []
  /-- What handles of tags stand for. -/
  handles : List (String × String) := []
  /-- A scalar or an alias is one event; a list or a table is one where it begins and one where it
  ends. -/
  events : Nat := 0
  /-- An alias in an aliased node counts each time that node is read. -/
  jumps : Nat := 0

abbrev Build (α : Type) := StateT Builder Option α

namespace Build

def refuse {α : Type} : Build α := fun _ => none

def peek : Build (Option Token) := fun b => some (b.tokens.head?, b)

def skip : Build Unit := fun b => some ((), { b with tokens := b.tokens.tail })

/-- Whether one of some tokens comes next; nothing does at the end. -/
def isNext (ts : List Token) : Build Bool := do return ((← peek).map ts.contains).getD false

def count (events : Nat) : Build Unit := modify fun b => { b with events := b.events + events }

def scalar (tag : Option String) (text : String) (isPlain : Bool) : Build Node := do
  count 1
  return .scalar tag text isPlain

def list (tag : Option String) (items : List Node) : Build Node := do
  count 2
  return .list tag items

def table (tag : Option String) (entries : List (Node × Node)) : Build Node := do
  count 2
  return .table tag entries

/-- The node that stands where none is written. -/
def empty : Build Node := scalar none "" true

/-- The tag that a handle and a suffix write. -/
def resolve (t : TagText) : Build String := fun b =>
  if t.handle = "" then some (t.suffix, b)
  else
    let known := b.handles ++ [("!", "!"), ("!!", "tag:yaml.org,2002:")]
    (known.lookup t.handle).map fun pre => (pre ++ t.suffix, b)

/-- What stands before the content of a node. -/
structure Properties where
  anchor : Option String := none
  tag : Option String := none

def properties : Build Properties := do
  match ← peek with
  | some (.anchor name) =>
    skip
    match ← peek with
    | some (.tag t) =>
      skip
      return { anchor := some name, tag := some (← resolve t) }
    | _ => return { anchor := some name }
  | some (.tag t) =>
    skip
    match ← peek with
    | some (.anchor name) =>
      skip
      return { anchor := some name, tag := some (← resolve t) }
    | _ => return { tag := some (← resolve t) }
  | _ => return {}

/-- Gives a name to the node that begins here. -/
def begin (anchor : Option String) : Build Nat := fun b =>
  match anchor with
  | none => some (0, b)
  | some name =>
    let n := b.anchors.length + 1
    some (n, { b with anchors := (name, n) :: b.anchors })

/-- Ends a node, whose number `n` is 0 if it has no name; `before` are the jumps up to it. -/
def complete (n before : Nat) (node : Node) : Build Node := fun b =>
  some (node,
    if n = 0 then b else { b with nodes := (n, ⟨node, b.jumps - before⟩) :: b.nodes })

def aliased (name : String) : Build Node := fun b => do
  let n ← b.anchors.lookup name
  let target ← b.nodes.lookup n
  return (target.node, { b with events := b.events + 1, jumps := b.jumps + 1 + target.jumps })

mutual

/-- A node. Blocks may begin only where `block` says so, and only a value of a table in a block may
be a list whose entries are not indented. -/
def node (block unindented : Bool) : Nat → Build Node
  | 0 => refuse
  | fuel + 1 => do
    match ← peek with
    | some (.reference name) =>
      skip
      aliased name
    | _ =>
      let p ← properties
      let n ← begin p.anchor
      let before := (← get).jumps
      complete n before (← content p block unindented fuel)

def content (p : Properties) (block unindented : Bool) : Nat → Build Node
  | 0 => refuse
  | fuel + 1 => do
    match ← peek with
    | some .blockEntry =>
      if unindented then list p.tag (← unindentedItems fuel) else missing p
    | some (.scalar text isPlain) =>
      skip
      scalar p.tag text isPlain
    | some .flowListStart =>
      skip
      list p.tag (← flowItems true fuel)
    | some .flowTableStart =>
      skip
      table p.tag (← flowEntries true fuel)
    | some .blockListStart =>
      if !block then missing p
      else
        skip
        list p.tag (← blockItems fuel)
    | some .blockTableStart =>
      if !block then missing p
      else
        skip
        table p.tag (← blockEntries fuel)
    | _ => missing p

/-- A node without content has to have an anchor or a tag. -/
def missing (p : Properties) : Build Node :=
  if p.anchor.isSome || p.tag.isSome then scalar p.tag "" true else refuse

/-- A node, unless one of some tokens shows that there is none. -/
def nodeUnless (ts : List Token) (block unindented : Bool) : Nat → Build Node
  | 0 => refuse
  | fuel + 1 => do
    if ← isNext ts then empty else node block unindented fuel

def unindentedItems : Nat → Build (List Node)
  | 0 => refuse
  | fuel + 1 => do
    if ← isNext [.blockEntry] then
      skip
      let d ← nodeUnless [.blockEntry, .key, .value, .blockEnd] true false fuel
      return d :: (← unindentedItems fuel)
    else return []

def blockItems : Nat → Build (List Node)
  | 0 => refuse
  | fuel + 1 => do
    match ← peek with
    | some .blockEntry =>
      skip
      let d ← nodeUnless [.blockEntry, .blockEnd] true false fuel
      return d :: (← blockItems fuel)
    | some .blockEnd =>
      skip
      return []
    | _ => refuse

def blockEntries : Nat → Build (List (Node × Node))
  | 0 => refuse
  | fuel + 1 => do
    match ← peek with
    | some .key =>
      skip
      let k ← nodeUnless [.key, .value, .blockEnd] true true fuel
      let d ←
        if ← isNext [.value] then do
          skip
          nodeUnless [.key, .value, .blockEnd] true true fuel
        else empty
      return (k, d) :: (← blockEntries fuel)
    | some .blockEnd =>
      skip
      return []
    | _ => refuse

/-- The items of a list in brackets. -/
def flowItems (isFirst : Bool) : Nat → Build (List Node)
  | 0 => refuse
  | fuel + 1 => do
    if ← isNext [.flowListEnd] then
      skip
      return []
    if !isFirst then
      if ← isNext [.flowEntry] then skip else refuse
    match ← peek with
    | some .key =>
      skip
      let entry ← table none [← flowPair fuel]
      return entry :: (← flowItems false fuel)
    | some .flowListEnd =>
      skip
      return []
    | _ =>
      let d ← node false false fuel
      return d :: (← flowItems false fuel)

/-- An entry of a table that stands in a list without braces, after the mark of its key. Where the
key is missing the token behind it is lost. -/
def flowPair : Nat → Build (Node × Node)
  | 0 => refuse
  | fuel + 1 => do
    let k ←
      if ← isNext [.value, .flowEntry, .flowListEnd] then do
        skip
        empty
      else node false false fuel
    if ← isNext [.value] then
      skip
      return (k, ← nodeUnless [.flowEntry, .flowListEnd] false false fuel)
    else return (k, ← empty)

/-- The entries of a table in braces. -/
def flowEntries (isFirst : Bool) : Nat → Build (List (Node × Node))
  | 0 => refuse
  | fuel + 1 => do
    if ← isNext [.flowTableEnd] then
      skip
      return []
    if !isFirst then
      if ← isNext [.flowEntry] then skip else refuse
    match ← peek with
    | some .key =>
      skip
      let k ← nodeUnless [.value, .flowEntry, .flowTableEnd] false false fuel
      let d ←
        if ← isNext [.value] then do
          skip
          nodeUnless [.flowEntry, .flowTableEnd] false false fuel
        else empty
      return (k, d) :: (← flowEntries false fuel)
    | some .flowTableEnd =>
      skip
      return []
    | _ =>
      let k ← node false false fuel
      let d ← empty
      return (k, d) :: (← flowEntries false fuel)

end

/-- The directives before a document. -/
def directives (version : Bool) : Nat → Build Unit
  | 0 => refuse
  | fuel + 1 => do
    match ← peek with
    | some (.version major minor) =>
      if version || major ≠ 1 || !(minor = 1 || minor = 2) then refuse
      skip
      directives true fuel
    | some (.tagHandle handle pre) =>
      if ((← get).handles.lookup handle).isSome then refuse
      modify fun b => { b with handles := (handle, pre) :: b.handles }
      skip
      directives version fuel
    | _ => pure ()

def skipAll (t : Token) : Nat → Build Unit
  | 0 => pure ()
  | fuel + 1 => do
    if ← isNext [t] then
      skip
      skipAll t fuel

/-- The only document of a text, if there is one. -/
def document (fuel : Nat) : Build (Option Node) := do
  match ← peek with
  | none => return none
  | some t =>
    let isExplicit := match t with
      | .version _ _ | .tagHandle _ _ | .documentStart => true
      | _ => false
    let root ←
      if isExplicit then do
        directives false fuel
        if ← isNext [.documentStart] then skip else refuse
        let isMissing := match ← peek with
          | none | some (.version _ _) | some (.tagHandle _ _) | some .documentStart
          | some .documentEnd => true
          | _ => false
        if isMissing then empty else node true false fuel
      else node true false fuel
    skipAll .documentEnd fuel
    if (← peek).isSome then refuse
    return some root

end Build

/-- How many aliases may be followed for each event. -/
def jumpFactor : Nat := 100

/-- The document that tokens write, or nothing if they write none. -/
def document? (tokens : List Token) : Option (Option Node) := do
  let (root, b) ← Build.document (3 * tokens.length + 5) { tokens }
  if jumpFactor * b.events < b.jumps then none else return root

end BuildGate.Data.Yaml
