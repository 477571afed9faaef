import BuildGate.Data.Yaml.Token

/-!
# YAML: from a text to tokens

Every word may turn out to be the key of a table, which shows only when a colon follows. So the place
of a possible key is remembered, and its tokens are put in front of it later. A possible key stays on
one line and is no longer than 1024 characters. Outside brackets the column of a token decides which
blocks it opens or closes.
-/
namespace BuildGate.Data.Yaml

/-- A word that may be a key: the place of its first token among all, and its place in the text. -/
structure PossibleKey where
  token : Nat
  place : Place
  /-- Nothing but a key may stand there. -/
  isRequired : Bool
  deriving Repr, DecidableEq

/-- The state between two tokens. -/
structure Scanner where
  place : Place
  tokens : Array Token := #[]
  /-- The column of the innermost block, or -1 outside all. -/
  indent : Int := -1
  /-- The columns of the blocks around it. -/
  outer : List Int := []
  /-- Whether a key may begin here. -/
  keyAllowed : Bool := true
  /-- The possible key of each bracket level, the innermost first; the last is that outside. -/
  keys : List (Option PossibleKey) := [none]
  deriving Repr

namespace Scanner

/-- The number of brackets that are open. -/
def flow (s : Scanner) : Nat := s.keys.length - 1

def inFlow (s : Scanner) : Bool := s.flow ≠ 0

def emit (s : Scanner) (t : Token) : Scanner := { s with tokens := s.tokens.push t }

/-- Closes the blocks that are indented further than a column. -/
def unrollBlocks (column : Int) (s : Scanner) : List Int → Scanner
  | [] => s
  | i :: outer =>
    if column < s.indent then
      unrollBlocks column { s.emit .blockEnd with indent := i, outer } outer
    else s

def unroll (s : Scanner) (column : Int) : Scanner :=
  if s.inFlow then s else unrollBlocks column s s.outer

/-- Opens a block at a column that is further than that of the innermost one. Its token comes before
the one with the given number, or last. -/
def roll (s : Scanner) (column : Nat) (before : Option Nat) (t : Token) : Scanner :=
  if !s.inFlow ∧ s.indent < column then
    { s with
      outer := s.indent :: s.outer
      indent := column
      tokens := match before with
        | some n => s.tokens.insertIdxIfInBounds n t
        | none => s.tokens.push t }
  else s

/-- Gives up the possible key of this level, which must not be a required one. -/
def dropKey (s : Scanner) : Option Scanner :=
  match s.keys with
  | some k :: keys => if k.isRequired then none else some { s with keys := none :: keys }
  | _ => some s

/-- Remembers that a key may begin here. -/
def saveKey (s : Scanner) : Option Scanner :=
  if s.keyAllowed then do
    let s ← s.dropKey
    let key : PossibleKey :=
      { token := s.tokens.size
        place := s.place
        isRequired := !s.inFlow && s.indent == (s.place.column : Int) }
    return { s with keys := some key :: s.keys.tail }
  else some s

/-- The most characters that a key may take. -/
def longestKey : Nat := 1024

/-- Whether a possible key can no longer be one. -/
def isStale (p : Place) (k : PossibleKey) : Bool :=
  k.place.line < p.line || k.place.index + longestKey < p.index

/-- Gives up possible keys that can no longer be one. -/
def dropStale (s : Scanner) : Option Scanner := do
  let keys ← s.keys.mapM fun
    | some k => if isStale s.place k then if k.isRequired then none else some none else some (some k)
    | none => some none
  return { s with keys }

/-- Takes blanks, comments and ends of lines. -/
def skipGap (s : Scanner) : Nat → Scanner
  | 0 => s
  | fuel + 1 =>
    let p := s.place
    let p := if p.column = 0 ∧ p.at? 0 = some '\ufeff' then p.skip else p
    let isGapChar (c : Char) : Bool :=
      c == ' ' || ((s.inFlow || !s.keyAllowed) && c == '\t')
    let blanks := (p.rest.takeWhile isGapChar).length
    let p := { p with
      rest := p.rest.drop blanks, index := p.index + blanks, column := p.column + blanks }
    let comment :=
      if p.at? 0 = some '#' then (p.rest.takeWhile fun c => !isBreak c).length else 0
    let p := { p with
      rest := p.rest.drop comment, index := p.index + comment, column := p.column + comment }
    if ((p.at? 0).map isBreak).getD false then
      skipGap { s with place := p.skipLine, keyAllowed := s.keyAllowed || !s.inFlow } fuel
    else { s with place := p }

/-- Takes what a scan takes. -/
def run {α : Type} (s : Scanner) (r : Scan α) : Option (α × Scanner) := do
  let (a, p) ← r s.place
  return (a, { s with place := p })

/-- Takes so many characters as one token. -/
def mark (s : Scanner) (n : Nat) (t : Token) : Scanner :=
  { s.emit t with place := (List.range n).foldl (fun p _ => p.skip) s.place }

/-! ## One token -/

/-- Leaves all blocks, as a marker of documents does. -/
def leaveBlocks (s : Scanner) : Option Scanner := do
  let s ← (s.unroll (-1)).dropKey
  return { s with keyAllowed := false }

def openFlow (s : Scanner) (t : Token) : Option Scanner := do
  let s ← s.saveKey
  return ({ s with keys := none :: s.keys, keyAllowed := true }).mark 1 t

def closeFlow (s : Scanner) (t : Token) : Option Scanner := do
  let s ← s.dropKey
  let keys := if s.inFlow then s.keys.tail else s.keys
  return ({ s with keys, keyAllowed := false }).mark 1 t

def flowEntry (s : Scanner) : Option Scanner := do
  let s ← s.dropKey
  return ({ s with keyAllowed := true }).mark 1 .flowEntry

def blockEntry (s : Scanner) : Option Scanner := do
  if !s.inFlow ∧ !s.keyAllowed then none
  let s ← (s.roll s.place.column none .blockListStart).dropKey
  return ({ s with keyAllowed := true }).mark 1 .blockEntry

def explicitKey (s : Scanner) : Option Scanner := do
  if !s.inFlow ∧ !s.keyAllowed then none
  let s ← (s.roll s.place.column none .blockTableStart).dropKey
  return ({ s with keyAllowed := !s.inFlow }).mark 1 .key

/-- A colon makes a key of the word before it. -/
def keyedValue (s : Scanner) : Option Scanner :=
  match s.keys with
  | some k :: keys =>
    let s := { s with tokens := s.tokens.insertIdxIfInBounds k.token .key }
    let s := s.roll k.place.column (some k.token) .blockTableStart
    some (({ s with keys := none :: keys, keyAllowed := false }).mark 1 .value)
  | _ =>
    if !s.inFlow ∧ !s.keyAllowed then none
    else
      let s := s.roll s.place.column none .blockTableStart
      some (({ s with keyAllowed := !s.inFlow }).mark 1 .value)

/-- A word that may be a key. -/
def word {α : Type} (s : Scanner) (r : Scan α) (token : α → Token) : Option Scanner := do
  let s ← s.saveKey
  let (a, s) ← s.run r
  return { s.emit (token a) with keyAllowed := false }

def plain (s : Scanner) : Option Scanner := do
  let s ← s.saveKey
  let ((text, broken), s) ← s.run (plainScalar s.inFlow (s.indent + 1).toNat)
  return { s.emit (.scalar text true) with keyAllowed := broken }

def block (s : Scanner) (literal : Bool) : Option Scanner := do
  let s ← s.dropKey
  let (text, s) ← s.run (blockScalar literal s.indent)
  return { s.emit (.scalar text false) with keyAllowed := true }

/-- Characters that a plain scalar does not begin with. -/
def indicators : List Char :=
  ['-', '?', ':', ',', '[', ']', '\x7b', '\x7d', '#', '&', '*', '!', '|', '>', '\'', '"', '%', '@',
    '\x60']

/-- Takes the next token, which begins with a given character. -/
def token (s : Scanner) (c : Char) : Option Scanner :=
  let after := s.place.at? 1
  let isMarker := s.place.isMarker
  if s.place.column = 0 ∧ c = '%' then do
    let s ← s.leaveBlocks
    let (t, s) ← s.run directive
    return s.emit t
  else if isMarker then do
    let s ← s.leaveBlocks
    return s.mark 3 (if c = '-' then .documentStart else .documentEnd)
  else if c = '[' then s.openFlow .flowListStart
  else if c = '\x7b' then s.openFlow .flowTableStart
  else if c = ']' then s.closeFlow .flowListEnd
  else if c = '\x7d' then s.closeFlow .flowTableEnd
  else if c = ',' then s.flowEntry
  else if c = '-' ∧ isGap after then s.blockEntry
  else if c = '?' ∧ (s.inFlow ∨ isGap after) then s.explicitKey
  else if c = ':' ∧ (s.inFlow ∨ isGap after) then s.keyedValue
  else if c = '*' then s.word anchorName .reference
  else if c = '&' then s.word anchorName .anchor
  else if c = '!' then s.word tagText .tag
  else if c = '|' ∧ !s.inFlow then s.block true
  else if c = '>' ∧ !s.inFlow then s.block false
  else if c = '\'' ∨ c = '"' then s.word (quotedScalar c) (.scalar · false)
  else if !(isBlank c || isBreak c || indicators.contains c) ∨
      (c = '-' ∧ !(after.map isBlank).getD false) ∨
      (!s.inFlow ∧ (c = '?' ∨ c = ':') ∧ !isGap after) then s.plain
  else none

/-- Takes tokens up to the end of the text. -/
def tokensFrom (s : Scanner) : Nat → Option (Array Token)
  | 0 => none
  | fuel + 1 => do
    let s := s.skipGap (s.place.rest.length + 1)
    let s ← s.dropStale
    let s := s.unroll s.place.column
    match s.place.at? 0 with
    | none => return (← (s.unroll (-1)).dropKey).tokens
    | some c => tokensFrom (← s.token c) fuel

end Scanner

/-- The tokens of a text; a byte order mark in front of it does not count. -/
def tokens? (text : String) : Option (List Token) :=
  let cs := match text.toList with
    | '\ufeff' :: rest => rest
    | cs => cs
  if cs.all isAllowed then
    (({ place := { rest := cs } : Scanner }).tokensFrom (cs.length + 1)).map Array.toList
  else none

end BuildGate.Data.Yaml
