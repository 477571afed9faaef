import BuildGate.Glob.Fault
import BuildGate.Path

/-!
# Patterns that take files away

A pattern of this kind is matched against the bytes of a path. A star stands for any bytes, slashes
included; a question mark and a class stand for one byte; braces hold alternatives. Two stars that
make up a component stand for any number of components.

`Exclude.rests` lists what may remain of a path after a token has taken its part, and a path matches
when nothing remains.
-/
namespace BuildGate.Glob

/-- A token of a pattern that takes files away. -/
inductive Exclude where
  | literal (c : Char)
  /-- Any byte. -/
  | any
  /-- Any bytes. -/
  | many
  /-- Two stars at the start: any directories, or none. -/
  | recursivePrefix
  /-- Two stars at the end: anything below. -/
  | recursiveSuffix
  /-- Two stars between slashes: a slash, or any directories between two. -/
  | recursiveInner
  | cls (negated : Bool) (ranges : List (Char × Char))
  | alternates (branches : List (List Exclude))
  deriving Repr, Inhabited

namespace Exclude

/-! ## Reading -/

/-- Where a reader stands: the character before, those to come, the tokens of the open branches,
the innermost and last one first and each with its last token first, and how many branches stood
open where each pair of braces began. -/
structure Reader where
  before : Option Char := none
  rest : List Char
  branches : List (List Exclude) := [[]]
  groups : List Nat := []

namespace Reader

def push (r : Reader) (t : Exclude) : Reader :=
  match r.branches with
  | b :: more => { r with branches := (t :: b) :: more }
  | [] => r

def hasTokens (r : Reader) : Bool := r.branches.head?.any (!·.isEmpty)

def pop (r : Reader) : Option Exclude × Reader :=
  match r.branches with
  | (t :: b) :: more => (some t, { r with branches := b :: more })
  | _ => (none, r)

end Reader

/-- The text of a class after its bracket: its ranges, the last one first, and what follows the
closing bracket. A closing bracket or a dash that comes first stands for itself, and so does a dash
that comes last. -/
def readRanges : (isFirst inRange : Bool) → List (Char × Char) → List Char →
    Except ExcludeFault (List (Char × Char) × List Char)
  | _, _, _, [] => .error .unclosedClass
  | isFirst, inRange, ranges, c :: rest =>
    let extend : Except ExcludeFault (List (Char × Char)) :=
      match ranges with
      | (lo, _) :: more => if c < lo then .error (.invalidRange lo c) else .ok ((lo, c) :: more)
      | [] => .ok [(c, c)]
    if c = ']' ∧ isFirst = false then
      .ok (if inRange then ('-', '-') :: ranges else ranges, rest)
    else if c = '-' ∧ isFirst = false ∧ inRange = false then readRanges false true ranges rest
    else if inRange then
      match extend with
      | .ok ranges => readRanges false false ranges rest
      | .error e => .error e
    else readRanges false false ((c, c) :: ranges) rest

def isSlash (c : Option Char) : Bool := c == some '/'

/-- What one star or two stand for, by what is before and after them: `many`, or one of
`recursivePrefix`, `recursiveSuffix` and `recursiveInner`. Returns the reader past them, and past
the slash that a recursive pair takes with it. -/
def readStar (r : Reader) : Reader :=
  match r.rest with
  | '*' :: rest =>
    let next := rest.head?
    let twoStars : Reader := ({ r with rest, before := some '*' }.push .many).push .many
    let past : Reader := { r with rest := rest.drop 1, before := next.or (some '*') }
    if r.hasTokens = false then
      if next.isSome ∧ next ≠ some '/' then twoStars else past.push .recursivePrefix
    else if !isSlash r.before ∧
        (r.branches.length ≤ 1 ∨ (r.before ≠ some ',' ∧ r.before ≠ some '\x7b')) then
      twoStars
    else
      let inBraces := 2 ≤ r.branches.length
      let replaceLast (isLast : Bool) (r : Reader) : Reader :=
        match r.pop with
        | (some .recursivePrefix, r) => r.push .recursivePrefix
        | (some .recursiveSuffix, r) => r.push .recursiveSuffix
        | (_, r) => r.push (if isLast then .recursiveSuffix else .recursiveInner)
      match next with
      | none => replaceLast true { r with rest, before := some '*' }
      | some ',' | some '\x7d' =>
        if inBraces then replaceLast true { r with rest, before := some '*' } else twoStars
      | some '/' => replaceLast false past
      | some _ => twoStars
  | _ => { r with before := some '*' }.push .many

/-- Closes a pair of braces: the branches opened since become one `alternates`. -/
def closeGroup (r : Reader) : Except ExcludeFault Reader :=
  match r.groups with
  | [] => .error .unopenedAlternates
  | start :: groups =>
    let count := r.branches.length - start
    let inner := ((r.branches.take count).map List.reverse).reverse
    .ok ({ r with branches := r.branches.drop count, groups }.push (.alternates inner))

/-- Reads tokens to the end. Every step passes over a character, so the fuel is their number. -/
def readTokens : Nat → Reader → Except ExcludeFault Reader
  | 0, r => .ok r
  | fuel + 1, r =>
    match r.rest with
    | [] => .ok r
    | c :: rest =>
      let after : Reader := { r with rest, before := some c }
      match c with
      | '?' => readTokens fuel (after.push .any)
      | '*' => readTokens fuel (readStar { r with rest })
      | '[' =>
        let (negated, body) := match rest with
          | '!' :: body => (true, body)
          | '^' :: body => (true, body)
          | body => (false, body)
        match readRanges true false [] body with
        | .error e => .error e
        | .ok (ranges, rest) =>
          readTokens fuel
            ({ r with rest, before := some ']' }.push (.cls negated ranges.reverse))
      | '\x7b' =>
        readTokens fuel
          { after with groups := r.branches.length :: r.groups, branches := [] :: r.branches }
      | '\x7d' =>
        match closeGroup after with
        | .ok r => readTokens fuel r
        | .error e => .error e
      | ',' =>
        if r.groups.isEmpty then readTokens fuel (after.push (.literal ','))
        else readTokens fuel { after with branches := [] :: r.branches }
      | '\\' =>
        match rest with
        | [] => .error .danglingEscape
        | e :: rest => readTokens fuel ({ r with rest, before := some e }.push (.literal e))
      | c => readTokens fuel (after.push (.literal c))

/-- The tokens of the pattern `glob`. -/
def read (glob : String) : Except ExcludeFault (List Exclude) :=
  let cs := glob.toList
  match readTokens (cs.length + 1) { rest := cs } with
  | .error e => .error e
  | .ok r =>
    match r.branches with
    | [tokens] => .ok tokens.reverse
    | _ => .error .unclosedAlternates

/-! ## Matching -/

/-- The bytes of a character. -/
def bytesOf (c : Char) : List UInt8 := String.utf8EncodeChar c

/-- What remains after each byte for which `p` holds. -/
def restsAfter (p : UInt8 → Bool) : List UInt8 → List (List UInt8)
  | [] => []
  | b :: s => if p b then s :: restsAfter p s else restsAfter p s

def slash : UInt8 := 0x2F

/-- Whether `b` lies in a class: the bytes between the last one of a range's lower end and the first
one of its upper end, and the other bytes of both ends. -/
def inRanges (ranges : List (Char × Char)) (b : UInt8) : Bool :=
  ranges.any fun (lo, hi) =>
    let ls := bytesOf lo
    if lo = hi then ls.contains b
    else
      let hs := bytesOf hi
      ls.contains b || hs.contains b || ((ls.getLastD 0) ≤ b && b ≤ (hs.headD 0))

/-- What remains past a text that stands first. -/
def dropText : List UInt8 → List UInt8 → Option (List UInt8)
  | [], s => some s
  | _ :: _, [] => none
  | b :: text, c :: s => if b = c then dropText text s else none

mutual

/-- Whether a token can take part in a match at all: braces with nothing in them do not. -/
def hasText : Exclude → Bool
  | .alternates branches => anyHasText branches
  | _ => true

def branchHasText : List Exclude → Bool
  | [] => false
  | t :: more => t.hasText || branchHasText more

def anyHasText : List (List Exclude) → Bool
  | [] => false
  | b :: more => branchHasText b || anyHasText more

end

/-- Drops repeated remainders, which are told apart by their lengths. -/
def distinctRests (rs : List (List UInt8)) : List (List UInt8) :=
  (rs.foldl (fun (acc : List Nat × List (List UInt8)) r =>
    if acc.1.contains r.length then acc else (r.length :: acc.1, r :: acc.2)) ([], [])).2.reverse

mutual

/-- What may remain of a text after the token. -/
def rests : Exclude → List UInt8 → List (List UInt8)
  | .literal c, s => (dropText (bytesOf c) s).toList
  | .any, s => match s with
    | [] => []
    | _ :: s => [s]
  | .many, s => s :: restsAfter (fun _ => true) s
  | .recursivePrefix, s => s :: restsAfter (· == slash) s
  | .recursiveSuffix, s => match s with
    | [] => []
    | b :: s => if b = slash then s :: restsAfter (fun _ => true) s else []
  | .recursiveInner, s => match s with
    | [] => []
    | b :: s => if b = slash then s :: restsAfter (· == slash) s else []
  | .cls negated ranges, s => match s with
    | [] => []
    | b :: s => if inRanges ranges b != negated then [s] else []
  | .alternates branches, s => if anyHasText branches then branchRests branches s else [s]

/-- What may remain of a text after `tokens`. -/
def restsAll : List Exclude → List UInt8 → List (List UInt8)
  | [], s => [s]
  | t :: more, s => distinctRests ((rests t s).flatMap (restsAll more))

/-- What may remain after one of several branches; a branch without text is none. -/
def branchRests : List (List Exclude) → List UInt8 → List (List UInt8)
  | [], _ => []
  | b :: more, s =>
    if branchHasText b then restsAll b s ++ branchRests more s else branchRests more s

end

/-! ## Names and extensions -/

/-- The characters of tokens that are all literals. -/
def literalText : List Exclude → Option (List Char)
  | [] => some []
  | .literal c :: more => (literalText more).map (c :: ·)
  | _ :: _ => none

/-- Whether tokens end in a dot and literals after it that are neither slash nor dot. -/
def endsInExtension (tokens : List Exclude) : Bool := go tokens.reverse
where
  go : List Exclude → Bool
    | .literal c :: more => if c = '/' then false else if c = '.' then true else go more
    | _ => false

/-- Whether tokens are two stars and a name. -/
def isName : List Exclude → Bool
  | .recursivePrefix :: more =>
    match literalText more with
    | some [] => false
    | some cs => !cs.contains '/'
    | none => false
  | _ => false

/-- Whether tokens are a star, perhaps after two stars, and an extension. -/
def isExtension (tokens : List Exclude) : Bool :=
  let body := match tokens with
    | .recursivePrefix :: more => more
    | more => more
  match body with
  | .many :: .literal '.' :: more =>
    match literalText more with
    | some cs => !cs.contains '/' && !cs.contains '.'
    | none => false
  | _ => false

/-- Whether a match is settled by how the path begins or ends. -/
def isAffix (tokens : List Exclude) : Bool :=
  let front := match tokens.getLast? with
    | some .many => tokens.dropLast
    | some .recursiveSuffix => tokens.dropLast
    | _ => tokens
  let isPrefixed := tokens.getLast?.isSome &&
    match literalText front with
    | some cs => !cs.isEmpty || (match tokens.getLast? with
      | some .recursiveSuffix => true
      | _ => false)
    | none => false
  let (back, isComponent) := match tokens with
    | .recursivePrefix :: .many :: more => (more, false)
    | .recursivePrefix :: more => (more, true)
    | .many :: more => (more, false)
    | more => (more, false)
  let isSuffixed := tokens.head?.isSome &&
    match literalText back with
    | some cs => !cs.isEmpty && (isComponent || cs != ['/'])
    | none => false
  isPrefixed || isSuffixed

/-- Whether a match is looked for by the file name or the extension of a path: `isName` or
`isExtension` holds. -/
def needsFileName (tokens : List Exclude) : Bool :=
  isName tokens || isExtension tokens || (!isAffix tokens && endsInExtension tokens)

/-- Whether the last component of `path` is a name, which `..` is not. -/
def hasFileName (path : String) : Bool :=
  (Path.splitSlash path.toList).getLast? != some ['.', '.']

/-- Whether `path` matches `tokens`. A pattern that `needsFileName` matches no path that has none.
-/
def accepts (tokens : List Exclude) (path : String) : Bool :=
  if needsFileName tokens ∧ hasFileName path = false then false
  else
    match tokens with
    | [.recursivePrefix] => true
    | _ => (restsAll tokens path.toUTF8.toList).any (·.isEmpty)

end Exclude

end BuildGate.Glob
