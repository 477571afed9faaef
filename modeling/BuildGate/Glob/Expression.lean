import BuildGate.Glob.Exclude
import BuildGate.Pattern.Size

/-!
# Patterns that take files away as expressions

A pattern that is not settled by a name, an extension or by how a path begins or ends is compiled to
an expression on bytes. One that ends in an extension is compiled by itself, the others as one set.
`Exclude.text`, `Exclude.depths` and `Exclude.shapes` are what a token contributes to the text of the
expression, to how deep it nests and to its automata.
-/
namespace BuildGate.Glob.Exclude

open Pattern (Shape ByteRange)

/-- Whether a pattern is compiled to an expression: no name, no extension and no end of the path
settles a match. -/
def needsExpression (tokens : List Exclude) : Bool :=
  !isName tokens && !isExtension tokens && !isAffix tokens

/-! ## The text -/

/-- The characters that stand for themselves in an expression only behind a backslash. -/
def metaChars : List Char :=
  ['\\', '.', '+', '*', '?', '(', ')', '|', '[', ']', '\x7b', '\x7d', '^', '$', '#', '&', '-', '~']

def hexDigit (n : Nat) : Char := Char.ofNat (if n < 10 then 0x30 + n else 0x57 + n)

/-- A byte as it is written in an expression. -/
def escapeByte (b : UInt8) : List Char :=
  let n := b.toNat
  if n < 0x80 then
    let c := Char.ofNat n
    if metaChars.contains c then ['\\', c] else [c]
  else ['\\', 'x', hexDigit (n / 16), hexDigit (n % 16)]

def escapeChar (c : Char) : List Char := (bytesOf c).flatMap escapeByte

def escapeRange (r : Char × Char) : List Char :=
  if r.1 = r.2 then escapeChar r.1 else escapeChar r.1 ++ '-' :: escapeChar r.2

mutual

/-- What a token is written as in an expression. Braces with nothing in them are not written. -/
def text : Exclude → List Char
  | .literal c => escapeChar c
  | .any => ['.']
  | .many => ['.', '*']
  | .recursivePrefix => "(?:/?|.*/)".toList
  | .recursiveSuffix => "/.*".toList
  | .recursiveInner => "(?:/|/.*/)".toList
  | .cls negated ranges =>
    '[' :: (if negated then ['^'] else []) ++ ranges.flatMap escapeRange ++ [']']
  | .alternates branches =>
    if anyHasText branches then "(?:".toList ++ ['|'].intercalate (branchTexts branches) ++ [')']
    else []

def textOfAll : List Exclude → List Char
  | [] => []
  | t :: more => text t ++ textOfAll more

def branchTexts : List (List Exclude) → List (List Char)
  | [] => []
  | b :: more => if branchHasText b then textOfAll b :: branchTexts more else branchTexts more

end

/-- The expression that `tokens` are compiled to. -/
def expressionText (tokens : List Exclude) : String :=
  let body := match tokens with
    | [.recursivePrefix] => text .many
    | _ => textOfAll tokens
  "(?-u)^" ++ String.ofList body ++ "$"

/-! ## The depth -/

/-- How deep nodes nest that stand one after the other or side by side. -/
def depthOfAll : List Nat → Nat
  | [] => 0
  | [d] => d
  | ds => ds.foldl max 0 + 1

mutual

/-- How deep each of the nodes nests that a token is written as. -/
def depths : Exclude → List Nat
  | .literal c => (bytesOf c).map fun _ => 0
  | .any => [0]
  | .many => [1]
  | .recursivePrefix => [4]
  | .recursiveSuffix => [0, 1]
  | .recursiveInner => [4]
  | .cls _ ranges =>
    let items := ranges.map fun r =>
      if r.1 = r.2 then (bytesOf r.1).length
      else (bytesOf r.1).length + (bytesOf r.2).length - 1
    [if items.foldl (· + ·) 0 < 2 then 1 else 2]
  | .alternates branches =>
    if anyHasText branches then [depthOfAll (branchDepths branches) + 1] else []

def depthsOfAll : List Exclude → List Nat
  | [] => []
  | t :: more => depths t ++ depthsOfAll more

def branchDepths : List (List Exclude) → List Nat
  | [] => []
  | b :: more =>
    if branchHasText b then depthOfAll (depthsOfAll b) :: branchDepths more else branchDepths more

end

/-- Whether the expression of `tokens` nests deeper than `nestLimit`. Its flags and its two ends are
nodes beside those of the tokens. -/
def nestsTooDeep (tokens : List Exclude) : Bool :=
  let body := match tokens with
    | [.recursivePrefix] => depths .many
    | _ => depthsOfAll tokens
  Pattern.nestLimit < depthOfAll (0 :: 0 :: body ++ [0])

/-! ## The shape -/

def bytesText (bytes : List UInt8) : Shape := .text (bytes.map UInt8.toNat)

def slashText : Shape := .text [0x2F]

def anyByte : Shape := .bytes [(0, 255)]

def anyBytes : Shape := .repOf 0 none true anyByte

/-- The bytes of a range of a class: those between the last one of its lower end and the first one of
its upper end, and the other bytes of both ends. -/
def rangeBytes (r : Char × Char) : List ByteRange :=
  let single (b : UInt8) : ByteRange := (b.toNat, b.toNat)
  let los := bytesOf r.1
  if r.1 = r.2 then los.map single
  else
    let his := bytesOf r.2
    los.dropLast.map single ++ ((los.getLastD 0).toNat, (his.headD 0).toNat) :: his.tail.map single

/-- The bytes outside of some intervals. -/
def otherBytes (rs : List ByteRange) : List ByteRange :=
  (Charset.gaps 0 rs).filterMap fun (lo, hi) => if lo ≤ 255 then some (lo, min hi 255) else none

def classShape (negated : Bool) (ranges : List (Char × Char)) : Shape :=
  let bytes := (Charset.ofRanges (ranges.flatMap rangeBytes)).ranges
  .ofBytes (if negated then otherBytes bytes else bytes)

mutual

/-- The shapes that a token stands for, one after the other. -/
def shapes : Exclude → List Shape
  | .literal c => [bytesText (bytesOf c)]
  | .any => [anyByte]
  | .many => [anyBytes]
  | .recursivePrefix =>
    [.altOf [.repOf 0 (some 1) true slashText, .seqOf [anyBytes, slashText]]]
  | .recursiveSuffix => [slashText, anyBytes]
  | .recursiveInner => [.altOf [slashText, .seqOf [slashText, anyBytes, slashText]]]
  | .cls negated ranges => [classShape negated ranges]
  | .alternates branches =>
    if anyHasText branches then [.altOf (branchShapes branches)] else []

def shapesOfAll : List Exclude → List Shape
  | [] => []
  | t :: more => shapes t ++ shapesOfAll more

def branchShapes : List (List Exclude) → List Shape
  | [] => []
  | b :: more =>
    if branchHasText b then .seqOf (shapesOfAll b) :: branchShapes more else branchShapes more

end

/-- The shape of the expression for `tokens`, which begins and ends where the path does. -/
def shape (tokens : List Exclude) : Shape :=
  let body := match tokens with
    | [.recursivePrefix] => shapes .many
    | _ => shapesOfAll tokens
  .seqOf (.look .textStart :: body ++ [.look .textEnd])

/-! ## Compiling -/

/-- The first fault of expressions that are compiled together: one that `nestsTooDeep`, or that they
`areTooBig`. -/
def expressionFault? (patterns : List (List Exclude)) : Option ExpressionFault :=
  match patterns.findIdx? nestsTooDeep with
  | some i => some (.tooDeep i)
  | none => if Pattern.areTooBig (patterns.map shape) then some .tooBig else none

/-- The last extension that a pattern ends in, which patterns are grouped by. -/
def extensionOf (tokens : List Exclude) : List Char :=
  (tokens.reverse.takeWhile fun
    | .literal c => c ≠ '.'
    | _ => false).filterMap fun
      | .literal c => some c
      | _ => none

/-- The patterns grouped by the extension they end in. A group stands where its first pattern does.
-/
def byExtension (patterns : List (List Exclude)) : List (List Exclude) :=
  ((patterns.map extensionOf).eraseDups).flatMap fun e => patterns.filter (extensionOf · == e)

/-- The first fault of a set of patterns. Of those that need an expression each that ends in an
extension is compiled by itself, group by group, and the others are compiled together. -/
def setFault? (patterns : List (List Exclude)) : Option Reason :=
  let (alone, together) := (patterns.filter needsExpression).partition endsInExtension
  ((byExtension alone).findSome? fun p =>
    (expressionFault? [p]).map (.expression (some (expressionText p)))).or
    ((expressionFault? together).map (.expression none))

end BuildGate.Glob.Exclude
