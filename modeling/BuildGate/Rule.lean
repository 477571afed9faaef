import BuildGate.Failure
import BuildGate.Pattern.Compile

/-!
# Style rules

A rule is a pattern that finds one defect of style and the message to report for it. The built-in
rules check the blanks after the tags of doc comments; a project's own rules come after them, in the
order it declares them.

**Results.**
* `compile_builtins`: the built-in rules are what their declared forms compile to.
-/
namespace BuildGate

/-- A rule as it is declared. -/
structure RuleSource where
  pattern : String
  message : String
  deriving Repr, DecidableEq

/-- A rule that can be applied. -/
structure Rule where
  source : RuleSource
  pattern : Pattern
  deriving Repr, DecidableEq

namespace Rule

def message (r : Rule) : String := r.source.message

/-- Compiles `source.pattern`. -/
def compile (source : RuleSource) : Except Failure Rule :=
  match Pattern.compile source.pattern with
  | .ok pattern => .ok { source, pattern }
  | .error reason => .error (.invalidRule source.pattern reason)

/-- Compiles declared rules up to the first one that fails. -/
def compileAll : List RuleSource → Except Failure (List Rule)
  | [] => .ok []
  | s :: rest => do
    let r ← compile s
    let rs ← compileAll rest
    return r :: rs

/-- The declared form of the built-in rules, in the order they are applied. -/
def builtinSources : List RuleSource :=
  [ ⟨"@param (\\S|\\s\\s)", "@param should be followed by 2 spaces"⟩,
    ⟨"@return \\s", "@return should be followed by 1 space"⟩,
    ⟨"@returns", "Use @return instead of @returns"⟩,
    ⟨"@throws \\s", "@throws should be followed by 1 space"⟩ ]

/-- The text `tag`, and then one character that is blank. -/
def tagThenBlank (tag : String) : Pattern :=
  tag.toList.foldr (fun c p => .seq (.set (.singleton c)) p) (.set Unicode.blanks)

/-- The patterns of `builtinSources`, compiled. -/
def builtinPatterns : List Pattern :=
  [ "@param ".toList.foldr (fun c p => .seq (.set (.singleton c)) p)
      (.group (.alt (.set Unicode.blanks.compl)
        (.seq (.set Unicode.blanks) (.set Unicode.blanks)))),
    tagThenBlank "@return ",
    .ofText "@returns".toList,
    tagThenBlank "@throws " ]

end Rule

/-- The built-in rules. -/
def builtinRules : List Rule :=
  (Rule.builtinSources.zip Rule.builtinPatterns).map fun (source, pattern) => { source, pattern }

theorem compile_builtins : (Rule.compileAll Rule.builtinSources).toOption = some builtinRules := by
  decide +kernel

/-- A rule as it is listed. -/
structure RuleInfo where
  pattern : String
  message : String
  builtin : Bool
  deriving Repr, DecidableEq

/-- Rules in the order they are applied: `builtinRules`, then the project's own. -/
structure Registry where
  builtin : List Rule := builtinRules
  custom : List Rule := []
  deriving Repr

namespace Registry

/-- `builtinRules` and `sources`, or the first of these that does not compile. -/
def withCustom (sources : List RuleSource) : Except Failure Registry := do
  return { custom := ← Rule.compileAll sources }

def rules (g : Registry) : List Rule := g.builtin ++ g.custom

/-- Every rule as it is listed. -/
def describe (g : Registry) : List RuleInfo :=
  let info (builtin : Bool) (r : Rule) : RuleInfo :=
    ⟨r.source.pattern, r.source.message, builtin⟩
  g.builtin.map (info true) ++ g.custom.map (info false)

end Registry

end BuildGate
