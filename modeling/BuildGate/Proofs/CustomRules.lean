import BuildGate.Gate.Command
import BuildGate.Proofs.ScanLines

/-!
# A project's own rules

The rules that a project declares come behind the built-in ones and are applied one by one, so what a
scan finds is what the built-in rules find and then what each declared rule finds alone. A rule whose
pattern does not compile keeps the whole list from being applied: a style scan ends at the first one,
before it looks at a file.

**Results.**
* `Rule.compileAll_eq_ok_iff`, `Rule.compileAll_eq_error_iff`: a list of declared rules, rule by rule.
* `Pipeline.styleScan_refused`: a scan with a rule that does not compile leaves everything as it is.
* `Gate.Context.rules_applied`, `Gate.Context.rules_refused`: what the command that lists rules writes.
* `customRules_behind`: what a list of declared rules comes to.
-/
namespace BuildGate

open FileTree (bind_eq_ok)
open StyleCheck (Readable allFindings)

/-- The `pattern` of `s` compiles. -/
def RuleSource.Compiles (s : RuleSource) : Prop := ∃ p, Pattern.compile s.pattern = .ok p

/-! ## Compiling -/

namespace Rule

variable {s : RuleSource} {sources : List RuleSource} {e : Failure}

theorem exists_compile_iff : (∃ r, compile s = .ok r) ↔ s.Compiles := by
  unfold compile RuleSource.Compiles
  cases Pattern.compile s.pattern <;> simp

theorem compile_eq_error_iff : compile s = .error e ↔
    ∃ reason, Pattern.compile s.pattern = .error reason ∧ e = .invalidRule s.pattern reason := by
  unfold compile
  cases Pattern.compile s.pattern <;> simp [eq_comm]

theorem compileAll_eq_ok_iff {rules : List Rule} :
    compileAll sources = .ok rules ↔ List.Forall₂ (fun s r => compile s = .ok r) sources rules := by
  induction sources generalizing rules with
  | nil => simp [compileAll, eq_comm]
  | cons s rest ih =>
    rw [compileAll, List.forall₂_cons_left_iff]
    constructor
    · intro h
      obtain ⟨r, hr, h⟩ := bind_eq_ok.1 h
      obtain ⟨rs, hrs, h⟩ := bind_eq_ok.1 h
      cases h
      exact ⟨r, rs, hr, ih.1 hrs, rfl⟩
    · rintro ⟨r, rs, hr, hrs, rfl⟩
      exact bind_eq_ok.2 ⟨r, hr, bind_eq_ok.2 ⟨rs, ih.2 hrs, rfl⟩⟩

/-- The failure of a list is that of the first rule that does not compile. -/
theorem compileAll_eq_error_iff : compileAll sources = .error e ↔
    ∃ front s back, sources = front ++ s :: back ∧ (∀ x ∈ front, x.Compiles) ∧
      compile s = .error e := by
  induction sources with
  | nil => simp [compileAll]
  | cons s rest ih =>
    cases hs : compile s with
    | error e' =>
      have hall : compileAll (s :: rest) = .error e' := by
        rw [compileAll, hs]
        rfl
      rw [hall]
      constructor
      · rintro ⟨⟩
        exact ⟨[], s, rest, rfl, by simp, hs⟩
      · rintro ⟨front, s', back, hsplit, hfront, he⟩
        cases front with
        | nil =>
          cases hsplit
          rw [hs] at he
          cases he
          rfl
        | cons x front =>
          cases hsplit
          obtain ⟨r, hr⟩ := exists_compile_iff.2 (hfront _ List.mem_cons_self)
          rw [hs] at hr
          cases hr
    | ok r =>
      have hall : compileAll (s :: rest) = .error e ↔ compileAll rest = .error e := by
        rw [compileAll, hs]
        change ((compileAll rest).bind fun rs => .ok (r :: rs)) = _ ↔ _
        cases compileAll rest <;> simp [Except.bind]
      rw [hall, ih]
      constructor
      · rintro ⟨front, s', back, rfl, hfront, he⟩
        exact ⟨s :: front, s', back, rfl,
          List.forall_mem_cons.2 ⟨exists_compile_iff.1 ⟨r, hs⟩, hfront⟩, he⟩
      · rintro ⟨front, s', back, hsplit, hfront, he⟩
        cases front with
        | nil =>
          cases hsplit
          rw [hs] at he
          cases he
        | cons x front =>
          cases hsplit
          exact ⟨front, s', back, rfl, (List.forall_mem_cons.1 hfront).2, he⟩

theorem source_of_compile {r : Rule} (h : compile s = .ok r) : r.source = s := by
  unfold compile at h
  split at h
  · cases h
    rfl
  · cases h

/-- Rules that compile are what their declared forms compile to. -/
theorem compile_source {rules : List Rule} (h : compileAll sources = .ok rules) :
    ∀ r ∈ rules, compile r.source = .ok r := by
  intro r hr
  obtain ⟨i, hi, rfl⟩ := List.getElem_of_mem hr
  have hall := compileAll_eq_ok_iff.1 h
  have hcompile := hall.get (hall.length_eq.symm ▸ hi) hi
  simp only [List.get_eq_getElem] at hcompile
  rw [source_of_compile hcompile, hcompile]

theorem exists_compile_of_mem {rules : List Rule}
    (h : List.Forall₂ (fun s r => compile s = .ok r) sources rules) (hs : s ∈ sources) :
    ∃ r, compile s = .ok r := by
  obtain ⟨i, hi, rfl⟩ := List.getElem_of_mem hs
  exact ⟨_, h.get hi (h.length_eq ▸ hi)⟩

end Rule

namespace Registry

variable {sources : List RuleSource} {g : Registry} {e : Failure}

theorem withCustom_eq (sources : List RuleSource) :
    withCustom sources = (Rule.compileAll sources).map fun rules => { custom := rules } := by
  unfold withCustom
  cases Rule.compileAll sources <;> rfl

theorem withCustom_eq_ok_iff : withCustom sources = .ok g ↔
    ∃ rules, Rule.compileAll sources = .ok rules ∧ g = { custom := rules } := by
  rw [withCustom_eq]
  cases Rule.compileAll sources <;> simp [Except.map, eq_comm]

theorem withCustom_eq_error_iff :
    withCustom sources = .error e ↔ Rule.compileAll sources = .error e := by
  rw [withCustom_eq]
  cases Rule.compileAll sources <;> simp [Except.map]

/-- There is no registry exactly if a rule does not compile. -/
theorem withCustom_fails_iff :
    (∃ e, withCustom sources = .error e) ↔ ∃ s ∈ sources, ¬ s.Compiles := by
  simp only [withCustom_eq_error_iff]
  constructor
  · rintro ⟨e, he⟩
    obtain ⟨front, s, back, rfl, -, hs⟩ := Rule.compileAll_eq_error_iff.1 he
    refine ⟨s, by simp, fun hcompiles => ?_⟩
    obtain ⟨r, hr⟩ := Rule.exists_compile_iff.2 hcompiles
    rw [hs] at hr
    cases hr
  · rintro ⟨s, hs, hno⟩
    cases hall : Rule.compileAll sources with
    | error e => exact ⟨e, rfl⟩
    | ok rules =>
      have hr := Rule.exists_compile_of_mem (Rule.compileAll_eq_ok_iff.1 hall) hs
      exact absurd (Rule.exists_compile_iff.1 hr) hno

/-- The list of rules names every rule that applies, and says which are built in. -/
theorem describe_eq (g : Registry) : g.describe =
    (g.builtin.map fun r => ⟨r.source.pattern, r.source.message, true⟩) ++
      g.custom.map fun r => ⟨r.source.pattern, r.source.message, false⟩ := rfl

theorem source_describe (g : Registry) :
    g.describe.map (fun i => (⟨i.pattern, i.message⟩ : RuleSource)) = g.rules.map Rule.source := by
  simp only [describe_eq, rules, List.map_append, List.map_map]
  rfl

theorem builtin_describe (g : Registry) : g.describe.map RuleInfo.builtin =
    List.replicate g.builtin.length true ++ List.replicate g.custom.length false := by
  simp only [describe_eq, List.map_append, List.map_map, Function.comp_def, List.map_const']

end Registry

theorem compileAll_builtins : Rule.compileAll Rule.builtinSources = .ok builtinRules := by
  have hsome := compile_builtins
  cases h : Rule.compileAll Rule.builtinSources with
  | error e =>
    rw [h] at hsome
    cases hsome
  | ok rules =>
    rw [h] at hsome
    cases hsome
    rfl

/-- What rules find in a text is what each finds alone, one after the other. -/
theorem scan_flatMap (text : String) (rules : List Rule) (mode : ScanMode) :
    scan text rules mode = rules.flatMap fun r => scan text [r] mode := by
  simp [scan]

/-! ## Scanning -/

namespace Pipeline

variable {p : Pipeline} {e : Failure} {g : Registry}

/-- A scan with a rule that does not compile ends at once, and leaves the world as it was. -/
theorem styleScan_refused (h : Registry.withCustom p.settings.style.rules = .error e)
    (files : List String) (w : World) : p.styleScan files w = (.error e, w) := by
  rw [styleScan_eq, inStage, registry]
  unfold Step.inSpan
  rw [Step.bind_error (Step.ofExcept_bind_error h _ _)]

/-- A scan with rules that compile reports what all of them find, file by file, as far as it comes. -/
theorem styleScan_applied (h : Registry.withCustom p.settings.style.rules = .ok g)
    {files targets : List String} {w : World} (ht : p.scanTargets w.tree files = .ok targets) :
    ∃ read, read <+: targets ∧ ((∀ f ∈ targets, Readable w.tree p.root f) → read = targets) ∧
      (p.styleScan files w).2.reported = w.reported ++
        allFindings w.tree p.root g.rules p.settings.style.mode read := by
  obtain ⟨r, fs, hend⟩ := p.exists_scanEnd w.tree files
  rw [(hend.runs rfl).leaves.reported]
  cases hend with
  | badRule hg =>
    rw [h] at hg
    cases hg
  | badPattern hg ht' =>
    rw [ht] at ht'
    cases ht'
  | unreadable hg ht' hb hf =>
    rw [h] at hg
    rw [ht] at ht'
    cases hg
    cases ht'
    refine ⟨_, List.prefix_append _ _, fun hread => ?_, rfl⟩
    obtain ⟨text, htext⟩ := hread _ (List.mem_append_right _ List.mem_cons_self)
    rw [hf] at htext
    cases htext
  | found hg ht' hread hsome =>
    rw [h] at hg
    rw [ht] at ht'
    cases hg
    cases ht'
    exact ⟨_, List.prefix_rfl, fun _ => rfl, rfl⟩
  | clean hg ht' hread hnone =>
    rw [h] at hg
    rw [ht] at ht'
    cases hg
    cases ht'
    exact ⟨_, List.prefix_rfl, fun _ => rfl, congrArg (w.reported ++ ·) hnone.symm⟩

end Pipeline

/-! ## Listing -/

namespace Gate.Context

variable {c : Context} {e : Failure} {g : Registry}

theorem rules_refused (h : Registry.withCustom c.settings.style.rules = .error e) (w : World) :
    c.rules w = (.error e, w) := by
  unfold rules asCommand Step.inSpan Pipeline.registry
  rw [Step.bind_error (Step.ofExcept_bind_error h _ _)]

/-- The lines that `Context.rules` writes for `rules`. -/
def listing (json : Bool) (rules : List RuleInfo) : List String :=
  if json then [Data.Json.pretty (.list () (rules.map ruleData))] else ruleLines rules

theorem print_run (lines : List String) (w : World) :
    print lines w = (.ok (), { w with trace := w.trace ++ lines.map .printed }) := by
  induction lines generalizing w with
  | nil => simp [print]
  | cons line rest ih =>
    change (Step.emit (.printed line) >>= fun _ => print rest) w = _
    have hfirst : Step.emit (.printed line) w =
        (.ok (), { w with trace := w.trace ++ [.printed line] }) := rfl
    rw [Step.bind_ok hfirst, ih]
    simp

theorem printed_print (lines : List String) (w : World) :
    (print lines w).2.printed = w.printed ++ lines := by
  have hlines : (lines.map Event.printed).filterMap Event.line? = lines := by
    rw [List.filterMap_map]
    exact List.filterMap_some
  rw [print_run, World.printed, List.filterMap_append, hlines, World.printed]

theorem registry_adds (sources : List RuleSource) :
    (Pipeline.registry sources).Adds Event.IsQuiet := by
  refine (Step.adds_ofExcept _).bind fun g => ?_
  exact (Step.adds_log (fun _ => trivial) _ _ _ _).bind fun _ => Step.adds_ofExcept (.ok g)

theorem rules_applied (h : Registry.withCustom c.settings.style.rules = .ok g) (w : World) :
    (c.rules w).1 = .ok () ∧ (c.rules w).2.printed = w.printed ++ listing c.json g.describe := by
  have hregistry : ∀ v, ∃ u, Pipeline.registry c.settings.style.rules v = (.ok g, u) ∧
      u.printed = v.printed := fun v =>
    ⟨_, Prod.ext ((Pipeline.registry_runs _ v).result.trans h) rfl, (registry_adds _).printed v⟩
  have hlog : ∀ u fields, ∃ u', Step.log .debug (.command "rules") "executing rules command"
      fields u = (.ok (), u') ∧ u'.printed = u.printed := fun u fields =>
    ⟨_, rfl, Step.Adds.printed (Step.adds_log (fun _ => trivial) .debug _ _ fields) u⟩
  unfold rules asCommand Step.inSpan
  generalize hv : { w with spans := _ } = v
  have hprinted : v.printed = w.printed := by rw [← hv]; rfl
  obtain ⟨u, hu, hsame⟩ := hregistry v
  rw [Step.bind_ok hu]
  obtain ⟨u', hu', hsame'⟩ := hlog u [("count", toString g.describe.length)]
  rw [Step.bind_ok hu', ← listing, ← hprinted, ← hsame, ← hsame', ← printed_print, print_run]
  exact ⟨rfl, rfl⟩

end Gate.Context

/-! ## All of it -/

/-- What `Registry.withCustom sources` comes to: `fails_iff`, `first` and `refused` if a rule does
not compile, and the other fields if all do. -/
structure CustomRules (sources : List RuleSource) : Prop where
  /-- The rules are refused exactly if one of them does not compile, -/
  fails_iff : (∃ e, Registry.withCustom sources = .error e) ↔ ∃ s ∈ sources, ¬ s.Compiles
  /-- and the failure names the first one that does not. -/
  first : ∀ e, Registry.withCustom sources = .error e → ∃ front s back reason,
    sources = front ++ s :: back ∧ (∀ x ∈ front, x.Compiles) ∧
      Pattern.compile s.pattern = .error reason ∧ e = .invalidRule s.pattern reason
  /-- A scan ends in that failure whatever the tree and the files are. It expands, reads, reports and
  logs nothing: the world is as it was. -/
  refused : ∀ e, Registry.withCustom sources = .error e → ∀ p : Pipeline,
    p.settings.style.rules = sources → ∀ files w, p.styleScan files w = (.error e, w)
  /-- What the rules find is what the built-in ones find, and then what each declared one finds
  alone. -/
  scans : ∀ g, Registry.withCustom sources = .ok g → ∃ rules : List Rule,
    List.Forall₂ (fun s r => Rule.compile s = .ok r) sources rules ∧
      ∀ text mode, scan text g.rules mode =
        scan text builtinRules mode ++ rules.flatMap fun r => scan text [r] mode
  /-- The rules of a registry are those that a scan applies to the files it comes to, -/
  applied : ∀ g, Registry.withCustom sources = .ok g → ∀ p : Pipeline,
    p.settings.style.rules = sources → ∀ files targets w,
    p.scanTargets w.tree files = .ok targets → ∃ read, read <+: targets ∧
      ((∀ f ∈ targets, Readable w.tree p.root f) → read = targets) ∧
      (p.styleScan files w).2.reported = w.reported ++
        allFindings w.tree p.root g.rules p.settings.style.mode read
  /-- each is what its declared form compiles to, -/
  compiled : ∀ g, Registry.withCustom sources = .ok g → ∀ r ∈ g.rules, Rule.compile r.source = .ok r
  /-- and they are listed in their order by their patterns and messages, the declared ones as they
  were declared. -/
  described : ∀ g, Registry.withCustom sources = .ok g →
    g.describe.map (fun i => (⟨i.pattern, i.message⟩ : RuleSource)) = g.rules.map Rule.source ∧
      g.rules.map Rule.source = builtinRules.map Rule.source ++ sources
  /-- The built-in ones come first, and no others are marked so. -/
  marked : ∀ g, Registry.withCustom sources = .ok g → g.describe.map RuleInfo.builtin =
    List.replicate builtinRules.length true ++ List.replicate sources.length false
  /-- The command that lists rules writes that list, or fails as a scan does and writes nothing. -/
  listed : ∀ c : Gate.Context, c.settings.style.rules = sources → ∀ w,
    (∀ g, Registry.withCustom sources = .ok g → (c.rules w).1 = .ok () ∧
      (c.rules w).2.printed = w.printed ++ Gate.Context.listing c.json g.describe) ∧
    ∀ e, Registry.withCustom sources = .error e → c.rules w = (.error e, w)

/-- Declared rules are refused as a whole or applied one by one behind `builtinRules`, which find
what they find without them. -/
theorem customRules_behind (sources : List RuleSource) : CustomRules sources where
  fails_iff := Registry.withCustom_fails_iff
  first := by
    intro e h
    obtain ⟨front, s, back, hsplit, hfront, hs⟩ :=
      Rule.compileAll_eq_error_iff.1 (Registry.withCustom_eq_error_iff.1 h)
    obtain ⟨reason, hreason, he⟩ := Rule.compile_eq_error_iff.1 hs
    exact ⟨front, s, back, reason, hsplit, hfront, hreason, he⟩
  refused := by
    rintro e h p rfl files w
    exact Pipeline.styleScan_refused h files w
  scans := by
    intro g h
    obtain ⟨rules, hrules, rfl⟩ := Registry.withCustom_eq_ok_iff.1 h
    refine ⟨rules, Rule.compileAll_eq_ok_iff.1 hrules, fun text mode => ?_⟩
    rw [Registry.rules, scan_append, scan_flatMap text rules]
  applied := by
    rintro g h p rfl files targets w ht
    exact Pipeline.styleScan_applied h ht
  compiled := by
    intro g h
    obtain ⟨rules, hrules, rfl⟩ := Registry.withCustom_eq_ok_iff.1 h
    exact List.forall_mem_append.2
      ⟨Rule.compile_source compileAll_builtins, Rule.compile_source hrules⟩
  described := by
    intro g h
    exact ⟨g.source_describe, Registry.source_of_withCustom h⟩
  marked := by
    intro g h
    obtain ⟨rules, hrules, rfl⟩ := Registry.withCustom_eq_ok_iff.1 h
    have hlength := (Rule.compileAll_eq_ok_iff.1 hrules).length_eq
    rw [Registry.builtin_describe, hlength]
  listed := by
    rintro c rfl w
    exact ⟨fun g h => Gate.Context.rules_applied h w, fun e h => Gate.Context.rules_refused h w⟩

end BuildGate
