import BuildGate.Proofs.LastWins
import BuildGate.Proofs.LineTexts
import BuildGate.Proofs.OneVariable

/-!
# Texts set by variables

Eleven values of the settings are texts, and each can be set by a variable. The value of the variable
is a line that is read by its grammar first, so it is the text that is read which is set, and a line
that is no text is refused. Nothing else changes, as long as the sections on the way to the value are
tables: a section that a file gives as a list is replaced as a whole.

**Results.**
* `keysOf_variable`: the variables of the texts.
* `text_overrides`: what a variable makes of settings that are loaded without it.
* `text_overrides_fails`: lines that are not set as they stand, and what is set beside them.
-/
namespace BuildGate.Settings

open Data

/-- A leaf of the settings whose value is a text or may be left empty. -/
structure TextLeaf where
  leaf : Leaf Settings
  text : leaf.Value → Option String

namespace TextLeaf

/-- A leaf whose text is always there. -/
def always (keys : List String) (read : Reader String) (get : Settings → String) : TextLeaf :=
  ⟨⟨keys, read, get⟩, some⟩

/-- A leaf whose text may be left empty. -/
def perhaps (keys : List String) (read : Reader String) (get : Settings → Option String) : TextLeaf :=
  ⟨⟨keys, Reader.optional read, get⟩, id⟩

/-- The leaves of `Settings` that are texts. -/
def all : List TextLeaf :=
  [ perhaps ["log_dir"] Reader.path (·.logDir),
    always ["lint", "program"] Reader.text (·.lint.program),
    always ["test", "program"] Reader.text (·.test.program),
    perhaps ["test", "grep"] Reader.text (·.test.grep),
    always ["coverage", "program"] Reader.text (·.coverage.program),
    always ["coverage", "output_dir"] Reader.path (·.coverage.outputDir),
    always ["coverage", "report"] Reader.text (·.coverage.report),
    always ["coverage", "upload_report"] Reader.text (·.coverage.uploadReport),
    always ["coverage", "html_report"] Reader.path (·.coverage.htmlReport),
    always ["coverage", "lcov_file"] Reader.path (·.coverage.lcovFile),
    always ["coverage", "upload", "program"] Reader.text (·.coverage.upload.program) ]

/-- The variable that sets `f`: the keys of its leaf in capitals, with two underscores between them.
-/
def variableName (f : TextLeaf) : String :=
  let keys := f.leaf.keys.map fun k => k.toList.map Char.toUpper
  "STYLEGATE_" ++ String.ofList ("__".toList.intercalate keys)

theorem mem_leaves : ∀ f ∈ all, f.leaf ∈ leaves := by
  simp only [all, List.forall_mem_cons, List.not_mem_nil, false_implies, implies_true, and_true]
  simp [leaves, always, perhaps]

theorem keysOf_variable : ∀ f ∈ all, keysOf f.variableName = some f.leaf.keys := by
  decide +kernel

theorem textOr_toOption (expected : String) (d : Datum Origin) :
    (Reader.textOr expected d).toOption = d.text? := by
  cases d with
  | scalar o v => cases v <;> rfl
  | list => rfl
  | table => rfl

/-- Whether a value is the text that stands in data which does not say that nothing is there. -/
def Reads (f : TextLeaf) : Prop := ∀ d : Datum Origin, (∀ o, d ≠ .scalar o .null) →
  (f.leaf.read d).toOption.map f.text = d.text?.map some

theorem always_reads (keys : List String) (expected : String) (get : Settings → String) :
    (always keys (Reader.textOr expected) get).Reads := by
  intro d _
  change (Reader.textOr expected d).toOption.map some = _
  rw [textOr_toOption]

theorem perhaps_reads (keys : List String) (expected : String) (get : Settings → Option String) :
    (perhaps keys (Reader.textOr expected) get).Reads := by
  intro d hd
  change (Reader.optional (Reader.textOr expected) d).toOption.map id = _
  rw [← textOr_toOption expected]
  unfold Reader.optional
  split
  · exact absurd rfl (hd _)
  · cases Reader.textOr expected d <;> rfl

theorem reads_all : ∀ f ∈ all, f.Reads := by
  simp only [all, List.forall_mem_cons, List.not_mem_nil, false_implies, implies_true, and_true]
  exact ⟨perhaps_reads _ _ _, always_reads _ _ _, always_reads _ _ _, perhaps_reads _ _ _,
    always_reads _ _ _, always_reads _ _ _, always_reads _ _ _, always_reads _ _ _,
    always_reads _ _ _, always_reads _ _ _, always_reads _ _ _⟩

theorem Reads.exists_value {f : TextLeaf} (h : f.Reads) {d : Datum Origin}
    (hd : ∀ o, d ≠ .scalar o .null) {x : String} (hx : d.text? = some x) :
    ∃ a, f.leaf.read d = .ok a ∧ f.text a = some x := by
  have hread := h d hd
  rw [hx] at hread
  cases hvalue : f.leaf.read d with
  | error e =>
    rw [hvalue] at hread
    cases hread
  | ok a =>
    rw [hvalue] at hread
    exact ⟨a, rfl, Option.some.inj hread⟩

theorem Reads.exists_text {f : TextLeaf} (h : f.Reads) {d : Datum Origin}
    (hd : ∀ o, d ≠ .scalar o .null) {a : f.leaf.Value} (ha : f.leaf.read d = .ok a) :
    ∃ x, d.text? = some x := by
  have hread := h d hd
  rw [ha] at hread
  obtain ⟨x, hx, -⟩ := Option.map_eq_some_iff.1 hread.symm
  exact ⟨x, hx⟩

end TextLeaf

section
variable [Account] (r : Request) (t : FileTree) (front back : List (String × String)) (f : TextLeaf)

/-- With `f.variableName` set to `line`, between `front` and `back`, settings are loaded in which
`f` is the text `x` and every other leaf is as in `s`. -/
def Sets (line x : String) (s : Settings) (src : Sources) : Prop :=
  ∃ s', load r t ⟨front ++ (f.variableName, line) :: back⟩ = .ok (s', src) ∧
    f.text (f.leaf.get s') = some x ∧ ∀ m ∈ leaves, m.keys ≠ f.leaf.keys → m.get s' = m.get s

/-- What `line` for `f` makes of the settings `s` that are loaded without it. -/
structure Overrides (line : String) (s : Settings) (src : Sources) : Prop where
  /-- The text that is read is set, and nothing else changes. -/
  taken : ∀ x, (Inline.read line).text? = some x → Sets r t front back f line x s src
  /-- A line that is read as something else is refused. -/
  refused : (Inline.read line).text? = none →
    ∃ e, load r t ⟨front ++ (f.variableName, line) :: back⟩ = .error e
  /-- It is set as it stands if it does not fit the grammar or is a word. -/
  stands_iff : Sets r t front back f line line s src ↔
    Inline.read? line = none ∨ Inline.IsWord line
  /-- Every text can be set, if it is put in quotes. -/
  quoted : Sets r t front back f (Inline.inQuotes line) line s src

end

/-- What stands for a line that is no text is no text either, and says that something is there. -/
theorem text?_of_stands {v x : Datum Origin} (h : Datum.Stands v x) (hv : v.text? = none)
    (hnull : ∀ o, v ≠ .scalar o .null) : x.text? = none ∧ ∀ o, x ≠ .scalar o .null := by
  obtain rfl | ⟨-, htable⟩ := h
  · exact ⟨hv, hnull⟩
  · cases x with
    | table => exact ⟨rfl, fun o h => by cases h⟩
    | scalar => exact htable.elim
    | list => exact htable.elim

theorem text?_valueOf (name line : String) :
    (valueOf (name, line)).text? = (Inline.read line).text? :=
  Datum.text?_retag _ _

/-- No line is read as nothing. -/
theorem valueOf_ne_null (name line : String) (o : Origin) :
    valueOf (name, line) ≠ .scalar o .null := by
  intro h
  refine Inline.read_ne_null line ?_
  unfold valueOf at h
  cases hline : Inline.read line with
  | scalar _ v =>
    rw [hline] at h
    cases h
    rfl
  | list => rw [hline] at h; cases h
  | table => rw [hline] at h; cases h

theorem not_isTable_of_text? {d : Datum Origin} {x : String} (hx : d.text? = some x) :
    ¬ d.IsTable := by
  cases d with
  | table => cases hx
  | scalar => exact id
  | list => exact id

section
variable [Account] {r : Request} {t : FileTree} {front back : List (String × String)} {f : TextLeaf}
  (hf : f ∈ TextLeaf.all) (hback : Untouched f.leaf.keys back)
  (hleads : (joined r t ⟨front ++ back⟩).Leads f.leaf.keys)
include hf hback hleads

/-- A line that is read as a text sets it. -/
theorem sets_of_text? {s : Settings} {src : Sources}
    (hload : load r t ⟨front ++ back⟩ = .ok (s, src)) {line x : String}
    (hx : (Inline.read line).text? = some x) : Sets r t front back f line x s src := by
  rw [← text?_valueOf f.variableName] at hx
  obtain ⟨a, ha, htext⟩ :=
    (TextLeaf.reads_all f hf).exists_value (valueOf_ne_null f.variableName line) hx
  obtain ⟨s', hs', hget, hothers⟩ := load_oneMore (TextLeaf.mem_leaves f hf)
    (TextLeaf.keysOf_variable f hf) hback hleads (not_isTable_of_text? hx) hload ha
  exact ⟨s', hs', by rw [hget, htext], hothers⟩

/-- Settings are loaded only if the line is read as a text. -/
theorem exists_text?_of_load {line : String} {s : Settings} {src : Sources}
    (hload : load r t ⟨front ++ (f.variableName, line) :: back⟩ = .ok (s, src)) :
    ∃ x, (Inline.read line).text? = some x := by
  cases hline : (Inline.read line).text? with
  | some x => exact ⟨x, rfl⟩
  | none =>
    rw [← text?_valueOf f.variableName] at hline
    obtain ⟨x, hx, hread⟩ := value_of_load (TextLeaf.mem_leaves f hf)
      (TextLeaf.keysOf_variable f hf) hback hleads hload
    obtain ⟨hnone, hthere⟩ := text?_of_stands hx hline (valueOf_ne_null f.variableName line)
    obtain ⟨y, hy⟩ := (TextLeaf.reads_all f hf).exists_text hthere hread
    rw [hnone] at hy
    cases hy

end

/-- A variable sets the text that its `line` is read as and nothing else, and no other line is
taken. -/
theorem text_overrides [Account] {f : TextLeaf} (hf : f ∈ TextLeaf.all) (r : Request) (t : FileTree)
    (front back : List (String × String)) (hback : Untouched f.leaf.keys back)
    (hleads : (joined r t ⟨front ++ back⟩).Leads f.leaf.keys) {s : Settings} {src : Sources}
    (hload : load r t ⟨front ++ back⟩ = .ok (s, src)) (line : String) :
    Overrides r t front back f line s src where
  taken x hx := sets_of_text? hf hback hleads hload hx
  refused := by
    intro hno
    cases h : load r t ⟨front ++ (f.variableName, line) :: back⟩ with
    | error e => exact ⟨e, rfl⟩
    | ok out =>
      obtain ⟨x, hx⟩ := exists_text?_of_load hf hback hleads h
      rw [hno] at hx
      cases hx
  stands_iff := by
    rw [← Inline.text?_read_iff]
    refine ⟨?_, sets_of_text? hf hback hleads hload⟩
    rintro ⟨s', hs', htext, -⟩
    obtain ⟨x, hx⟩ := exists_text?_of_load hf hback hleads hs'
    obtain ⟨s'', hs'', htext', -⟩ := sets_of_text? hf hback hleads hload hx
    rw [hs'] at hs''
    cases hs''
    rw [hx, htext'.symm.trans htext]
  quoted := by
    refine sets_of_text? hf hback hleads hload ?_
    rw [Inline.read_inQuotes]
    rfl

/-- The leaf of `test.grep`. -/
def grepLeaf : TextLeaf := .perhaps ["test", "grep"] Reader.text (·.test.grep)

theorem text_overrides_login :
    grepLeaf ∈ TextLeaf.all ∧ Untouched grepLeaf.leaf.keys [] ∧
      (joined { user := false } {} {}).Leads grepLeaf.leaf.keys ∧
      load { user := false } {} {} = .ok ({}, {}) ∧
      Overrides { user := false } {} [] [] grepLeaf "login" {} {} ∧
      Sets { user := false } {} [] [] grepLeaf "login" "login" {} {} ∧
      Sets { user := false } {} [] [] grepLeaf "\"123\"" "123" {} {} := by
  have hmem : grepLeaf ∈ TextLeaf.all := by simp [TextLeaf.all, grepLeaf]
  have hback : Untouched grepLeaf.leaf.keys [] := by simp [Untouched]
  have hleads : (joined { user := false } {} {}).Leads grepLeaf.leaf.keys :=
    fun d hd => by cases hd
  have hall := text_overrides hmem { user := false } {} [] [] hback hleads load_nothing
  exact ⟨hmem, hback, hleads, load_nothing, hall "login", (hall "login").taken "login" rfl,
    (hall "\"123\"").taken "123" rfl⟩

/-- A file that gives a section as a list. -/
def runnerText : String := "\x7b\"test\":[\"runner\"]\x7d"

theorem read_runnerText : Data.Json.read? runnerText = some (.table ()
    [("test", .list () [Plain.ofText "runner"])]) := by
  cbv

/-- Without a user's file the variables have no say in which files are read. -/
theorem sourcesOf_bothFiles (t : FileTree) (env : Environment) :
    sourcesOf bothFiles t env = { explicitFiles := ["/a.json", "/b.json"] } := rfl

theorem joined_runner (env : Environment) : joined bothFiles (twoFiles upperText runnerText) env =
    .laidOver
      (.table (.file "/b.json" .json) [("log_level", .scalar (.file "/a.json" .json) (.text "warn")),
        ("test", .list (.file "/b.json" .json) [.scalar (.file "/b.json" .json) (.text "runner")])])
      (environmentLayer env) := by
  have hstack : stack bothFiles (twoFiles upperText runnerText) env =
      (stack bothFiles (twoFiles upperText runnerText) {}).dropLast ++ [environmentLayer env] := by
    unfold stack pathsOf
    rw [List.dropLast_concat, sourcesOf_bothFiles, sourcesOf_bothFiles]
  rw [joined, hstack, stack_twoFiles read_upperText read_runnerText]
  rfl

theorem environmentLayer_login : environmentLayer { vars := [("STYLEGATE_TEST__GREP", "login")] } =
    .table .environment [("test", .table .environment
      [("grep", .scalar .environment (.text "login"))])] := by
  have hkeys : keysOf "STYLEGATE_TEST__GREP" = some ["test", "grep"] := by decide +kernel
  have hline : Inline.read "login" = Plain.ofText "login" := rfl
  simp only [environmentLayer, List.foldl_cons, List.foldl_nil, hkeys, hline]
  rfl

/-- Capitals do not matter in the names of variables, so two of them may lead to the same place. -/
theorem environmentLayer_later : environmentLayer
    { vars := [("STYLEGATE_TEST__GREP", "login"), ("stylegate_test__grep", "logout")] } =
    .table .environment [("test", .table .environment
      [("grep", .scalar .environment (.text "logout"))])] := by
  have hkeys : keysOf "stylegate_test__grep" = some ["test", "grep"] := by decide +kernel
  have hline : Inline.read "logout" = Plain.ofText "logout" := rfl
  have hfirst := environmentLayer_login
  simp only [environmentLayer, List.foldl_cons, List.foldl_nil] at hfirst ⊢
  rw [hfirst]
  simp only [hkeys, hline]
  rfl

theorem load_runner (env : Environment) {s : Settings}
    (h : Settings.read (joined bothFiles (twoFiles upperText runnerText) env) = .ok s) :
    load bothFiles (twoFiles upperText runnerText) env =
      .ok (s, { explicitFiles := ["/a.json", "/b.json"] }) := by
  have hreadable := readable_twoFiles read_upperText read_runnerText
  refine (load_eq_ok ?_).2 ⟨h, (sourcesOf_bothFiles _ env).symm⟩
  unfold pathsOf at hreadable ⊢
  rwa [sourcesOf_bothFiles] at hreadable ⊢

/-- A line that is a number is refused; a section that a file gives as a list is lost; and a variable
that leads to the same place and comes later counts. -/
theorem text_overrides_fails :
    (load { user := false } {} {} = .ok ({}, {}) ∧
      ∃ e, load { user := false } {} { vars := [("STYLEGATE_TEST__GREP", "123")] } = .error e) ∧
    (∃ s s' src, load bothFiles (twoFiles upperText runnerText) {} = .ok (s, src) ∧
      load bothFiles (twoFiles upperText runnerText)
        { vars := [("STYLEGATE_TEST__GREP", "login")] } = .ok (s', src) ∧
      s.test.program = "runner" ∧ s'.test.program ≠ "runner") ∧
    load { user := false } {}
      { vars := [("STYLEGATE_TEST__GREP", "login"), ("stylegate_test__grep", "logout")] } =
        .ok ({ test := { grep := some "logout" } }, {}) := by
  have hbefore : Settings.read (joined bothFiles (twoFiles upperText runnerText) {}) =
      .ok { logLevel := .warn, test := { program := "runner" } } := by
    rw [joined_runner]
    rfl
  have hafter : Settings.read (joined bothFiles (twoFiles upperText runnerText)
      { vars := [("STYLEGATE_TEST__GREP", "login")] }) =
      .ok { logLevel := .warn, test := { grep := some "login" } } := by
    rw [joined_runner, environmentLayer_login]
    rfl
  have hlater : Settings.read (joined { user := false } {}
      { vars := [("STYLEGATE_TEST__GREP", "login"), ("stylegate_test__grep", "logout")] }) =
      .ok { test := { grep := some "logout" } } := by
    rw [joined, stack, List.foldl_append, List.foldl_cons, List.foldl_nil, environmentLayer_later]
    rfl
  exact ⟨⟨load_nothing, _, rfl⟩,
    ⟨_, _, _, load_runner {} hbefore, load_runner _ hafter, rfl, by decide⟩,
    (load_eq_ok fun p hp => by cases hp).2 ⟨hlater, rfl⟩⟩

end BuildGate.Settings
