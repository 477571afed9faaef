import BuildGate.Proofs.Tables
import BuildGate.Settings.Reader
import Mathlib.Data.List.Nodup

/-!
# Records read from tables

A record is read part by part, and a part may be a record of its own, so in the end the settings are
read from single values: the leaves. What a table says comes down to what stands under the keys of
each leaf: the record is read if every value there can be, and has the values that are read there and
otherwise those it starts with.

**Results.**
* `fromEntries_holds`, `fromEntries_reads`: the parts of one record.
* `Record.settles`: the leaves of a record are those of its parts.
* `settles_leaves`, `eq_of_leaves`: the settings, which their leaves make up.
-/
namespace BuildGate.Settings

open Data

/-- A value of a record: the `keys` that lead to it in a table, how it is read there, and how the
record gives it. -/
structure Leaf (σ : Type) where
  {Value : Type}
  keys : List String
  read : Reader Value
  get : σ → Value

namespace Leaf

variable {σ α : Type}

/-- The leaf `l` of a part as one of the record, which holds the part under `key`. -/
def under (key : String) (get : σ → α) (l : Leaf α) : Leaf σ :=
  ⟨key :: l.keys, l.read, l.get ∘ get⟩

/-- `s` has the value that `l.read` makes of the data, or the one of `start` if there is no data. -/
def Holds (l : Leaf σ) (start : σ) (s : σ) : Option (Datum Origin) → Prop
  | some d => l.read d = .ok (l.get s)
  | none => l.get s = l.get start

/-- What is found, if anything, can be read as the value of `l`. -/
def Fits (l : Leaf σ) (found : Option (Datum Origin)) : Prop :=
  ∀ d, found = some d → ∃ a, l.read d = .ok a

theorem Holds.fits {l : Leaf σ} {start s : σ} {found : Option (Datum Origin)}
    (h : l.Holds start s found) : l.Fits found := by
  rintro d rfl
  exact ⟨l.get s, h⟩

end Leaf

/-- The `leaves` say what `read` makes of data whose keys lead through tables. -/
structure Settles {σ : Type} (read : Reader σ) (start : σ) (leaves : List (Leaf σ)) : Prop where
  reads : ∀ d, d.Ascending → (∀ l ∈ leaves, d.Leads l.keys) →
    (∀ l ∈ leaves, l.Fits (d.at? l.keys)) → ∃ s, read d = .ok s
  holds : ∀ d s, d.Ascending → (∀ l ∈ leaves, d.Leads l.keys) → read d = .ok s →
    ∀ l ∈ leaves, l.Holds start s (d.at? l.keys)

/-- A value that is read as it is. -/
theorem settles_value {α : Type} (read : Reader α) (start : α) :
    Settles read start [⟨[], read, id⟩] where
  reads d _ _ h := h _ List.mem_cons_self d rfl
  holds d s _ _ h l hl := by
    obtain rfl := List.mem_singleton.1 hl
    exact h

/-! ## Parts -/

/-- A part of a record that starts as `start`, and what settles it. -/
structure Part (σ : Type) (start : σ) where
  {Value : Type}
  key : String
  read : Reader Value
  update : σ → Value → σ
  get : σ → Value
  get_update : ∀ s a, get (update s a) = a
  leaves : List (Leaf Value)
  settles : Settles read (get start) leaves

namespace Part

variable {σ : Type} {start : σ}

def field (p : Part σ start) : Reader.Field σ := Reader.field p.key p.read p.update

/-- The part has been read from what stands under its key, or left as it was `before`. -/
def Taken (p : Part σ start) (before after : σ) : Option (Datum Origin) → Prop
  | some d => p.read d = .ok (p.get after)
  | none => p.get after = p.get before

end Part

/-- A record whose `parts` have keys of their own and do not touch each other. -/
structure Record (σ : Type) (start : σ) where
  name : String
  parts : List (Part σ start)
  distinct : (parts.map Part.key).Nodup
  apart : ∀ p ∈ parts, ∀ q ∈ parts, p.key ≠ q.key → ∀ s a, q.get (p.update s a) = q.get s

namespace Record

variable {σ : Type} {start : σ} (r : Record σ start)

def read : Reader σ := Reader.record r.name (r.parts.map Part.field) start

def leaves : List (Leaf σ) := r.parts.flatMap fun p => p.leaves.map (Leaf.under p.key p.get)

variable {r}

theorem find?_field (k : String) :
    (r.parts.map Part.field).find? (·.key == k) = (r.parts.find? (·.key == k)).map Part.field :=
  List.find?_map

theorem eq_of_key {p q : Part σ start} (hp : p ∈ r.parts) (hq : q ∈ r.parts) (h : p.key = q.key) :
    p = q :=
  List.inj_on_of_nodup_map r.distinct hp hq h

theorem find?_of_mem {p : Part σ start} (hp : p ∈ r.parts) :
    r.parts.find? (·.key == p.key) = some p := by
  cases h : r.parts.find? (·.key == p.key) with
  | none => simpa using List.find?_eq_none.1 h p hp
  | some q =>
    have hkey : q.key = p.key := by simpa using List.find?_some h
    rw [eq_of_key (List.mem_of_find?_eq_some h) hp hkey]

/-- One more entry: the part under its key is read from it, and the others are left. -/
theorem fromEntries_cons {k : String} {d : Datum Origin} {es : Entries (Datum Origin)}
    {before : σ} :
    Reader.fromEntries (r.parts.map Part.field) ((k, d) :: es) before =
      match r.parts.find? (·.key == k) with
      | some p => do
        Reader.fromEntries (r.parts.map Part.field) es
          (← Reader.under k ((p.read d).map (p.update before)))
      | none => Reader.fromEntries (r.parts.map Part.field) es before := by
  rw [Reader.fromEntries, find?_field]
  cases r.parts.find? (·.key == k) <;> rfl

/-- What is read from a table has each part as it stands there. -/
theorem fromEntries_holds {es : Entries (Datum Origin)} (hes : es.Ascending) {before after : σ}
    (h : Reader.fromEntries (r.parts.map Part.field) es before = .ok after) :
    ∀ p ∈ r.parts, p.Taken before after (es.lookup p.key) := by
  induction es generalizing before with
  | nil =>
    cases h
    exact fun p _ => rfl
  | cons e es ih =>
    obtain ⟨k, d⟩ := e
    intro p hp
    have hrest := (List.pairwise_cons.1 hes).2
    rw [fromEntries_cons] at h
    split at h
    next q hq =>
      have hqkey : q.key = k := by simpa using List.find?_some hq
      have hqmem := List.mem_of_find?_eq_some hq
      obtain ⟨a, ha⟩ : ∃ a, q.read d = .ok a := by
        cases ha : q.read d with
        | ok a => exact ⟨a, rfl⟩
        | error f =>
          rw [ha] at h
          cases h
      rw [ha] at h
      have htaken := ih hrest h p hp
      by_cases hk : p.key = k
      · obtain rfl := eq_of_key hp hqmem (hk.trans hqkey.symm)
        rw [hk, hes.lookup_tail] at htaken
        rw [hk, List.lookup_cons_self]
        rw [Part.Taken, p.get_update] at htaken
        rw [Part.Taken, htaken, ha]
      · rw [Entries.lookup_cons_of_ne hk]
        have hframe := r.apart q hqmem p hp (fun h => hk (h ▸ hqkey)) before a
        cases hl : es.lookup p.key with
        | none =>
          rw [hl] at htaken
          exact htaken.trans hframe
        | some x =>
          rw [hl] at htaken
          exact htaken
    next hq =>
      have hk : p.key ≠ k := fun hk => by
        rw [← hk, find?_of_mem hp] at hq
        cases hq
      rw [Entries.lookup_cons_of_ne hk]
      exact ih hrest h p hp

/-- A record is read from a table where every part can be read. -/
theorem fromEntries_reads {es : Entries (Datum Origin)} (hes : es.Ascending)
    (h : ∀ p ∈ r.parts, ∀ d, es.lookup p.key = some d → ∃ a, p.read d = .ok a) (before : σ) :
    ∃ s, Reader.fromEntries (r.parts.map Part.field) es before = .ok s := by
  induction es generalizing before with
  | nil => exact ⟨before, rfl⟩
  | cons e es ih =>
    obtain ⟨k, d⟩ := e
    have hrest : ∀ p ∈ r.parts, ∀ x, es.lookup p.key = some x → ∃ a, p.read x = .ok a := by
      intro p hp x hx
      have hk : p.key ≠ k := fun hk => by
        rw [hk, hes.lookup_tail] at hx
        cases hx
      exact h p hp x (by rw [Entries.lookup_cons_of_ne hk, hx])
    rw [fromEntries_cons]
    split
    next p hp =>
      have hkey : p.key = k := by simpa using List.find?_some hp
      obtain ⟨a, ha⟩ := h p (List.mem_of_find?_eq_some hp) d (by rw [hkey, List.lookup_cons_self])
      rw [ha]
      exact ih (List.pairwise_cons.1 hes).2 hrest _
    next => exact ih (List.pairwise_cons.1 hes).2 hrest before

theorem mem_leaves {l : Leaf σ} :
    l ∈ r.leaves ↔ ∃ p ∈ r.parts, ∃ l' ∈ p.leaves, l = l'.under p.key p.get := by
  simp only [leaves, List.mem_flatMap, List.mem_map, eq_comm]

theorem exists_table {d : Datum Origin} {keys : List String} (hne : keys ≠ []) (h : d.Leads keys) :
    ∃ t es, d = .table t es := by
  cases keys with
  | nil => exact absurd rfl hne
  | cons k keys =>
    cases d with
    | table t es => exact ⟨t, es, rfl⟩
    | scalar => exact h.elim
    | list => exact h.elim

/-- The leaves of a record settle it, if it has any. -/
theorem settles (hne : r.leaves ≠ []) : Settles r.read start r.leaves where
  reads d hd hleads hfits := by
    obtain ⟨l, hl⟩ := List.exists_mem_of_ne_nil _ hne
    have hl' := hl
    obtain ⟨p, hp, l', hl', rfl⟩ := mem_leaves.1 hl'
    obtain ⟨t, es, rfl⟩ := exists_table (List.cons_ne_nil _ _) (hleads _ hl)
    obtain _ | _ | ⟨_, _, hes, hvalues⟩ := hd
    refine fromEntries_reads hes (fun p hp d hd => ?_) start
    refine p.settles.reads d (hvalues _ (Entries.mem_of_lookup hd)) (fun l hl => ?_) fun l hl => ?_
    · exact hleads _ (mem_leaves.2 ⟨p, hp, l, hl, rfl⟩) d hd
    · intro x hx
      refine hfits _ (mem_leaves.2 ⟨p, hp, l, hl, rfl⟩) x ?_
      rw [Leaf.under, Datum.at?, hd]
      exact hx
  holds d s hd hleads hread l hl := by
    obtain ⟨p, hp, l', hl', rfl⟩ := mem_leaves.1 hl
    obtain ⟨t, es, rfl⟩ := exists_table (List.cons_ne_nil _ _) (hleads _ hl)
    obtain _ | _ | ⟨_, _, hes, hvalues⟩ := hd
    have htaken := fromEntries_holds hes hread p hp
    rw [Leaf.under, Datum.at?]
    cases hk : es.lookup p.key with
    | none =>
      rw [hk] at htaken
      exact congrArg l'.get htaken
    | some x =>
      rw [hk] at htaken
      exact p.settles.holds x _ (hvalues _ (Entries.mem_of_lookup hk))
        (fun l hl => hleads _ (mem_leaves.2 ⟨p, hp, l, hl, rfl⟩) x hk) htaken l' hl'

end Record

/-! ## The records of the settings -/

namespace Part

variable {σ α : Type} {start : σ}

/-- A part that is one value, under `key`. -/
def value (key : String) (read : Reader α) (update : σ → α → σ) (get : σ → α)
    (h : ∀ s a, get (update s a) = a := by exact fun _ _ => rfl) : Part σ start :=
  ⟨key, read, update, get, h, [⟨[], read, id⟩], settles_value read _⟩

/-- A part that is the record `r`, under `key`. -/
def record (key : String) (get : σ → α) (r : Record α (get start)) (hne : r.leaves ≠ [])
    (update : σ → α → σ) (h : ∀ s a, get (update s a) = a := by exact fun _ _ => rfl) :
    Part σ start :=
  ⟨key, r.read, update, get, h, r.leaves, r.settles hne⟩

end Part

section
open Reader

def modeReader : Reader ScanMode :=
  choice "ScanMode"
    [("first-match", ScanMode.firstMatch), ("all-occurrences", ScanMode.allOccurrences)]

def styleRecord (start : StyleSettings) : Record StyleSettings start where
  name := "StyleConfig"
  parts :=
    [ .value "files" (list text) (fun s x => { s with files := x }) (·.files),
      .value "mode" modeReader (fun s x => { s with mode := x }) (·.mode),
      .value "rules" (list rule) (fun s x => { s with rules := x }) (·.rules) ]
  distinct := by simp [Part.value]
  apart := by simp [Part.value]

def lintRecord (start : LintSettings) : Record LintSettings start where
  name := "LintConfig"
  parts :=
    [ .value "program" text (fun s x => { s with program := x }) (·.program),
      .value "args" (list text) (fun s x => { s with args := x }) (·.args),
      .value "files" (list text) (fun s x => { s with files := x }) (·.files) ]
  distinct := by simp [Part.value]
  apart := by simp [Part.value]

def testRecord (start : TestSettings) : Record TestSettings start where
  name := "TestConfig"
  parts :=
    [ .value "program" text (fun s x => { s with program := x }) (·.program),
      .value "args" (list text) (fun s x => { s with args := x }) (·.args),
      .value "setup" (list text) (fun s x => { s with setup := x }) (·.setup),
      .value "files" (list text) (fun s x => { s with files := x }) (·.files),
      .value "module_files" (list text) (fun s x => { s with moduleFiles := x }) (·.moduleFiles),
      .value "timeout_ms" natural (fun s x => { s with timeoutMs := x }) (·.timeoutMs),
      .value "grep" (optional text) (fun s x => { s with grep := x }) (·.grep) ]
  distinct := by simp [Part.value]
  apart := by simp [Part.value]

def toolRecord (start : ToolSettings) : Record ToolSettings start where
  name := "ToolConfig"
  parts :=
    [ .value "program" text (fun s x => { s with program := x }) (·.program),
      .value "args" (list text) (fun s x => { s with args := x }) (·.args) ]
  distinct := by simp [Part.value]
  apart := by simp [Part.value]

def coverageRecord (start : CoverageSettings) : Record CoverageSettings start where
  name := "CoverageConfig"
  parts :=
    [ .value "program" text (fun s x => { s with program := x }) (·.program),
      .value "args" (list text) (fun s x => { s with args := x }) (·.args),
      .value "output_dir" path (fun s x => { s with outputDir := x }) (·.outputDir),
      .value "report" text (fun s x => { s with report := x }) (·.report),
      .value "upload_report" text (fun s x => { s with uploadReport := x }) (·.uploadReport),
      .value "exclude" (list text) (fun s x => { s with exclude := x }) (·.exclude),
      .value "html_report" path (fun s x => { s with htmlReport := x }) (·.htmlReport),
      .value "lcov_file" path (fun s x => { s with lcovFile := x }) (·.lcovFile),
      .record "upload" (·.upload) (toolRecord start.upload) (List.cons_ne_nil _ _)
        (fun s x => { s with upload := x }) ]
  distinct := by simp [Part.value, Part.record]
  apart := by simp [Part.value, Part.record]

def settingsRecord (start : Settings) : Record Settings start where
  name := "Config"
  parts :=
    [ .value "log_level" (choice "LogLevel" levels) (fun s x => { s with logLevel := x })
        (·.logLevel),
      .value "log_dir" (optional path) (fun s x => { s with logDir := x }) (·.logDir),
      .record "style" (·.style) (styleRecord start.style) (List.cons_ne_nil _ _)
        (fun s x => { s with style := x }),
      .record "lint" (·.lint) (lintRecord start.lint) (List.cons_ne_nil _ _)
        (fun s x => { s with lint := x }),
      .record "test" (·.test) (testRecord start.test) (List.cons_ne_nil _ _)
        (fun s x => { s with test := x }),
      .record "coverage" (·.coverage) (coverageRecord start.coverage) (List.cons_ne_nil _ _)
        (fun s x => { s with coverage := x }) ]
  distinct := by simp [Part.value, Part.record]
  apart := by simp [Part.value, Part.record]

theorem settingsRecord_read : (settingsRecord {}).read = Settings.read := rfl

/-- The leaves of `Settings`. -/
def leaves : List (Leaf Settings) :=
  [ ⟨["log_level"], choice "LogLevel" levels, (·.logLevel)⟩,
    ⟨["log_dir"], optional path, (·.logDir)⟩,
    ⟨["style", "files"], list text, (·.style.files)⟩,
    ⟨["style", "mode"], modeReader, (·.style.mode)⟩,
    ⟨["style", "rules"], list rule, (·.style.rules)⟩,
    ⟨["lint", "program"], text, (·.lint.program)⟩,
    ⟨["lint", "args"], list text, (·.lint.args)⟩,
    ⟨["lint", "files"], list text, (·.lint.files)⟩,
    ⟨["test", "program"], text, (·.test.program)⟩,
    ⟨["test", "args"], list text, (·.test.args)⟩,
    ⟨["test", "setup"], list text, (·.test.setup)⟩,
    ⟨["test", "files"], list text, (·.test.files)⟩,
    ⟨["test", "module_files"], list text, (·.test.moduleFiles)⟩,
    ⟨["test", "timeout_ms"], natural, (·.test.timeoutMs)⟩,
    ⟨["test", "grep"], optional text, (·.test.grep)⟩,
    ⟨["coverage", "program"], text, (·.coverage.program)⟩,
    ⟨["coverage", "args"], list text, (·.coverage.args)⟩,
    ⟨["coverage", "output_dir"], path, (·.coverage.outputDir)⟩,
    ⟨["coverage", "report"], text, (·.coverage.report)⟩,
    ⟨["coverage", "upload_report"], text, (·.coverage.uploadReport)⟩,
    ⟨["coverage", "exclude"], list text, (·.coverage.exclude)⟩,
    ⟨["coverage", "html_report"], path, (·.coverage.htmlReport)⟩,
    ⟨["coverage", "lcov_file"], path, (·.coverage.lcovFile)⟩,
    ⟨["coverage", "upload", "program"], text, (·.coverage.upload.program)⟩,
    ⟨["coverage", "upload", "args"], list text, (·.coverage.upload.args)⟩ ]

theorem settles_leaves : Settles Settings.read {} leaves :=
  (settingsRecord {}).settles (List.cons_ne_nil _ _)

/-- Settings are the values of their leaves. -/
theorem eq_of_leaves {s s' : Settings} (h : ∀ l ∈ leaves, l.get s = l.get s') : s = s' := by
  simp only [leaves, List.forall_mem_cons, List.not_mem_nil, false_implies, implies_true,
    and_true] at h
  rcases s with ⟨_, _, ⟨⟩, ⟨⟩, ⟨⟩, ⟨_, _, _, _, _, _, _, _, ⟨⟩⟩⟩
  rcases s' with ⟨_, _, ⟨⟩, ⟨⟩, ⟨⟩, ⟨_, _, _, _, _, _, _, _, ⟨⟩⟩⟩
  simp only [Settings.mk.injEq, StyleSettings.mk.injEq, LintSettings.mk.injEq,
    TestSettings.mk.injEq, CoverageSettings.mk.injEq, ToolSettings.mk.injEq, and_assoc]
  exact h

end

end BuildGate.Settings
