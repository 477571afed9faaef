import BuildGate.Proofs.EveryMatch
import BuildGate.Proofs.Lines
import BuildGate.Proofs.StyleCheck

/-!
# The two modes of a scan

A scan for every occurrence lists a group of matches for each rule, rule by rule, and a scan for first
matches lists the first of each group that has one. So the two agree on whether there is anything to
report, in one text and in any list of files.

A group is what its pattern matches, told without the search: the preferred match at each of its
places, apart from each other, with every place at which the pattern matches accounted for.

**Results.**
* `Group`, `group_hits`: what the matches of one rule are.
* `hits_firstMatch`: the first match of a rule is the first of its group.
* `scan_modes`: how the results of the two modes lie in each other.
-/
namespace BuildGate

open Cursor (Reaches)
open Slice (bytes slice?)
open StyleCheck

/-- The offset at which `m` ends. -/
def Match.last (m : Match) : Nat := m.offset + m.matched.utf8ByteSize

/-- `ms` are the matches of `r` in `text`. -/
structure Group (text : String) (r : Rule) (ms : List Match) : Prop where
  message : ∀ m ∈ ms, m.message = r.message
  /-- They stand in the order of the text and do not overlap. -/
  apart : ms.Pairwise fun a b => a.offset < b.offset ∧ a.last ≤ b.offset
  /-- Each is a part of the text between characters. -/
  sliced : ∀ m ∈ ms, slice? text.toList m.offset m.last = some m.matched.toList
  /-- Each is the preferred match of the pattern at its place, -/
  preferred : ∀ m ∈ ms, ∃ c d, Reaches (.start text.toList) c ∧
    (r.pattern.ends c).head? = some d ∧ c.offset = m.offset ∧ d.offset = m.last
  /-- and a place at which the pattern matches is that of a match, or lies within one, or is the end
  of one if the pattern takes no character there. -/
  covers : ∀ c d, Reaches (.start text.toList) c → (r.pattern.ends c).head? = some d →
    ∃ m ∈ ms, m.offset ≤ c.offset ∧
      (c.offset = m.offset ∨ c.offset < m.last ∨ c.offset = m.last ∧ d = c)

namespace Group

variable {text : String} {r : Rule} {ms : List Match} {m m' : Match}

theorem last_le (h : Group text r ms) (hm : m ∈ ms) (hm' : m' ∈ ms) (hlt : m.offset < m'.offset) :
    m.last ≤ m'.offset := by
  refine List.Pairwise.forall_of_forall_of_flip (R := fun a b => a.offset < b.offset → a.last ≤ b.offset)
    ?_ (h.apart.imp fun hab _ => hab.2) (h.apart.imp fun hab hba => ?_) hm hm' hlt
  · exact fun a _ hlt => absurd hlt (Nat.lt_irrefl _)
  · exact absurd hab.1 (Nat.lt_asymm hba)

theorem head_le (h : Group text r ms) (hm : ms.head? = some m) (hm' : m' ∈ ms) :
    m.offset ≤ m'.offset := by
  obtain ⟨rest, rfl⟩ := List.head?_eq_some_iff.1 hm
  rcases List.mem_cons.1 hm' with rfl | hm'
  · exact Nat.le_refl _
  · exact Nat.le_of_lt ((List.pairwise_cons.1 h.apart).1 m' hm').1

end Group

namespace Rule

variable (r : Rule) (text : String)

/-- The match of the rule that `s` stands for. -/
def matchOf (s : Pattern.Span) : Match := ⟨r.message, s.first.offset, String.ofList s.text⟩

theorem hits_allOccurrences :
    r.hits .allOccurrences text = (r.pattern.findAll text.toList).map r.matchOf := rfl

/-- The first match of a rule is the first of all its matches. -/
theorem hits_firstMatch :
    r.hits .firstMatch text = (r.hits .allOccurrences text).head?.toList := by
  rw [hits_allOccurrences, List.head?_map, Pattern.head?_findAll]
  change ((r.pattern.find text.toList).toList).map _ = _
  cases r.pattern.find text.toList <;> rfl

variable {r text}

/-- A match ends where its span does. -/
theorem last_matchOf {s : Pattern.Span} (h : Reaches s.first s.last) :
    (r.matchOf s).last = s.last.offset := by
  obtain ⟨part, -, hoffset, hpart⟩ := h.exists_part
  change s.first.offset + (String.ofList (s.first.upTo s.last)).utf8ByteSize = _
  rw [hpart, hoffset, ← length_bytes_toList, String.toList_ofList]

theorem slice?_matchOf {s : Pattern.Span} (hfirst : Reaches (.start text.toList) s.first)
    (h : Reaches s.first s.last) :
    slice? text.toList (r.matchOf s).offset (r.matchOf s).last = some (r.matchOf s).matched.toList := by
  obtain ⟨before, htext, hbefore, -⟩ := hfirst.exists_part
  obtain ⟨part, hrest, hoffset, hpart⟩ := h.exists_part
  have hmatched : (r.matchOf s).matched.toList = part := by
    rw [← hpart]
    exact String.toList_ofList
  rw [last_matchOf h, hmatched, Slice.slice?_eq_some]
  refine ⟨before, s.last.rest, ?_, ?_, ?_⟩
  · rw [List.append_assoc, ← hrest, ← htext]
    rfl
  · rw [show (r.matchOf s).offset = s.first.offset from rfl, hbefore]
    exact (Nat.zero_add _).symm
  · rw [Slice.length_bytes_append, hoffset, hbefore]
    simp [Cursor.start]

/-- The matches of a rule are its group. -/
theorem group_hits (r : Rule) (text : String) : Group text r (r.hits .allOccurrences text) := by
  have hspan : ∀ s ∈ r.pattern.findAll text.toList, Reaches (.start text.toList) s.first ∧
      (r.pattern.ends s.first).head? = some s.last ∧ Reaches s.first s.last := by
    intro s hs
    obtain ⟨hfirst, hlast⟩ := Pattern.mem_findAll hs
    exact ⟨hfirst, hlast, Pattern.ends_reached _ _ _ (List.mem_of_mem_head? hlast)⟩
  rw [hits_allOccurrences]
  refine ⟨?_, ?_, ?_, ?_, ?_⟩
  · simp only [List.forall_mem_map]
    exact fun _ _ => rfl
  · rw [List.pairwise_map]
    refine (List.Pairwise.and (Pattern.findAll_ascending ..) (Pattern.findAll_apart ..)).imp_of_mem ?_
    intro a b ha hb hab
    rw [last_matchOf (hspan a ha).2.2]
    exact hab
  · simp only [List.forall_mem_map]
    exact fun s hs => slice?_matchOf (hspan s hs).1 (hspan s hs).2.2
  · simp only [List.forall_mem_map]
    intro s hs
    obtain ⟨hfirst, hlast, hr⟩ := hspan s hs
    exact ⟨s.first, s.last, hfirst, hlast, rfl, (last_matchOf hr).symm⟩
  · intro c d hc hd
    obtain ⟨m, hm, hbegun, hreaches⟩ := Pattern.findAll_covers hc hd
    refine ⟨r.matchOf m, List.mem_map_of_mem hm, hbegun, ?_⟩
    rw [last_matchOf (hspan m hm).2.2]
    rcases hreaches with rfl | hin | ⟨rfl, hd⟩
    · exact .inl rfl
    · exact .inr (.inl hin)
    · exact .inr (.inr ⟨rfl, hd⟩)

end Rule

/-! ## Every rule -/

section

variable (text : String) (rules : List Rule)

theorem scan_firstMatch :
    scan text rules .firstMatch =
      rules.filterMap fun r => (r.hits .allOccurrences text).head? := by
  induction rules with
  | nil => rfl
  | cons r rules ih =>
    have hscan : scan text (r :: rules) .firstMatch =
        r.hits .firstMatch text ++ scan text rules .firstMatch := rfl
    rw [hscan, ih, Rule.hits_firstMatch, List.filterMap_cons]
    cases (r.hits .allOccurrences text).head? <;> rfl

/-- What a scan for first matches lists is listed by a scan for every occurrence, in that order. -/
theorem scan_firstMatch_sublist :
    (scan text rules .firstMatch).Sublist (scan text rules .allOccurrences) := by
  induction rules with
  | nil => exact .slnil
  | cons r rules ih =>
    have hscan : ∀ mode, scan text (r :: rules) mode = r.hits mode text ++ scan text rules mode :=
      fun _ => rfl
    have hfirst : (r.hits .firstMatch text).Sublist (r.hits .allOccurrences text) := by
      rw [Rule.hits_firstMatch, ← List.take_one]
      exact List.take_sublist 1 _
    rw [hscan, hscan]
    exact hfirst.append ih

theorem scan_firstMatch_length : (scan text rules .firstMatch).length ≤ rules.length := by
  rw [scan_firstMatch]
  exact List.length_filterMap_le ..

/-- A scan for first matches misses no text that has a match. -/
theorem scan_eq_nil_iff :
    scan text rules .firstMatch = [] ↔ scan text rules .allOccurrences = [] := by
  rw [scan_firstMatch, scan, List.filterMap_eq_nil_iff, List.flatMap_eq_nil_iff]
  simp only [List.head?_eq_none_iff]

end

/-- In a list of files the two modes agree on whether there is anything to report. -/
theorem allFindings_eq_nil_iff (t : FileTree) (root : String) (rules : List Rule)
    (files : List String) :
    allFindings t root rules .firstMatch files = [] ↔
      allFindings t root rules .allOccurrences files = [] := by
  rw [allFindings, allFindings, List.flatMap_eq_nil_iff, List.flatMap_eq_nil_iff]
  refine forall₂_congr fun file _ => ?_
  cases t.readText (Path.join root file) with
  | error cause => rfl
  | ok text =>
    simp only [← findings_eq, findings, List.map_eq_nil_iff]
    exact scan_eq_nil_iff text rules

/-- The two modes of a scan. There is one `Group` of matches for each rule: `allOccurrences` lists
the groups one after the other, and `firstMatch` the first match of each group that has one. So the
second lists nothing exactly if the first does, at most one match for each rule, and only what the
first lists too; and `scanFiles` over files that can all be read comes to the same outcome in both
modes. -/
theorem scan_modes (text : String) (rules : List Rule) :
    (∃ group : Rule → List Match, (∀ r, Group text r (group r)) ∧
      scan text rules .allOccurrences = rules.flatMap group ∧
      scan text rules .firstMatch = rules.filterMap fun r => (group r).head?) ∧
    (scan text rules .firstMatch = [] ↔ scan text rules .allOccurrences = []) ∧
    (scan text rules .firstMatch).length ≤ rules.length ∧
    (scan text rules .firstMatch).Sublist (scan text rules .allOccurrences) ∧
    ∀ (root : String) (files : List String) (w : World),
      (∀ file ∈ files, Readable w.tree root file) →
      ∃ s s' : StyleSummary, (scanFiles root files rules .firstMatch w).1 = .ok s ∧
        (scanFiles root files rules .allOccurrences w).1 = .ok s' ∧ s.outcome = s'.outcome := by
  refine ⟨⟨fun r => r.hits .allOccurrences text, fun r => Rule.group_hits r text, rfl,
    scan_firstMatch text rules⟩, scan_eq_nil_iff text rules, scan_firstMatch_length text rules,
    scan_firstMatch_sublist text rules, fun root files w h => ?_⟩
  refine ⟨_, _, (scanFiles_readable root rules .firstMatch h).1,
    (scanFiles_readable root rules .allOccurrences h).1, ?_⟩
  simp only [summary, List.length_eq_zero_iff, allFindings_eq_nil_iff]

end BuildGate
