import BuildGate.Proofs.ScanModes

/-!
# The line that is shown for a match

A match is found by its offset, and its line by a search around that offset, which knows nothing of
the match. Still the line shows the match: from the column on at which the match begins, it begins
with the first line of the match, and it ends with that if the match goes on behind a line feed. A
match that begins with a line feed has an empty first line, and is shown at the end of the line that
the line feed ends.

**Results.**
* `exists_of_mem_scan`: a match is the part of the text at its offset.
* `Shown`, `shown_locate`: what a line shows of a part of the text that begins on it.
* `violations_shown`: every violation of a scan, and all that a style check reports.
-/
namespace BuildGate

open Slice (bytes behind? slice?_eq_some behind?_eq_some exists_of_append_eq length_bytes_append)
open StyleCheck

namespace Line

/-- The characters before the first line feed. -/
def firstLine (cs : List Char) : List Char := cs.takeWhile (· != '\n')

/-- The offset at which the line with this `number` begins. -/
def startOf (text : String) (number : Nat) : Nat :=
  size ((text.toList.splitOn '\n').take (number - 1))

theorem firstLine_append (a b : List Char) :
    firstLine (a ++ b) = if '\n' ∈ a then firstLine a else a ++ firstLine b := by
  induction a with
  | nil => rfl
  | cons c a ih =>
    by_cases hc : c = '\n'
    · subst hc
      simp [firstLine]
    · have hmem : '\n' ∈ c :: a ↔ '\n' ∈ a := by simp [Ne.symm hc]
      have htake : ∀ cs, firstLine (c :: cs) = c :: firstLine cs := by simp [firstLine, hc]
      rw [List.cons_append, htake, ih, htake]
      simp only [hmem]
      split <;> rfl

theorem firstLine_self {cs : List Char} (h : '\n' ∉ cs) : firstLine cs = cs := by
  have happend := firstLine_append cs []
  rwa [List.append_nil, if_neg h, show firstLine [] = [] from rfl, List.append_nil] at happend

/-- A line is the first one of what stands behind its start. -/
theorem firstLine_line {line back : List Char} (hline : '\n' ∉ line)
    (hback : back = [] ∨ ∃ b, back = '\n' :: b) : firstLine (line ++ back) = line := by
  have hnone : firstLine back = [] := by
    rcases hback with rfl | ⟨b, rfl⟩
    · rfl
    · simp [firstLine]
  rw [firstLine_append, if_neg hline, hnone, List.append_nil]

end Line

open Line

/-! ## Matches as parts of a text -/

/-- A match is the part of the text at its offset. -/
theorem exists_of_mem_scan {text : String} {rules : List Rule} {mode : ScanMode} {m : Match}
    (h : m ∈ scan text rules mode) : ∃ before after,
      text.toList = before ++ m.matched.toList ++ after ∧ (bytes before).length = m.offset := by
  obtain ⟨r, -, hm⟩ := List.mem_flatMap.1 h
  have hall : m ∈ r.hits .allOccurrences text := by
    cases mode with
    | allOccurrences => exact hm
    | firstMatch =>
      rw [Rule.hits_firstMatch] at hm
      exact List.mem_of_mem_head? (by simpa using hm)
  obtain ⟨before, after, htext, hoffset, -⟩ :=
    slice?_eq_some.1 ((Rule.group_hits r text).sliced m hall)
  exact ⟨before, after, htext, hoffset⟩

/-! ## The line of a match -/

/-- What `v` shows of its match, which stands between `before` and `after` in `text`. -/
structure Shown (text : String) (before after : List Char) (v : Violation) : Prop where
  parts : text.toList = before ++ v.matched.toList ++ after
  /-- The line is counted by the line feeds before the match, -/
  number : v.line = 1 + before.count '\n'
  /-- and is shown as a whole. -/
  whole : (text.toList.splitOn '\n')[v.line - 1]? = some v.lineText.toList
  /-- The match begins on it, -/
  start_le : startOf text v.line ≤ (bytes before).length
  /-- and from there on the line begins with the first line of the match, and has nothing behind it
  if the match has more lines. -/
  shows : ∃ rest,
    behind? v.lineText.toList ((bytes before).length - startOf text v.line) = some rest ∧
      firstLine v.matched.toList <+: rest ∧
      ('\n' ∈ v.matched.toList → rest = firstLine v.matched.toList)

/-- The first line of what stands behind a place is that of a match there, or begins with the
match. -/
theorem firstLine_matched (matched after : List Char) :
    firstLine matched <+: firstLine (matched ++ after) ∧
      ('\n' ∈ matched → firstLine (matched ++ after) = firstLine matched) := by
  rw [firstLine_append]
  by_cases hfeed : '\n' ∈ matched
  · rw [if_pos hfeed]
    exact ⟨List.prefix_rfl, fun _ => rfl⟩
  · rw [if_neg hfeed, firstLine_self hfeed]
    exact ⟨List.prefix_append _ _, fun h => absurd h hfeed⟩

/-- The line of an offset is the one that the text is cut around, and begins where the cut is. -/
theorem locate_parts (text : String) (offset : Nat) : ∃ front line back,
    Parted text.toList (around (bytes text.toList) offset) front line back ∧
      (bytes front).length ≤ min offset (bytes text.toList).length ∧
      min offset (bytes text.toList).length ≤ (bytes (front ++ line)).length ∧
      (locate text offset).text.toList = line ∧
      startOf text (locate text offset).number = (bytes front).length := by
  obtain ⟨front, line, back, hparted, hle, hge⟩ := around_parts text.toList offset
  obtain ⟨earlier, later, hsplit, hnumber, hsize⟩ := splitOn_line hparted
  have hlocate : (locate text offset).number = earlier.length + 1 := hnumber.symm
  refine ⟨front, line, back, hparted, hle, hge, ?_, ?_⟩
  · have hpiece := (lineOf_locate text offset).piece
    rw [hsplit, hlocate] at hpiece
    simpa using hpiece.symm
  · rw [startOf, hsplit, hlocate, hparted.first, ← hsize]
    simp

/-- The line of an offset shows what begins there. -/
theorem shown_locate {text : String} {before after : List Char} {m : Match}
    (htext : text.toList = before ++ m.matched.toList ++ after)
    (hoffset : (bytes before).length = m.offset) (file : String) :
    Shown text before after (Finding.violation ⟨file, m, locate text m.offset⟩) := by
  obtain ⟨front, line, back, hparted, hle, hge, hline, hstart⟩ := locate_parts text m.offset
  have hclamped : min m.offset (bytes text.toList).length = (bytes before).length := by
    rw [htext, length_bytes_append, length_bytes_append]
    omega
  rw [hclamped] at hle hge
  -- The line begins before the match does, and the match begins before the line ends.
  have hbehind : front ++ (line ++ back) = before ++ (m.matched.toList ++ after) := by
    rw [← List.append_assoc, ← hparted.text, htext, List.append_assoc]
  obtain ⟨lead, rfl, hlead⟩ := exists_of_append_eq hbehind hle
  obtain ⟨rest, rfl, hrest⟩ :
      ∃ rest, line = lead ++ rest ∧ m.matched.toList ++ after = rest ++ back := by
    refine exists_of_append_eq hlead.symm ?_
    rw [length_bytes_append, length_bytes_append] at hge
    omega
  have hno_feed := hparted.no_feed
  rw [List.mem_append, not_or] at hno_feed
  have hfirst : firstLine (m.matched.toList ++ after) = rest := by
    rw [hrest]
    exact firstLine_line hno_feed.2 hparted.closes
  obtain ⟨hbegins, hends⟩ := firstLine_matched m.matched.toList after
  rw [hfirst] at hbegins hends
  refine
    { parts := htext
      number := ?_
      whole := (lineOf_locate text m.offset).piece
      start_le := ?_
      shows := ⟨rest, ?_, hbegins, hends⟩ }
  · have hnumber : (locate text m.offset).number = front.count '\n' + 1 := hparted.number
    change (locate text m.offset).number = _
    rw [hnumber, List.count_append, List.count_eq_zero.2 hno_feed.1]
    omega
  · change startOf text (locate text m.offset).number ≤ _
    rw [hstart, length_bytes_append]
    exact Nat.le_add_right _ _
  · change behind? (locate text m.offset).text.toList
      (_ - startOf text (locate text m.offset).number) = _
    rw [hline, hstart, length_bytes_append, Nat.add_sub_cancel_left]
    exact behind?_eq_some.2 ⟨lead, rfl, rfl⟩

/-! ## All that is reported -/

theorem mem_allFindings {t : FileTree} {root : String} {rules : List Rule} {mode : ScanMode}
    {files : List String} {f : Finding} (h : f ∈ allFindings t root rules mode files) :
    f.file ∈ files ∧ ∃ text, t.readText (Path.join root f.file) = .ok text ∧
      f.found ∈ scan text rules mode ∧ f.line = locate text f.found.offset := by
  obtain ⟨file, hfile, hf⟩ := List.mem_flatMap.1 h
  split at hf
  · cases hf
  next text htext =>
    rw [← findings_eq] at hf
    obtain ⟨m, hm, rfl⟩ := List.mem_map.1 hf
    exact ⟨hfile, text, htext, hm, rfl⟩

/-- What a style check reports are matches in texts of the listed files. -/
theorem exists_reported (root : String) (files : List String) (rules : List Rule) (mode : ScanMode)
    (w : World) : ∃ scanned : List String, scanned <+: files ∧
      (scanFiles root files rules mode w).2.reported =
        w.reported ++ allFindings w.tree root rules mode scanned := by
  rcases readable_or_first root w.tree files with h | ⟨before, file, after, cause, rfl, hb, hf⟩
  · exact ⟨files, List.prefix_rfl, (scanFiles_readable root rules mode h).2.reported⟩
  · exact ⟨before, List.prefix_append _ _,
      (scanFiles_unreadable root rules mode after hb hf).2.reported⟩

/-- Every violation of a match in a text shows the match where it begins (`Shown`), and all that
`scanFiles` reports are such violations in texts of its files. -/
theorem violations_shown (rules : List Rule) (mode : ScanMode) :
    (∀ text file, ∀ m ∈ scan text rules mode, ∃ before after, (bytes before).length = m.offset ∧
      Shown text before after (Finding.violation ⟨file, m, locate text m.offset⟩)) ∧
    ∀ root files w, ∃ found, (scanFiles root files rules mode w).2.reported = w.reported ++ found ∧
      ∀ f ∈ found, f.file ∈ files ∧ ∃ text before after,
        w.tree.readText (Path.join root f.file) = .ok text ∧
          (bytes before).length = f.found.offset ∧ Shown text before after f.violation := by
  have hscan : ∀ text file, ∀ m ∈ scan text rules mode, ∃ before after,
      (bytes before).length = m.offset ∧
        Shown text before after (Finding.violation ⟨file, m, locate text m.offset⟩) := by
    intro text file m hm
    obtain ⟨before, after, htext, hoffset⟩ := exists_of_mem_scan hm
    exact ⟨before, after, hoffset, shown_locate htext hoffset file⟩
  refine ⟨hscan, fun root files w => ?_⟩
  obtain ⟨scanned, hscanned, hreported⟩ := exists_reported root files rules mode w
  refine ⟨_, hreported, fun f hf => ?_⟩
  obtain ⟨hfile, text, htext, hm, hline⟩ := mem_allFindings hf
  obtain ⟨before, after, hoffset, hshown⟩ := hscan text f.file f.found hm
  rw [← hline] at hshown
  exact ⟨hscanned.subset hfile, text, before, after, htext, hoffset, hshown⟩

/-- A match that goes on behind a line feed is shown up to there. -/
example : (locate "/**\n * @return \n */" 7).text = " * @return " := by cbv

end BuildGate
