import BuildGate.Proofs.ScanModes

/-!
# What the built-in rules find

Each built-in rule is about one tag of doc comments. `DocTag.Breaks` lists the texts that break the
rule for a tag, and a candidate is a part of a text that does. A pattern stands for a set of texts if
it matches just those, wherever they stand; this is shown of the built-in patterns part by part.

A candidate of a rule can only overlap one before it where the `@` of a tag stands for the character
behind `@param `. So every candidate is reported but those, and these only if the one before them is.

**Results.**
* `DocTag.means_pattern`: the pattern of a tag matches just the texts that break its rule.
* `DocTag.candidate_iff`: the candidates are the places where the pattern matches.
* `DocTag.overlap`: how two candidates of a rule overlap.
* `DocTag.scan_builtin`: what the built-in rules find in a text, in both modes.
-/
namespace BuildGate

open Cursor (Reaches next?_eq_some)
open Slice (bytes slice?)

/-! ## Patterns and texts -/

namespace Pattern

/-- Wherever `p` matches, what it prefers is one of `texts`, and it matches each of them. -/
def Means (p : Pattern) (texts : List Char → Prop) : Prop :=
  ∀ c d, (p.ends c).head? = some d ↔
    Reaches c d ∧ ∃ part, texts part ∧ c.rest = part ++ d.rest

variable {p q : Pattern} {texts texts' : List Char → Prop}

theorem Means.congr (h : p.Means texts) (hiff : ∀ part, texts part ↔ texts' part) :
    p.Means texts' := by
  intro c d
  rw [h c d]
  simp only [hiff]

theorem Means.grouped (h : p.Means texts) : (group p).Means texts := h

theorem means_set (s : Charset) : (set s).Means fun part => ∃ x, part = [x] ∧ s.mem x = true := by
  intro c d
  rw [ends]
  constructor
  · intro h
    split at h
    next x e hn =>
      obtain ⟨he, hrest⟩ := next?_eq_some.1 hn
      split at h
      next hx =>
        cases h
        exact ⟨he, [x], ⟨x, rfl, hx⟩, hrest⟩
      next => cases h
    next => cases h
  · rintro ⟨hd, -, ⟨x, rfl, hx⟩, hrest⟩
    rw [next?_eq_some.2 ⟨hd, hrest⟩]
    simp [hx]

theorem Means.behind (hq : q.Means texts) (s : Charset) :
    (seq (set s) q).Means fun part => ∃ x rest, part = x :: rest ∧ s.mem x = true ∧ texts rest := by
  intro c d
  have hends : ((seq (set s) q).ends c).head? =
      ((set s).ends c).head?.bind fun e => (q.ends e).head? := by
    simp only [ends, head?_distinct]
    cases c.next? with
    | none => rfl
    | some next => cases hx : s.mem next.1 <;> simp [hx]
  rw [hends, Option.bind_eq_some_iff]
  constructor
  · rintro ⟨e, he, hd⟩
    obtain ⟨he, -, ⟨x, rfl, hx⟩, hrest⟩ := (means_set s c e).1 he
    obtain ⟨hd, rest, hr, hrest'⟩ := (hq e d).1 hd
    exact ⟨he.trans hd, x :: rest, ⟨x, rest, rfl, hx, hr⟩, by rw [hrest, hrest']; rfl⟩
  · rintro ⟨hd, -, ⟨x, rest, rfl, hx, hr⟩, hrest⟩
    obtain ⟨e, he, herest, -⟩ := Reaches.exists_of_rest [x] hrest
    obtain ⟨d', hd', hrest', -⟩ := Reaches.exists_of_rest rest herest
    obtain rfl := (he.trans hd').unique hd hrest'
    refine ⟨e, (means_set s c e).2 ⟨he, [x], ⟨x, rfl, hx⟩, ?_⟩, (hq e d').2 ⟨hd', rest, hr, herest⟩⟩
    rw [herest]
    exact hrest

/-- Some characters, and then what a pattern matches. -/
theorem Means.literal (hq : q.Means texts) : ∀ cs : List Char,
    (cs.foldr (fun c p => .seq (.set (.singleton c)) p) q).Means fun part =>
      ∃ rest, part = cs ++ rest ∧ texts rest
  | [] => hq.congr fun part => by simp
  | c :: cs => by
    refine ((Means.literal hq cs).behind (.singleton c)).congr fun part => ?_
    simp only [Charset.mem_singleton, decide_eq_true_eq]
    constructor
    · rintro ⟨x, -, rfl, rfl, rest, rfl, h⟩
      exact ⟨rest, rfl, h⟩
    · rintro ⟨rest, rfl, h⟩
      exact ⟨c, cs ++ rest, rfl, rfl, rest, rfl, h⟩

/-- Of two patterns the first is preferred, which makes no difference if no text begins with what both
match. -/
theorem Means.alt (hp : p.Means texts) (hq : q.Means texts')
    (hne : ∀ a b as bs, texts a → texts' b → a ++ as ≠ b ++ bs) :
    (alt p q).Means fun part => texts part ∨ texts' part := by
  intro c d
  have hends : ((Pattern.alt p q).ends c).head? = (p.ends c).head?.or (q.ends c).head? := by
    rw [ends, List.head?_append]
  rw [hends, Option.or_eq_some_iff, hp c d, hq c d]
  constructor
  · rintro (⟨hd, part, h, hrest⟩ | ⟨-, hd, part, h, hrest⟩)
    · exact ⟨hd, part, .inl h, hrest⟩
    · exact ⟨hd, part, .inr h, hrest⟩
  · rintro ⟨hd, part, h | h, hrest⟩
    · exact .inl ⟨hd, part, h, hrest⟩
    · refine .inr ⟨?_, hd, part, h, hrest⟩
      rw [Option.eq_none_iff_forall_ne_some]
      intro e he
      obtain ⟨-, part', h', hrest'⟩ := (hp c e).1 he
      exact hne part' part e.rest d.rest h' h (hrest'.symm.trans hrest)

end Pattern

/-- The tags of doc comments that `builtinRules` are about. -/
inductive DocTag where
  | param
  | ret
  | returns
  | throws
  deriving Repr, DecidableEq

namespace DocTag

/-- The tags in the order of their rules. -/
def all : List DocTag := [param, ret, returns, throws]

def message : DocTag → String
  | param => "@param should be followed by 2 spaces"
  | ret => "@return should be followed by 1 space"
  | returns => "Use @return instead of @returns"
  | throws => "@throws should be followed by 1 space"

/-- The rule of `builtinRules` about a tag. -/
def rule : DocTag → Rule
  | param => builtinRules.get ⟨0, by decide⟩
  | ret => builtinRules.get ⟨1, by decide⟩
  | returns => builtinRules.get ⟨2, by decide⟩
  | throws => builtinRules.get ⟨3, by decide⟩

def pattern (tag : DocTag) : Pattern := tag.rule.pattern

theorem rule_message (tag : DocTag) : tag.rule.message = tag.message := by
  cases tag <;> rfl

theorem map_rule_all : all.map rule = ({} : Registry).rules := rfl

/-- The texts that break the rule about a tag: behind `@param` stand two blanks, behind `@return`
and `@throws` one, and `@returns` is another tag misspelled. -/
inductive Breaks : DocTag → List Char → Prop
  | paramWord {x : Char} : Unicode.isBlank x = false → Breaks param ("@param ".toList ++ [x])
  | paramBlanks {x y : Char} : Unicode.isBlank x = true → Unicode.isBlank y = true →
      Breaks param ("@param ".toList ++ [x, y])
  | ret {x : Char} : Unicode.isBlank x = true → Breaks ret ("@return ".toList ++ [x])
  | returns : Breaks returns "@returns".toList
  | throws {x : Char} : Unicode.isBlank x = true → Breaks throws ("@throws ".toList ++ [x])

open Pattern (Means)

theorem means_blanks : (Pattern.set Unicode.blanks).Means fun part =>
    ∃ x, part = [x] ∧ Unicode.isBlank x = true :=
  Pattern.means_set Unicode.blanks

theorem means_pattern (tag : DocTag) : tag.pattern.Means tag.Breaks := by
  cases tag with
  | param =>
    have hword := Pattern.means_set Unicode.blanks.compl
    simp only [Unicode.mem_compl_blanks, Bool.not_eq_true'] at hword
    refine ((hword.alt (means_blanks.behind Unicode.blanks) ?_).grouped.literal _).congr fun part => ?_
    · rintro _ _ as bs ⟨x, rfl, hx⟩ ⟨y, rest, rfl, hy, -⟩ heq
      cases heq
      rw [Unicode.isBlank, hy] at hx
      cases hx
    · constructor
      · rintro ⟨_, rfl, ⟨x, rfl, hx⟩ | ⟨x, _, rfl, hx, y, rfl, hy⟩⟩
        · exact .paramWord hx
        · exact .paramBlanks hx hy
      · intro h
        cases h with
        | paramWord hx => exact ⟨_, rfl, .inl ⟨_, rfl, hx⟩⟩
        | paramBlanks hx hy => exact ⟨_, rfl, .inr ⟨_, _, rfl, hx, _, rfl, hy⟩⟩
  | ret =>
    refine (means_blanks.literal _).congr fun part => ?_
    constructor
    · rintro ⟨_, rfl, x, rfl, hx⟩
      exact .ret hx
    · intro h
      cases h with
      | ret hx => exact ⟨_, rfl, _, rfl, hx⟩
  | returns =>
    refine ((Pattern.means_set (.singleton 's')).literal "@return".toList).congr fun part => ?_
    simp only [Charset.mem_singleton, decide_eq_true_eq]
    constructor
    · rintro ⟨_, rfl, x, rfl, rfl⟩
      exact .returns
    · rintro ⟨⟩
      exact ⟨_, rfl, _, rfl, rfl⟩
  | throws =>
    refine (means_blanks.literal _).congr fun part => ?_
    constructor
    · rintro ⟨_, rfl, x, rfl, hx⟩
      exact .throws hx
    · intro h
      cases h with
      | throws hx => exact ⟨_, rfl, _, rfl, hx⟩

/-! ## Candidates -/

/-- `m` is a part of `text` that `Breaks` the rule about `tag`. -/
structure Candidate (tag : DocTag) (text : String) (m : Match) : Prop where
  message : m.message = tag.message
  sliced : slice? text.toList m.offset m.last = some m.matched.toList
  breaks : tag.Breaks m.matched.toList

variable {tag : DocTag} {text : String} {m m' : Match}

/-- The candidates are the places where the pattern matches, with what it prefers there. -/
theorem candidate_iff : tag.Candidate text m ↔ ∃ s : Pattern.Span,
    Reaches (.start text.toList) s.first ∧ (tag.pattern.ends s.first).head? = some s.last ∧
      m = tag.rule.matchOf s := by
  constructor
  · rintro ⟨hmessage, hsliced, hbreaks⟩
    obtain ⟨before, after, htext, hoffset, -⟩ := Slice.slice?_eq_some.1 hsliced
    rw [List.append_assoc] at htext
    obtain ⟨c, hc, hrest, hbefore⟩ := Reaches.exists_of_rest (c := .start text.toList) before htext
    obtain ⟨d, hd, hafter, -⟩ := Reaches.exists_of_rest m.matched.toList hrest
    have hpart : c.rest = m.matched.toList ++ d.rest := by rw [hrest, hafter]
    refine ⟨⟨c, d⟩, hc, (means_pattern tag c d).2 ⟨hd, _, hbreaks, hpart⟩, ?_⟩
    have hup : c.upTo d = m.matched.toList := by simp [Cursor.upTo, hpart]
    rw [Rule.matchOf, Pattern.Span.text, hup, String.ofList_toList, hbefore, hoffset]
    simp only [Cursor.start, Nat.zero_add]
    rw [rule_message, ← hmessage]
  · rintro ⟨s, hfirst, hlast, rfl⟩
    obtain ⟨hr, part, hbreaks, hrest⟩ := (means_pattern tag s.first s.last).1 hlast
    refine ⟨rule_message tag, Rule.slice?_matchOf hfirst hr, ?_⟩
    have hup : s.first.upTo s.last = part := by simp [Cursor.upTo, hrest]
    rwa [Rule.matchOf, Pattern.Span.text, hup, String.toList_ofList]

/-- At one place there is at most one candidate of a rule. -/
theorem Candidate.unique (h : tag.Candidate text m) (h' : tag.Candidate text m')
    (hoffset : m.offset = m'.offset) : m = m' := by
  obtain ⟨⟨c, d⟩, hc, hd, rfl⟩ := candidate_iff.1 h
  obtain ⟨⟨c', d'⟩, hc', hd', rfl⟩ := candidate_iff.1 h'
  have hoffset : c.offset = c'.offset := hoffset
  obtain rfl := (hc.of_offset_le hc' (Nat.le_of_eq hoffset)).eq_of_offset hoffset
  obtain rfl := Option.some.inj (hd.symm.trans hd')
  rfl

theorem Breaks.begins {part : List Char} (h : tag.Breaks part) : ∃ rest, part = '@' :: rest := by
  cases h <;> exact ⟨_, rfl⟩

/-- A second `@` lies behind what has none. -/
theorem cut_behind {front rest mid tail : List Char}
    (h : front ++ '@' :: rest = '@' :: mid ++ tail) (hmid : '@' ∉ mid) (hne : front ≠ []) :
    ∃ more, front = '@' :: mid ++ more ∧ tail = more ++ '@' :: rest := by
  rcases List.append_eq_append_iff.1 h with ⟨more, hmore, htail⟩ | ⟨more, hfront, htail⟩
  · obtain ⟨x, front, rfl⟩ := List.exists_cons_of_ne_nil hne
    obtain ⟨rfl, hmid'⟩ := List.cons.inj hmore
    cases more with
    | nil => exact ⟨[], by simp [hmid'], htail.symm⟩
    | cons y more =>
      obtain ⟨rfl, -⟩ := List.cons.inj htail
      exact absurd (by simp [hmid']) hmid
  · exact ⟨more, hfront, htail⟩

/-- A further `@` is only there as the character behind `@param `. -/
theorem Breaks.further {front rest : List Char} (h : tag.Breaks (front ++ '@' :: rest))
    (hne : front ≠ []) : tag = .param ∧ front = "@param ".toList := by
  have hblank : ∀ {x : Char}, Unicode.isBlank x = true → '@' ≠ x := by
    rintro x hx rfl
    cases hx
  generalize hpart : front ++ '@' :: rest = part at h
  cases h with
  | paramWord hx =>
    obtain ⟨more, rfl, htail⟩ := cut_behind hpart (by decide) hne
    obtain ⟨rfl, -⟩ | ⟨_, rfl, h⟩ := List.cons_eq_append_iff.1 htail
    · exact ⟨rfl, rfl⟩
    · simp at h
  | @paramBlanks x y hx hy =>
    obtain ⟨more, -, htail⟩ := cut_behind hpart (by decide) hne
    have hmem : '@' ∈ [x, y] := by simp [htail]
    simp [hblank hx, hblank hy] at hmem
  | @ret x hx | @throws x hx =>
    obtain ⟨more, -, htail⟩ := cut_behind hpart (by decide) hne
    have hmem : '@' ∈ [x] := by simp [htail]
    simp [hblank hx] at hmem
  | returns =>
    have hpart : front ++ '@' :: rest = '@' :: "returns".toList ++ [] := hpart
    obtain ⟨more, -, htail⟩ := cut_behind hpart (by decide) hne
    simp at htail

/-- A candidate is longer than a tag. -/
theorem Candidate.last_lt (h : param.Candidate text m) : m.offset + 7 < m.last := by
  have hbreaks := h.breaks
  have htag : (bytes "@param ".toList).length = 7 := by decide
  rw [Match.last, ← length_bytes_toList]
  generalize m.matched.toList = part at hbreaks
  cases hbreaks with
  | @paramWord x hx =>
    have := Char.utf8Size_pos x
    rw [Slice.length_bytes_append, Slice.length_bytes_cons, htag]
    omega
  | @paramBlanks x y hx hy =>
    have := Char.utf8Size_pos x
    rw [Slice.length_bytes_append, Slice.length_bytes_cons, htag]
    omega

/-- Two candidates of a rule overlap only if the second begins at the character that is one too many
for the first. -/
theorem overlap (h : tag.Candidate text m) (h' : tag.Candidate text m') (hlt : m'.offset < m.offset)
    (hin : m.offset < m'.last) : tag = .param ∧ m'.offset + 7 = m.offset := by
  obtain ⟨⟨c, d⟩, hc, hd, rfl⟩ := candidate_iff.1 h
  obtain ⟨⟨c', d'⟩, hc', hd', rfl⟩ := candidate_iff.1 h'
  obtain ⟨hcd, part, hpart, hrest⟩ := (means_pattern tag c d).1 hd
  obtain ⟨hcd', part', hpart', hrest'⟩ := (means_pattern tag c' d').1 hd'
  rw [Rule.last_matchOf hcd'] at hin
  have hlt : c'.offset < c.offset := hlt
  have hin : c.offset < d'.offset := hin
  obtain ⟨front, hfront, hoffset, -⟩ := (hc'.of_offset_le hc (Nat.le_of_lt hlt)).exists_part
  obtain ⟨more, hmore, hoffset', -⟩ :=
    (hc.of_offset_le (hc'.trans hcd') (Nat.le_of_lt hin)).exists_part
  obtain ⟨part, rfl⟩ := hpart.begins
  cases more with
  | nil => 
    rw [hoffset'] at hin
    exact absurd hin (Nat.lt_irrefl _)
  | cons x more =>
    obtain ⟨rfl, -⟩ := List.cons.inj (hmore.symm.trans hrest)
    have hparts : part' = front ++ '@' :: more := by
      rw [hmore, ← List.append_assoc, hrest'] at hfront
      exact List.append_cancel_right hfront
    rw [hparts] at hpart'
    obtain ⟨htag, rfl⟩ := hpart'.further fun hnil => by
      rw [hoffset, hnil] at hlt
      exact absurd hlt (Nat.lt_irrefl _)
    exact ⟨htag, hoffset.symm⟩

/-! ## What is found -/

/-- The matches in `text` of the rule about `tag`. -/
def group (tag : DocTag) (text : String) : List Match := tag.rule.hits .allOccurrences text

theorem group_hits (tag : DocTag) (text : String) : Group text tag.rule (tag.group text) :=
  Rule.group_hits tag.rule text

theorem candidate_of_mem_group (h : m ∈ tag.group text) : tag.Candidate text m := by
  obtain ⟨s, hs, rfl⟩ := List.mem_map.1 h
  obtain ⟨hfirst, hlast⟩ := Pattern.mem_findAll hs
  exact candidate_iff.2 ⟨s, hfirst, hlast, rfl⟩

/-- A candidate is a match or lies within one. -/
theorem Candidate.found (h : tag.Candidate text m) :
    ∃ m' ∈ tag.group text, m'.offset ≤ m.offset ∧ (m = m' ∨ m.offset < m'.last) := by
  obtain ⟨⟨c, d⟩, hc, hd, rfl⟩ := candidate_iff.1 h
  obtain ⟨m', hm', hbegun, hreaches⟩ := (group_hits tag text).covers c d hc hd
  refine ⟨m', hm', hbegun, ?_⟩
  rcases hreaches with hsame | hin | ⟨-, rfl⟩
  · exact .inl (h.unique (candidate_of_mem_group hm') hsame)
  · exact .inr hin
  · -- A candidate is not empty.
    obtain ⟨-, part, hpart, hrest⟩ := (means_pattern tag d d).1 hd
    obtain ⟨rest, rfl⟩ := hpart.begins
    have hlength := congrArg List.length hrest
    rw [List.length_append, List.length_cons] at hlength
    omega

/-- What is reported of the candidates: all but those at the character that is one too many for one
that is reported. -/
theorem mem_group_iff : m ∈ tag.group text ↔
    tag.Candidate text m ∧ (tag = .param → ∀ m' ∈ tag.group text, m'.offset + 7 ≠ m.offset) := by
  constructor
  · refine fun h => ⟨candidate_of_mem_group h, ?_⟩
    rintro rfl m' hm' hoffset
    have hlong := (candidate_of_mem_group hm').last_lt
    have hapart := (group_hits .param text).last_le hm' h (by omega)
    omega
  · rintro ⟨h, hapart⟩
    obtain ⟨m', hm', hbegun, rfl | hin⟩ := h.found
    · exact hm'
    · rcases Nat.lt_or_eq_of_le hbegun with hlt | hsame
      · obtain ⟨htag, hoffset⟩ := overlap h (candidate_of_mem_group hm') hlt hin
        exact absurd hoffset (hapart htag m' hm')
      · rwa [h.unique (candidate_of_mem_group hm') hsame.symm]

/-- The first match is the candidate with the least offset. -/
theorem head?_group_eq_some : (tag.group text).head? = some m ↔
    tag.Candidate text m ∧ ∀ m', tag.Candidate text m' → m.offset ≤ m'.offset := by
  have hleast : ∀ {m₀}, (tag.group text).head? = some m₀ →
      ∀ m', tag.Candidate text m' → m₀.offset ≤ m'.offset := by
    intro m₀ h m' h'
    obtain ⟨m'', hm'', hbegun, -⟩ := h'.found
    exact Nat.le_trans ((group_hits tag text).head_le h hm'') hbegun
  constructor
  · exact fun h => ⟨candidate_of_mem_group (List.mem_of_mem_head? h), hleast h⟩
  · rintro ⟨h, hmin⟩
    obtain ⟨m', hm', -⟩ := h.found
    cases hhead : (tag.group text).head? with
    | none =>
      rw [List.head?_eq_none_iff.1 hhead] at hm'
      cases hm'
    | some m₀ =>
      have h₀ := candidate_of_mem_group (List.mem_of_mem_head? hhead)
      rw [h.unique h₀ (Nat.le_antisymm (hmin _ h₀) (hleast hhead _ h))]

/-- What the built-in rules, which are what their declared forms compile to, find in a text: for each
tag, in the order of the rules, matches in ascending order. A scan for first matches lists the first
candidate of each rule that has one. A scan for every occurrence lists all candidates, but of those
about `@param` none at the character that is one too many for one that is listed. -/
theorem scan_builtin (text : String) :
    (Rule.compileAll Rule.builtinSources).toOption = some ({} : Registry).rules ∧
    ∃ group : DocTag → List Match,
      scan text ({} : Registry).rules .allOccurrences = all.flatMap group ∧
      scan text ({} : Registry).rules .firstMatch = all.filterMap (fun tag => (group tag).head?) ∧
      ∀ tag,
        (group tag).Pairwise (fun a b => a.offset < b.offset) ∧
        (∀ m, (group tag).head? = some m ↔
          tag.Candidate text m ∧ ∀ m', tag.Candidate text m' → m.offset ≤ m'.offset) ∧
        ∀ m, m ∈ group tag ↔ tag.Candidate text m ∧
          (tag = .param → ∀ m' ∈ group tag, m'.offset + 7 ≠ m.offset) := by
  refine ⟨compile_builtins, fun tag => tag.group text, ?_, ?_, fun tag => ⟨?_, ?_, ?_⟩⟩
  · rw [← map_rule_all]
    exact List.flatMap_map ..
  · rw [← map_rule_all, scan_firstMatch]
    exact List.filterMap_map ..
  · exact tag.rule.hits_ascending .allOccurrences text
  · exact fun m => head?_group_eq_some
  · exact fun m => mem_group_iff

/-- Of tags in a row every other one is reported. -/
example : (group .param "@param @param @param @param x").map Match.offset = [0, 14] := by
  decide +kernel

end DocTag

end BuildGate
