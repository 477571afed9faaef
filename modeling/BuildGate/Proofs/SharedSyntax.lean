import BuildGate.Proofs.ExcludedComponents
import BuildGate.Proofs.RootedPatterns
import Mathlib.Data.List.Chain

/-!
# Patterns that both readers know

A pattern for files and one that takes files away are read by different readers. Components that are
spelled with characters that mean nothing special to either of them, with stars, question marks,
classes of such characters and `**` are read by both, and come to the same components.

**Results.**
* `readClass_text`, `readRanges_text`: classes are read alike.
* `Spelled.read`: a component is read by the reader of patterns for files.
* `leads_behind`: components behind a slash are read by the other reader.
* `readComponents_patternText`, `read_patternText`: both readings of a pattern.
-/
namespace BuildGate.Glob

/-! ## Texts of patterns -/

namespace Include

def rangeText (r : Char × Char) : List Char := if r.1 = r.2 then [r.1] else [r.1, '-', r.2]

def tokenText : Include → List Char
  | .char c => [c]
  | .any => ['?']
  | .many => ['*']
  | .recursive => ['*', '*']
  | .cls negated ranges =>
    '[' :: ((if negated then ['!'] else []) ++ (ranges.flatMap rangeText ++ [']']))

def componentText (ts : List Include) : List Char := ts.flatMap tokenText

/-- The text of `comps`, with two stars behind them if `below`. -/
def patternText (comps : List (List Include)) (below : Bool) : List Char :=
  Path.joinSlash (comps.map componentText) ++ if below then ['/', '*', '*'] else []

/-- `c` stands for itself in the classes of both kinds of patterns. -/
def IsPlainInClass (c : Char) : Prop := c ∉ ['!', '^', '-', ']', '/']

instance (c : Char) : Decidable (IsPlainInClass c) := inferInstanceAs (Decidable (¬ _))

/-- Ranges in ascending order whose ends are `IsPlainInClass`. -/
def PlainRanges (ranges : List (Char × Char)) : Prop :=
  ∀ r ∈ ranges, IsPlainInClass r.1 ∧ IsPlainInClass r.2 ∧ r.1 ≤ r.2

/-- A token that both readers take for what it is. -/
def IsSpelled : Include → Prop
  | .char c => c ∉ ['?', '*', '[', '\x7b', '\x7d', '\\', '/']
  | .any | .many => True
  | .recursive => False
  | .cls _ ranges => ranges ≠ [] ∧ PlainRanges ranges

instance : DecidablePred IsSpelled
  | .char c => inferInstanceAs (Decidable (c ∉ _))
  | .any | .many => isTrue trivial
  | .recursive => isFalse id
  | .cls _ ranges => inferInstanceAs (Decidable (ranges ≠ [] ∧ ∀ r ∈ ranges, _))

/-- A component whose tokens both readers take for what they are: no two stars come together in it.
-/
structure Spelled (ts : List Include) : Prop where
  tokens : ∀ t ∈ ts, IsSpelled t
  stars : ts.IsChain fun a b => a = .many → b ≠ .many

instance : DecidablePred Spelled := fun ts =>
  decidable_of_iff ((∀ t ∈ ts, IsSpelled t) ∧ ts.IsChain fun a b => a = .many → b ≠ .many)
    ⟨fun h => ⟨h.1, h.2⟩, fun h => ⟨h.tokens, h.stars⟩⟩

theorem Spelled.not_recursive {ts : List Include} (h : Spelled ts) : isRecursive ts = false := by
  rw [isRecursive, beq_eq_false_iff_ne]
  rintro rfl
  exact h.tokens .recursive List.mem_cons_self

/-- Components that are `**` or `Spelled`, the last of which is `Spelled`. -/
structure AllSpelled (comps : List (List Include)) : Prop where
  words : ∀ ts ∈ comps, ts = [.recursive] ∨ Spelled ts
  last : ∀ ts ∈ comps.getLast?, Spelled ts

theorem AllSpelled.of_cons {ts : List Include} {comps : List (List Include)}
    (h : AllSpelled (ts :: comps)) : AllSpelled comps where
  words := fun us hus => h.words us (List.mem_cons_of_mem _ hus)
  last := fun us hus => h.last us (by
    cases comps with
    | nil => cases hus
    | cons => rwa [List.getLast?_cons_cons])

theorem AllSpelled.ne_nil_of_recursive {comps : List (List Include)}
    (h : AllSpelled ([.recursive] :: comps)) : comps ≠ [] := by
  rintro rfl
  have := (h.last [.recursive] rfl).not_recursive
  cases this

section
variable {ranges : List (Char × Char)}

/-! ## Classes -/

theorem rangesOf_text (h : PlainRanges ranges) :
    rangesOf (ranges.flatMap rangeText) = ranges := by
  induction ranges with
  | nil => rfl
  | cons r ranges ih =>
    rw [PlainRanges, List.forall_mem_cons] at h
    have hrest := ih h.2
    obtain ⟨lo, hi⟩ := r
    rw [List.flatMap_cons, rangeText]
    split
    next heq =>
      obtain rfl : lo = hi := heq
      have hdash : ∀ hi' rest, ranges.flatMap rangeText ≠ '-' :: hi' :: rest := by
        intro hi' rest htext
        cases ranges with
        | nil => cases htext
        | cons r ranges =>
          have hr := (List.forall_mem_cons.1 h.2).1.1
          rw [List.flatMap_cons, rangeText] at htext
          split at htext
          all_goals
            rw [List.cons_append] at htext
            rw [(List.cons.inj htext).1] at hr
            exact absurd hr (by decide)
      rw [List.singleton_append, rangesOf, hrest]
      intro hi' rest heq
      exact hdash hi' rest heq
    next hne => rw [List.cons_append, List.cons_append, List.singleton_append, rangesOf, hrest]

/-- The first character of a class, and no other closes it. -/
theorem rangesText_chars (h : PlainRanges ranges) :
    ∀ c ∈ ranges.flatMap rangeText, c = '-' ∨ IsPlainInClass c := by
  intro c hc
  obtain ⟨r, hr, hc⟩ := List.mem_flatMap.1 hc
  obtain ⟨hlo, hhi, -⟩ := h r hr
  unfold rangeText at hc
  split at hc
  · rw [List.mem_singleton.1 hc]
    exact .inr hlo
  · simp only [List.mem_cons, List.not_mem_nil, or_false] at hc
    obtain rfl | rfl | rfl := hc
    · exact .inr hlo
    · exact .inl rfl
    · exact .inr hhi

theorem exists_rangesText (hne : ranges ≠ []) (h : PlainRanges ranges) :
    ∃ first more, ranges.flatMap rangeText = first :: more ∧ IsPlainInClass first := by
  obtain ⟨r, rest, rfl⟩ := List.exists_cons_of_ne_nil hne
  have hr := (List.forall_mem_cons.1 h).1.1
  rw [List.flatMap_cons, rangeText]
  split
  · exact ⟨_, _, rfl, hr⟩
  · exact ⟨_, _, rfl, hr⟩

/-- What a class is read as from where its ranges begin. -/
def classFrom (negated : Bool) : List Char → Option (Include × List Char)
  | [] => none
  | first :: more =>
    match more.dropWhile (· != ']') with
    | [] => none
    | _ :: after => some (.cls negated (rangesOf (first :: more.takeWhile (· != ']'))), after)

theorem readClass_mark (body : List Char) : readClass ('!' :: body) = classFrom true body := by
  cases body <;> rfl

theorem readClass_no_mark {first : Char} (h : first ≠ '!') (more : List Char) :
    readClass (first :: more) = classFrom false (first :: more) := by
  unfold readClass
  split
  next negated body heq =>
    split at heq
    next hmark => exact absurd (List.cons.inj hmark).1 h
    next =>
      cases heq
      rfl

theorem readClass_text (negated : Bool) (hne : ranges ≠ []) (h : PlainRanges ranges)
    (after : List Char) :
    readClass ((if negated then ['!'] else []) ++ (ranges.flatMap rangeText ++ ']' :: after)) =
      some (.cls negated ranges, after) := by
  obtain ⟨first, more, htext, hfirst⟩ := exists_rangesText hne h
  have hmore : ∀ c ∈ more, (c != ']') = true := by
    intro c hc
    have hchar := rangesText_chars h c (by rw [htext]; exact List.mem_cons_of_mem _ hc)
    rw [bne_iff_ne]
    rintro rfl
    revert hchar
    decide
  have hbang : first ≠ '!' := by
    rintro rfl
    exact absurd hfirst (by decide)
  have hmark : readClass ((if negated then ['!'] else []) ++ (first :: more ++ ']' :: after)) =
      classFrom negated (first :: more ++ ']' :: after) := by
    cases negated with
    | true => exact readClass_mark _
    | false => exact readClass_no_mark hbang _
  rw [htext, hmark, List.cons_append, classFrom]
  rw [List.dropWhile_append_of_pos hmore, List.takeWhile_append_of_pos hmore,
    List.dropWhile_cons_of_neg (by simp), List.takeWhile_cons_of_neg (by simp), List.append_nil,
    ← htext, rangesOf_text h]

end

/-! ## Components -/

theorem tokenText_ne_nil (t : Include) : tokenText t ≠ [] := by
  cases t <;> exact List.cons_ne_nil _ _

theorem Spelled.of_cons {t : Include} {ts : List Include} (h : Spelled (t :: ts)) : Spelled ts where
  tokens := fun u hu => h.tokens u (List.mem_cons_of_mem _ hu)
  stars := h.stars.tail

/-- What stands behind a star begins with no star. -/
theorem Spelled.no_star {ts : List Include} (h : Spelled (.many :: ts)) :
    ∀ c ∈ (componentText ts).head?, c ≠ '*' := by
  cases ts with
  | nil => exact fun c hc => by cases hc
  | cons t ts =>
    have hstar : t ≠ .many := (List.isChain_cons_cons.1 h.stars).1 rfl
    have ht := h.tokens t (by simp)
    intro c hc
    cases t with
    | char d =>
      obtain rfl : d = c := by simpa [componentText, tokenText] using hc
      rintro rfl
      exact absurd ht (by decide)
    | any =>
      obtain rfl : '?' = c := by simpa [componentText, tokenText] using hc
      decide
    | many => exact absurd rfl hstar
    | recursive => exact ht.elim
    | cls negated ranges =>
      obtain rfl : '[' = c := by simpa [componentText, tokenText] using hc
      decide

theorem takeWhile_no_star {cs : List Char} (h : ∀ c ∈ cs.head?, c ≠ '*') :
    cs.takeWhile (· == '*') = [] ∧ cs.dropWhile (· == '*') = cs := by
  cases cs with
  | nil => exact ⟨rfl, rfl⟩
  | cons c cs =>
    have hc : ¬ (c == '*') = true := by simpa using h c rfl
    exact ⟨List.takeWhile_cons_of_neg hc, List.dropWhile_cons_of_neg hc⟩

theorem readTokens_componentText {ts : List Include} (h : Spelled ts) {fuel : Nat}
    (hfuel : (componentText ts).length < fuel) (pos : Nat) (before : Option Char) :
    readTokens fuel pos before (componentText ts) = .ok ts := by
  induction ts generalizing fuel pos before with
  | nil =>
    cases fuel with
    | zero => cases hfuel
    | succ fuel => rfl
  | cons t ts ih =>
    have htext : componentText (t :: ts) = tokenText t ++ componentText ts := List.flatMap_cons
    rw [htext, List.length_append] at hfuel
    have hlength := List.length_pos_iff.2 (tokenText_ne_nil t)
    obtain ⟨fuel, rfl⟩ := Nat.exists_eq_add_of_le' (show 1 ≤ fuel by omega)
    have hrest : ∀ pos before, readTokens fuel pos before (componentText ts) = .ok ts :=
      ih h.of_cons (by omega)
    have ht := h.tokens t List.mem_cons_self
    rw [htext]
    cases t with
    | char c =>
      have hplain : Plain c := fun hc => ht (by revert hc; simp +contextual; tauto)
      rw [tokenText, List.singleton_append, readTokens_plain_cons hplain, hrest]
      rfl
    | any =>
      rw [tokenText, List.singleton_append, readTokens, hrest]
      rfl
    | many =>
      obtain ⟨htake, hdrop⟩ := takeWhile_no_star h.no_star
      rw [tokenText, List.singleton_append, readTokens]
      simp only [htake, hdrop, List.length_nil, hrest]
      rfl
    | recursive => exact ht.elim
    | cls negated ranges =>
      have hclass := readClass_text negated ht.1 ht.2 (componentText ts)
      rw [tokenText, List.cons_append, List.append_assoc, List.append_assoc, List.singleton_append,
        readTokens]
      simp only [hclass, hrest]
      rfl

/-- A component is read as it is spelled. -/
theorem Spelled.read {ts : List Include} (h : Spelled ts) :
    Include.read (String.ofList (componentText ts)) = .ok ts := by
  rw [Include.read, String.toList_ofList]
  exact readTokens_componentText h (Nat.lt_succ_self _) 0 none

/-! ## Components -/

theorem componentText_no_slash {ts : List Include} (h : Spelled ts) : '/' ∉ componentText ts := by
  intro hmem
  obtain ⟨t, ht, hmem⟩ := List.mem_flatMap.1 hmem
  have hspelled := h.tokens t ht
  cases t with
  | char c =>
    rw [tokenText, List.mem_singleton] at hmem
    subst hmem
    exact absurd hspelled (by decide)
  | any | many => simp [tokenText] at hmem
  | recursive => exact hspelled
  | cls negated ranges =>
    have hranges : '/' ∉ ranges.flatMap rangeText := fun hslash => by
      have := rangesText_chars hspelled.2 '/' hslash
      revert this
      decide
    rw [tokenText] at hmem
    cases negated <;> simp [hranges] at hmem

/-- What is read of a pattern, where two stars at the end are a component more. -/
theorem readComponents_patternText {comps : List (List Include)} (h : AllSpelled comps)
    (hne : comps ≠ []) (below : Bool) :
    readComponents (Path.splitSlash (patternText comps below)) =
      .ok (comps ++ if below then [[.recursive]] else []) := by
  have hslash : ∀ n ∈ comps.map componentText, '/' ∉ n := by
    intro n hn
    obtain ⟨ts, hts, rfl⟩ := List.mem_map.1 hn
    rcases h.words ts hts with rfl | hts
    · decide
    · exact componentText_no_slash hts
  have hsplit := Path.splitSlash_joinSlash (by simpa using hne) hslash
  have hread : readComponents (comps.map componentText) = .ok comps := by
    have hwords := h.words
    clear hne hslash hsplit h
    induction comps with
    | nil => rfl
    | cons ts comps ih =>
      rw [List.forall_mem_cons] at hwords
      have hts : Include.read (String.ofList (componentText ts)) = .ok ts := by
        rcases hwords.1 with rfl | hts
        · rfl
        · exact hts.read
      rw [List.map_cons, readComponents, hts, ih hwords.2]
      rfl
  rw [patternText]
  cases below with
  | false =>
    rw [if_neg (by simp), if_neg (by simp), List.append_nil, List.append_nil, hsplit, hread]
  | true =>
    rw [if_pos rfl, if_pos rfl, Path.splitSlash_append, hsplit, readComponents_append, hread]
    rfl

end Include

namespace Exclude

open Include

theorem readRanges_text {ranges : List (Char × Char)} (h : PlainRanges ranges)
    (after : List Char) :
    ∀ (isFirst : Bool) (acc : List (Char × Char)), (isFirst = true → ranges ≠ []) →
      readRanges isFirst false acc (ranges.flatMap rangeText ++ ']' :: after) =
        .ok (ranges.reverse ++ acc, after) := by
  induction ranges with
  | nil =>
    intro isFirst acc hfirst
    have hfirst : isFirst = false := by simpa using hfirst
    subst hfirst
    rfl
  | cons r ranges ih =>
    intro isFirst acc _
    rw [PlainRanges, List.forall_mem_cons] at h
    obtain ⟨⟨hlo, hhi, hle⟩, h⟩ := h
    obtain ⟨lo, hi⟩ := r
    have hplain : ∀ c : Char, IsPlainInClass c → c ≠ ']' ∧ c ≠ '-' := by
      intro c hc
      constructor <;> (rintro rfl; exact absurd hc (by decide))
    have hread : ∀ rest, readRanges isFirst false acc (lo :: rest) =
        readRanges false false ((lo, lo) :: acc) rest := by
      intro rest
      conv_lhs => rw [readRanges.eq_def]
      simp [hplain lo hlo]
    rw [List.flatMap_cons, rangeText]
    split
    next heq =>
      obtain rfl : lo = hi := heq
      rw [List.singleton_append, List.cons_append, hread, ih h false _ (by simp)]
      simp
    next hne =>
      have hrange : ∀ rest, readRanges false false ((lo, lo) :: acc) ('-' :: hi :: rest) =
          readRanges false false ((lo, hi) :: acc) rest := by
        intro rest
        have hdash : readRanges false false ((lo, lo) :: acc) ('-' :: hi :: rest) =
            readRanges false true ((lo, lo) :: acc) (hi :: rest) := rfl
        have hnlt : ¬ hi < lo := Char.not_lt.2 hle
        rw [hdash]
        conv_lhs => rw [readRanges.eq_def]
        simp [hplain hi hhi, hnlt]
      rw [List.cons_append, List.cons_append, List.cons_append, List.singleton_append,
        List.cons_append, List.cons_append, hread, hrange, ih h false _ (by simp)]
      simp

/-! ## Tokens -/

/-- What stands behind a component: `cs` is empty or begins with a slash. -/
def EndsWord (cs : List Char) : Prop := ∀ c ∈ cs.head?, c = '/'

/-- A reader outside of braces, with `cs` to come and the tokens `b`. -/
def reading (before : Option Char) (cs : List Char) (b : List Exclude) : Reader :=
  { before, rest := cs, branches := [b] }

/-- `r` comes to `r'` in steps that each pass over a character. -/
def Leads (r r' : Reader) : Prop :=
  ∃ n, n + r'.rest.length ≤ r.rest.length ∧ ∀ fuel, readTokens (fuel + n) r = readTokens fuel r'

theorem Leads.refl (r : Reader) : Leads r r := ⟨0, by omega, fun _ => rfl⟩

theorem Leads.trans {r₁ r₂ r₃ : Reader} (h : Leads r₁ r₂) (h' : Leads r₂ r₃) : Leads r₁ r₃ := by
  obtain ⟨n, hn, hread⟩ := h
  obtain ⟨m, hm, hread'⟩ := h'
  exact ⟨m + n, by omega, fun fuel => by rw [← Nat.add_assoc, hread, hread']⟩

theorem Leads.of_step {r r' : Reader} (hrest : r'.rest.length < r.rest.length)
    (h : ∀ fuel, readTokens (fuel + 1) r = readTokens fuel r') : Leads r r' :=
  ⟨1, by omega, h⟩

/-- Where a reader comes to the end, it is done. -/
theorem Leads.read {r r' : Reader} (h : Leads r r') (hend : r'.rest = []) :
    readTokens (r.rest.length + 1) r = .ok r' := by
  obtain ⟨n, hn, hread⟩ := h
  obtain ⟨k, hk⟩ := Nat.exists_eq_add_of_le' (show n ≤ r.rest.length by omega)
  rw [show r.rest.length + 1 = k + 1 + n by omega, hread, readTokens.eq_def]
  simp only [hend]

/-- A text is read as the tokens with which its reader comes to the end. -/
theorem read_of_leads {text : String} {before : Option Char} {tokens : List Exclude}
    (h : Leads (reading none text.toList []) (reading before [] tokens)) :
    read text = .ok tokens.reverse := by
  have hread : readTokens (text.toList.length + 1) { rest := text.toList } =
      .ok (reading before [] tokens) := h.read rfl
  rw [read, hread]
  rfl

section
variable (before : Option Char) (cs : List Char) (b : List Exclude)

theorem leads_char {c : Char} (hc : c ∉ ['?', '*', '[', '\x7b', '\x7d', '\\']) :
    Leads (reading before (c :: cs) b) (reading (some c) cs (.literal c :: b)) := by
  refine .of_step (Nat.lt_succ_self _) fun fuel => ?_
  simp only [List.mem_cons, List.not_mem_nil, or_false, not_or] at hc
  obtain ⟨hany, hstar, hclass, hopen, hclose, hescape⟩ := hc
  by_cases hcomma : c = ','
  · rw [hcomma]
    rfl
  · conv_lhs => rw [readTokens.eq_def]
    simp only [reading]
    rfl

theorem leads_any : Leads (reading before ('?' :: cs) b) (reading (some '?') cs (.any :: b)) :=
  .of_step (Nat.lt_succ_self _) fun _ => rfl

theorem leads_star {cs : List Char} (hcs : ∀ c ∈ cs.head?, c ≠ '*') :
    Leads (reading before ('*' :: cs) b) (reading (some '*') cs (.many :: b)) := by
  refine .of_step (Nat.lt_succ_self _) fun fuel => ?_
  have hstar : readStar (reading before cs b) = reading (some '*') cs (.many :: b) := by
    unfold readStar
    split
    next rest heq => exact absurd rfl (hcs '*' (by rw [show cs = '*' :: rest from heq]; rfl))
    next => rfl
  rw [← hstar]
  rfl

/-- Whether a class is negated, and its ranges with what follows. -/
def classBody : List Char → Bool × List Char
  | '!' :: body => (true, body)
  | '^' :: body => (true, body)
  | body => (false, body)

theorem readTokens_open (fuel : Nat) : readTokens (fuel + 1) (reading before ('[' :: cs) b) =
    match readRanges true false [] (classBody cs).2 with
    | .error e => .error e
    | .ok (ranges, rest) =>
      readTokens fuel (reading (some ']') rest (.cls (classBody cs).1 ranges.reverse :: b)) := rfl

theorem classBody_of_first {first : Char} (h : IsPlainInClass first) :
    classBody (first :: cs) = (false, first :: cs) := by
  unfold classBody
  split
  next heq =>
    rw [(List.cons.inj heq).1] at h
    exact absurd h (by decide)
  next heq =>
    rw [(List.cons.inj heq).1] at h
    exact absurd h (by decide)
  next => rfl

theorem leads_class {ranges : List (Char × Char)} (negated : Bool) (hne : ranges ≠ [])
    (h : PlainRanges ranges) : Leads (reading before (tokenText (.cls negated ranges) ++ cs) b)
      (reading (some ']') cs (.cls negated ranges :: b)) := by
  obtain ⟨first, more, htext, hfirst⟩ := exists_rangesText hne h
  have hbody : classBody ((if negated then ['!'] else []) ++ (ranges.flatMap rangeText ++ ']' :: cs)) =
      (negated, ranges.flatMap rangeText ++ ']' :: cs) := by
    cases negated with
    | true => rfl
    | false =>
      rw [if_neg (by simp), List.nil_append, htext, List.cons_append]
      exact classBody_of_first _ hfirst
  refine .of_step ?_ fun fuel => ?_
  · simp only [reading, tokenText, List.length_append, List.length_cons]
    omega
  · rw [tokenText, List.cons_append, List.append_assoc, List.append_assoc, List.singleton_append,
      readTokens_open, hbody]
    simp only [readRanges_text h cs true [] fun _ => hne, List.append_nil, List.reverse_reverse]

/-- Two stars and a slash at the start. -/
theorem leads_recursive_first : Leads (reading none ('*' :: '*' :: '/' :: cs) [])
    (reading (some '/') cs [.recursivePrefix]) :=
  .of_step (by simp only [reading, List.length_cons]; omega) fun _ => rfl

/-- Two stars between slashes stand for the slash before them as well. -/
theorem leads_recursive_behind_slash :
    Leads (reading (some '/') ('*' :: '*' :: '/' :: cs) (.literal '/' :: b))
      (reading (some '/') cs (.recursiveInner :: b)) :=
  .of_step (by simp only [reading, List.length_cons]; omega) fun _ => rfl

/-- Two stars more add nothing. -/
theorem leads_recursive_again {x : Exclude} (hx : x = .recursiveInner ∨ x = .recursivePrefix) :
    Leads (reading (some '/') ('*' :: '*' :: '/' :: cs) (x :: b)) (reading (some '/') cs (x :: b)) :=
  .of_step (by simp only [reading, List.length_cons]; omega) fun _ => by
    rcases hx with rfl | rfl <;> rfl

theorem leads_recursive_last : Leads (reading before ['/', '*', '*'] b)
    (reading (some '*') [] (.recursiveSuffix :: b)) :=
  (leads_char before ['*', '*'] b (by decide)).trans
    (.of_step (by simp only [reading, List.length_cons, List.length_nil]; omega) fun _ => rfl)

end

/-! ## Components -/

theorem leads_component {ts : List Include} (h : Spelled ts) {cs : List Char} (hcs : EndsWord cs)
    (before : Option Char) (b : List Exclude) :
    ∃ before', Leads (reading before (componentText ts ++ cs) b)
      (reading before' cs ((ts.map ofInclude).reverse ++ b)) := by
  induction ts generalizing before b with
  | nil => exact ⟨before, .refl _⟩
  | cons t ts ih =>
    have htext : componentText (t :: ts) ++ cs = tokenText t ++ (componentText ts ++ cs) := by
      rw [componentText, List.flatMap_cons, List.append_assoc]
      rfl
    obtain ⟨mid, hmid⟩ : ∃ mid, Leads (reading before (tokenText t ++ (componentText ts ++ cs)) b)
        (reading mid (componentText ts ++ cs) (ofInclude t :: b)) := by
      have ht := h.tokens t List.mem_cons_self
      cases t with
      | char c => exact ⟨_, leads_char _ _ _ fun hc => ht (by revert hc; simp +contextual; tauto)⟩
      | any => exact ⟨_, leads_any _ _ _⟩
      | many =>
        refine ⟨_, leads_star _ _ fun c hc => ?_⟩
        have hc : c ∈ (componentText ts ++ cs).head? := hc
        rw [List.head?_append] at hc
        cases hhead : (componentText ts).head? with
        | some d =>
          rw [hhead] at hc
          exact h.no_star c (by rw [hhead]; exact hc)
        | none =>
          rw [hhead] at hc
          rw [hcs c hc]
          decide
      | recursive => exact ht.elim
      | cls negated ranges => exact ⟨_, leads_class _ _ _ negated ht.1 ht.2⟩
    obtain ⟨before', hbefore⟩ := ih h.of_cons mid (ofInclude t :: b)
    refine ⟨before', ?_⟩
    rw [htext, List.map_cons, List.reverse_cons, List.append_assoc]
    exact hmid.trans hbefore

/-- The text of components that come first in a pattern or behind a slash. -/
theorem joinSlash_cons (ts : List Include) (more : List (List Include)) (cs : List Char) :
    Path.joinSlash ((ts :: more).map componentText) ++ cs = componentText ts ++
      if more = [] then cs else '/' :: (Path.joinSlash (more.map componentText) ++ cs) := by
  rw [Path.joinSlash, List.map_cons]
  split
  next hmore =>
    rw [hmore, List.map_nil, List.intercalate_singleton]
  next hmore =>
    rw [List.intercalate_cons_of_ne_nil (by simpa using hmore)]
    simp [Path.joinSlash]

/-- A component that is spelled is read with those behind it, wherever it stands. -/
theorem leads_word {ts : List Include} (h : Spelled ts) {more : List (List Include)} {cs : List Char}
    (hcs : EndsWord cs) (hmore : more ≠ [] → ∀ b, ∃ before, Leads
      (reading (some '/') (Path.joinSlash (more.map componentText) ++ cs) (.literal '/' :: b))
      (reading before cs ((behind false more).reverse ++ b))) (start : Option Char) (b : List Exclude) :
    ∃ before, Leads (reading start (Path.joinSlash ((ts :: more).map componentText) ++ cs) b)
      (reading before cs ((ts.map ofInclude ++ behind false more).reverse ++ b)) := by
  rw [joinSlash_cons]
  by_cases hnil : more = []
  · obtain ⟨before, hleads⟩ := leads_component h hcs start b
    subst hnil
    exact ⟨before, by simpa [behind] using hleads⟩
  · have hslash : EndsWord ('/' :: (Path.joinSlash (more.map componentText) ++ cs)) :=
      fun c hc => (Option.some_inj.1 hc).symm
    obtain ⟨mid, hleads⟩ := leads_component h hslash start b
    obtain ⟨before, hrest⟩ := hmore hnil ((ts.map ofInclude).reverse ++ b)
    rw [if_neg hnil]
    refine ⟨before, hleads.trans ((leads_char mid _ _ (by decide)).trans ?_)⟩
    simpa using hrest

/-- Components behind a slash are read as the tokens for them, and so are those behind two stars,
which have passed that slash. -/
theorem leads_behind {comps : List (List Include)} (h : AllSpelled comps) (hne : comps ≠ [])
    {cs : List Char} (hcs : EndsWord cs) :
    (∀ b, ∃ before, Leads
      (reading (some '/') (Path.joinSlash (comps.map componentText) ++ cs) (.literal '/' :: b))
      (reading before cs ((behind false comps).reverse ++ b))) ∧
    ∀ x, x = .recursiveInner ∨ x = .recursivePrefix → ∀ b, ∃ before, Leads
      (reading (some '/') (Path.joinSlash (comps.map componentText) ++ cs) (x :: b))
      (reading before cs ((behind true comps).reverse ++ x :: b)) := by
  induction comps with
  | nil => exact absurd rfl hne
  | cons ts more ih =>
    rcases h.words ts List.mem_cons_self with rfl | hts
    · have hmore : more ≠ [] := h.ne_nil_of_recursive
      obtain ⟨-, hpassed⟩ := ih h.of_cons hmore
      have hrec : isRecursive [.recursive] = true := by decide
      rw [joinSlash_cons, if_neg hmore]
      constructor
      · intro b
        obtain ⟨before, hleads⟩ := hpassed .recursiveInner (.inl rfl) b
        refine ⟨before, (leads_recursive_behind_slash _ b).trans ?_⟩
        simpa [behind, hrec] using hleads
      · intro x hx b
        obtain ⟨before, hleads⟩ := hpassed x hx b
        refine ⟨before, (leads_recursive_again _ b hx).trans ?_⟩
        simpa [behind, hrec] using hleads
    · have hrec : isRecursive ts = false := hts.not_recursive
      have hword := leads_word hts hcs (fun hmore => (ih h.of_cons hmore).1) (some '/')
      constructor
      · intro b
        obtain ⟨before, hleads⟩ := hword (.literal '/' :: b)
        exact ⟨before, by simpa [behind, hrec] using hleads⟩
      · intro x _ b
        obtain ⟨before, hleads⟩ := hword (x :: b)
        exact ⟨before, by simpa [behind, hrec] using hleads⟩

/-- All components are read as the tokens for them. -/
theorem leads_ofComponents {comps : List (List Include)} (h : AllSpelled comps) (hne : comps ≠ [])
    {cs : List Char} (hcs : EndsWord cs) :
    ∃ before, Leads (reading none (Path.joinSlash (comps.map componentText) ++ cs) [])
      (reading before cs (ofComponents comps).reverse) := by
  obtain ⟨ts, more, rfl⟩ := List.exists_cons_of_ne_nil hne
  rcases h.words ts List.mem_cons_self with rfl | hts
  · have hmore : more ≠ [] := h.ne_nil_of_recursive
    obtain ⟨before, hleads⟩ := (leads_behind h.of_cons hmore hcs).2 .recursivePrefix (.inr rfl) []
    rw [joinSlash_cons, if_neg hmore]
    refine ⟨before, (leads_recursive_first _).trans ?_⟩
    simpa [ofComponents, show isRecursive [.recursive] = true by decide] using hleads
  · obtain ⟨before, hleads⟩ := leads_word hts hcs
      (fun hmore => (leads_behind h.of_cons hmore hcs).1) none []
    exact ⟨before, by simpa [ofComponents, hts.not_recursive] using hleads⟩

/-- What is read of a pattern, where two stars at the end stand for all that is below. -/
theorem read_patternText {comps : List (List Include)} (h : AllSpelled comps) (hne : comps ≠ [])
    (below : Bool) : read (String.ofList (patternText comps below)) =
      .ok (ofComponents comps ++ if below then [.recursiveSuffix] else []) := by
  have hleads : ∃ before, Leads (reading none (patternText comps below) [])
      (reading before [] (ofComponents comps ++
        if below then [Exclude.recursiveSuffix] else []).reverse) := by
    rw [patternText]
    cases below with
    | false =>
      have hend : EndsWord [] := fun c hc => by cases hc
      simpa using leads_ofComponents h hne hend
    | true =>
      have hslash : EndsWord ['/', '*', '*'] := fun c hc => (Option.some_inj.1 hc).symm
      obtain ⟨mid, hleads⟩ := leads_ofComponents h hne hslash
      exact ⟨_, by simpa using hleads.trans (leads_recursive_last mid _)⟩
  obtain ⟨before, hleads⟩ := hleads
  rw [← String.toList_ofList (l := patternText comps below)] at hleads
  rw [read_of_leads hleads, List.reverse_reverse]

end Exclude

end BuildGate.Glob
