import BuildGate.Data.Json.Printer
import BuildGate.Proofs.AscendingData
import BuildGate.Proofs.JsonTexts
import Mathlib.Data.List.TakeWhile

/-!
# Lines that are texts

A line is data of its own small grammar first, and a text only where it does not fit it. So a line
that is meant as a text may be read as a number, a list or a text in quotes. The lines that are read
as they stand are those that do not fit the grammar and the words: lines without marks that are no
numbers and no truth values and have no blanks around them. In quotes every text can be written.

**Results.**
* `read_ne_null`: no line says that nothing is there.
* `text?_read_iff`: the lines that are read as they stand.
* `read_inQuotes`: every text is what some line is read as.
-/
namespace BuildGate.Data

/-- The text that data is, if it is a `text` or a `char`. -/
def Datum.text? {τ : Type} : Datum τ → Option String
  | .scalar _ (.text s) => some s
  | .scalar _ (.char c) => some (toString c)
  | _ => none

theorem Datum.text?_retag {σ τ : Type} (t : τ) (d : Datum σ) : (d.retag t).text? = d.text? := by
  cases d with
  | scalar _ v => cases v <;> rfl
  | list => rfl
  | table => rfl

namespace Inline

open Reading

/-! ## What a line cannot say -/

theorem integer?_cases {word : String} {v : Scalar} (h : integer? word = some v) :
    (∃ i, v = .signed i) ∨ ∃ n, v = .unsigned n := by
  unfold integer? at h
  dsimp only at h
  split at h
  · obtain ⟨-, h⟩ := Option.ite_none_left_eq_some.1 h
    exact .inl ⟨_, (Option.some.inj h).symm⟩
  · obtain ⟨-, h⟩ := Option.ite_none_left_eq_some.1 h
    exact .inr ⟨_, (Option.some.inj h).symm⟩

/-- A word is a text or a number. -/
theorem ofWord_cases (word : String) : ofWord word = .text word ∨
    (Datum.scalar () (ofWord word)).text? = none ∧ ofWord word ≠ .null := by
  unfold ofWord
  dsimp only
  split
  · exact .inr ⟨rfl, fun h => by cases h⟩
  · cases h : integer? word with
    | none => exact .inl rfl
    | some v =>
      obtain ⟨i, rfl⟩ | ⟨n, rfl⟩ := integer?_cases h
      all_goals exact .inr ⟨rfl, fun h => by cases h⟩

theorem ofWord_ne_null (word : String) : ofWord word ≠ .null := by
  obtain h | ⟨-, h⟩ := ofWord_cases word
  · rw [h]
    exact fun h => by cases h
  · exact h

theorem core_ne_null (fuel : Nat) : Gives (core fuel) (· ≠ Plain.null) := by
  cases fuel with
  | zero =>
    rw [core]
    exact gives_refuse
  | succ fuel =>
    rw [core]
    refine .after fun b => ?_
    split
    · exact gives_pure fun h => by cases h
    refine .after fun b => ?_
    split
    · exact gives_pure fun h => by cases h
    refine .after fun c => ?_
    split
    · exact .after fun _ => .after fun es => gives_pure fun h => by cases h
    · exact .after fun _ => .after fun ds => gives_pure fun h => by cases h
    · exact .after fun s => gives_pure fun h => by cases h
    · exact .after fun _ => .after fun _ => .after fun _ => gives_pure fun h => by cases h
    · exact .after fun w => gives_pure fun h => ofWord_ne_null _ (Datum.scalar.inj h).2

theorem value_ne_null (fuel : Nat) : Gives (value fuel) (· ≠ Plain.null) := by
  cases fuel with
  | zero =>
    rw [value]
    exact gives_refuse
  | succ fuel =>
    rw [value]
    exact .after fun _ => .bind (core_ne_null fuel) fun d hd => .after fun _ => gives_pure hd

/-- No line says that nothing is there. -/
theorem read_ne_null (line : String) : read line ≠ Plain.null := by
  rw [read]
  cases h : read? line with
  | none => exact fun h => by cases h
  | some d => exact (value_ne_null _).whole h

/-! ## Texts in quotes -/

/-- How `c` is written in quotes. -/
def escape (c : Char) : List Char :=
  if c = '"' ∨ c = '\\' then ['\\', c]
  else if isPlain c then [c]
  else '\\' :: 'u' :: '0' :: '0' :: Json.byteText c.toNat

/-- `s` in quotes. -/
def inQuotes (s : String) : String := "\"" ++ String.ofList (s.toList.flatMap escape) ++ "\""

theorem codePoint_byteText {n : Nat} (h : n < 0x20 ∨ n = 0x7F) (rest : List Char) :
    codePoint 4 0 ('0' :: '0' :: Json.byteText n ++ rest) = some (Char.ofNat n, rest) := by
  obtain h | rfl := h
  · interval_cases n <;> rfl
  · rfl

theorem textTail_escape {fuel : Nat} {cs rest rest' : List Char} (c : Char)
    (h : textTail fuel rest = some (cs, rest')) :
    textTail (fuel + 1) (escape c ++ rest) = some (c :: cs, rest') := by
  have hbackslash : ∀ tail : List Char, (∀ rest, escaped (tail ++ rest) = some (c, rest)) →
      textTail (fuel + 1) ('\\' :: (tail ++ rest)) = some (c :: cs, rest') := by
    intro tail htail
    rw [textTail, bind_run (show next ('\\' :: (tail ++ rest)) = _ from rfl)]
    change (escaped >>= fun c => textTail fuel >>= fun cs => pure (c :: cs)) (tail ++ rest) = _
    rw [bind_run (htail rest), bind_run h]
    rfl
  unfold escape
  split
  next hmark =>
    refine hbackslash [c] fun rest => ?_
    obtain rfl | rfl := hmark <;> rfl
  next hmark =>
    rw [not_or] at hmark
    split
    next hplain =>
      rw [List.cons_append, List.nil_append, textTail,
        bind_run (show next (c :: rest) = _ from rfl)]
      split
      · exact absurd rfl hmark.1
      · exact absurd rfl hmark.2
      · rw [if_pos hplain, bind_run h]
        rfl
    next hplain =>
      refine hbackslash ('u' :: '0' :: '0' :: Json.byteText c.toNat) fun rest => ?_
      have hlow : c.toNat < 0x20 ∨ c.toNat = 0x7F := by
        simp only [isPlain, Bool.or_eq_true, beq_iff_eq, Bool.and_eq_true, decide_eq_true_eq,
          not_or, not_and, not_not] at hplain
        omega
      exact (codePoint_byteText hlow rest).trans (by rw [Char.ofNat_toNat])

theorem textTail_run {cs : List Char} {fuel : Nat} (hfuel : cs.length < fuel) (rest : List Char) :
    textTail fuel (cs.flatMap escape ++ '"' :: rest) = some (cs, rest) := by
  induction cs generalizing fuel with
  | nil =>
    obtain ⟨fuel, rfl⟩ := Nat.exists_eq_add_of_lt hfuel
    rfl
  | cons c cs ih =>
    cases fuel with
    | zero => cases hfuel
    | succ fuel =>
      rw [List.flatMap_cons, List.append_assoc]
      exact textTail_escape c (ih (Nat.lt_of_succ_lt_succ hfuel))

theorem quoted_run {s : String} {fuel : Nat} (hfuel : s.toList.length < fuel) (rest : List Char) :
    quoted fuel ('"' :: (s.toList.flatMap escape ++ '"' :: rest)) = some (s, rest) := by
  rw [quoted, bind_run (show char '"' ('"' :: _) = some ((), _) from rfl),
    bind_run (textTail_run hfuel rest), String.ofList_toList]
  rfl

theorem length_le_flatMap_escape (cs : List Char) : cs.length ≤ (cs.flatMap escape).length := by
  induction cs with
  | nil => exact le_rfl
  | cons c cs ih =>
    have hc : 0 < (escape c).length := by
      unfold escape
      split_ifs <;> exact Nat.succ_pos _
    rw [List.flatMap_cons, List.length_append, List.length_cons]
    omega

theorem blanks_run (cs : List Char) : blanks cs = some ((), cs.dropWhile isBlank) := rfl

/-- `core` of a value that is no truth value, by the character with which it begins. -/
def coreFrom (fuel : Nat) : Option Char → Reading Plain
  | some '\x7b' => do
    let _ ← next
    return Plain.ofEntries (← members fuel)
  | some '[' => do
    let _ ← next
    return Plain.ofList (← items fuel)
  | some '"' => do return Plain.ofText (← quoted fuel)
  | some '\'' => do
    let _ ← next
    let c ← next
    char '\''
    return .scalar () (.char c)
  | _ => do
    let word ← takeWhile fun c => !isSeparator c
    return .scalar () (ofWord (Unicode.trim (String.ofList word)))

theorem core_run {cs : List Char} (ht : skip? "true" cs = some (false, cs))
    (hf : skip? "false" cs = some (false, cs)) (fuel : Nat) :
    core (fuel + 1) cs = coreFrom fuel cs.head? cs := by
  rw [core, bind_run ht]
  simp only [Bool.false_eq_true, if_false]
  rw [bind_run hf]
  simp only [Bool.false_eq_true, if_false]
  rw [bind_run (show peek cs = some (cs.head?, cs) from rfl)]
  rfl

theorem read?_of_core {line : String} {cs : List Char} {d : Plain}
    (hblanks : line.toList.dropWhile isBlank = cs)
    (hcore : core (3 * line.length + 2) cs = some (d, [])) : read? line = some d := by
  rw [read?, whole, value, bind_run (blanks_run _), hblanks, bind_run hcore, bind_run (blanks_run _)]
  rfl

/-- Every text is what some line is read as. -/
theorem read_inQuotes (s : String) : read (inQuotes s) = Plain.ofText s := by
  have htoList : (inQuotes s).toList = '"' :: (s.toList.flatMap escape ++ ['"']) := by
    simp [inQuotes]
  have hlength : s.toList.length < 3 * (inQuotes s).length + 1 := by
    have hflat := length_le_flatMap_escape s.toList
    rw [← String.length_toList, htoList, List.length_cons, List.length_append]
    omega
  have hnext : ∀ c, c ≠ '"' → ∀ d ∈ (inQuotes s).toList.head?, d ≠ c := by
    rw [htoList]
    rintro c hc d ⟨⟩
    exact hc.symm
  have hcore : core (3 * (inQuotes s).length + 2) (inQuotes s).toList = some (Plain.ofText s, []) := by
    rw [core_run (skip?_other rfl (hnext 't' (by decide))) (skip?_other rfl (hnext 'f' (by decide))),
      htoList, List.head?_cons, coreFrom, bind_run (quoted_run hlength [])]
    rfl
  rw [read, read?_of_core (by rw [htoList]; rfl) hcore]
  rfl

/-! ## Words -/

/-- `line` is one word that is no truth value and no number: it holds no `isSeparator` character, no
quote in front and no blank around it. -/
structure IsWord (line : String) : Prop where
  noMark : ∀ c ∈ line.toList, isSeparator c = false
  noQuote : line.toList.head? ≠ some '"' ∧ line.toList.head? ≠ some '\''
  noTruth : ¬ "true".toList <+: line.toList ∧ ¬ "false".toList <+: line.toList
  trimmed : Unicode.trim line = line
  noNumber : ofWord line = .text line

theorem skip?_absent {s : String} {cs : List Char} (h : ¬ s.toList <+: cs) :
    skip? s cs = some (false, cs) := by
  rw [skip?, if_neg (by rwa [List.isPrefixOf_iff_prefix])]

theorem coreFrom_other {head : Option Char} (hmark : ∀ c ∈ head, isSeparator c = false)
    (hquote : head ≠ some '"' ∧ head ≠ some '\'') (fuel : Nat) : coreFrom fuel head = (do
      let word ← takeWhile fun c => !isSeparator c
      return .scalar () (ofWord (Unicode.trim (String.ofList word)))) := by
  unfold coreFrom
  split
  · cases hmark _ rfl
  · cases hmark _ rfl
  · exact absurd rfl hquote.1
  · exact absurd rfl hquote.2
  · rfl

theorem length_trim_le (s : String) : (Unicode.trim s).toList.length ≤ s.toList.length := by
  rw [Unicode.trim, String.toList_ofList, List.length_reverse]
  have hback := ((s.toList.dropWhile Unicode.isBlank).reverse.dropWhile_suffix Unicode.isBlank).length_le
  rw [List.length_reverse] at hback
  exact hback.trans (List.dropWhile_suffix _).length_le

/-- Before a text without blanks around it there is nothing to skip. -/
theorem dropWhile_of_trimmed {s : String} (h : Unicode.trim s = s) :
    s.toList.dropWhile isBlank = s.toList := by
  have hall : s.toList.dropWhile Unicode.isBlank = s.toList := by
    refine (List.dropWhile_suffix _).eq_of_length_le ?_
    have hback :=
      ((s.toList.dropWhile Unicode.isBlank).reverse.dropWhile_suffix Unicode.isBlank).length_le
    have htoList := congrArg String.toList h
    rw [Unicode.trim, String.toList_ofList] at htoList
    rw [← List.length_reverse, htoList, List.length_reverse] at hback
    exact hback
  have hblank : ∀ c, isBlank c = true → Unicode.isBlank c = true := by
    intro c hc
    simp only [isBlank, Bool.or_eq_true, beq_iff_eq] at hc
    obtain (((rfl | rfl) | rfl) | rfl) | rfl := hc <;> decide
  cases hcs : s.toList with
  | nil => rfl
  | cons c cs =>
    refine List.dropWhile_cons_of_neg fun hc => ?_
    rw [hcs, List.dropWhile_cons_of_pos (hblank c hc)] at hall
    have hlength := (List.dropWhile_suffix (l := cs) Unicode.isBlank).length_le
    rw [hall, List.length_cons] at hlength
    omega

theorem IsWord.read {line : String} (h : IsWord line) : read line = Plain.ofText line := by
  have hblanks := dropWhile_of_trimmed h.trimmed
  have htake : (takeWhile fun c => !isSeparator c) line.toList = some (line.toList, []) := by
    have hrun : takeWhile (fun c => !isSeparator c) (line.toList ++ []) = some (line.toList, []) :=
      takeWhile_run (fun c hc => by rw [h.noMark c hc]; rfl) (by simp)
    rwa [List.append_nil] at hrun
  have hhead : ∀ c ∈ line.toList.head?, isSeparator c = false :=
    fun c hc => h.noMark c (List.mem_of_mem_head? hc)
  have hcore : core (3 * line.length + 2) line.toList = some (Plain.ofText line, []) := by
    rw [core_run (skip?_absent h.noTruth.1) (skip?_absent h.noTruth.2),
      coreFrom_other hhead h.noQuote, bind_run htake, String.ofList_toList, h.trimmed, h.noNumber]
    rfl
  rw [Inline.read, read?_of_core hblanks hcore]
  rfl

/-! ## Lines that are read as they stand -/

section
variable {α β : Type}

theorem exists_of_bind {r : Reading α} {f : α → Reading β} {cs rest : List Char} {b : β}
    (h : (r >>= f) cs = some (b, rest)) :
    ∃ a mid, r cs = some (a, mid) ∧ f a mid = some (b, rest) := by
  obtain ⟨⟨a, mid⟩, ha, hb⟩ := Option.bind_eq_some_iff.1 h
  exact ⟨a, mid, ha, hb⟩

/-- `r` takes `n` characters at least. -/
def Takes (n : Nat) (r : Reading α) : Prop :=
  ∀ cs a rest, r cs = some (a, rest) → rest.length + n ≤ cs.length

theorem takes_pure (a : α) : Takes 0 (pure a : Reading α) := by
  intro cs x rest h
  cases h
  exact le_rfl

theorem takes_refuse (n : Nat) : Takes n (refuse : Reading α) := fun _ _ _ h => by cases h

theorem takes_next : Takes 1 next := by
  intro cs a rest h
  cases cs with
  | nil => cases h
  | cons c cs =>
    cases h
    exact le_rfl

theorem takes_one (p : Char → Bool) : Takes 1 (one p) := by
  intro cs a rest h
  cases cs with
  | nil => cases h
  | cons c cs =>
    rw [one] at h
    split at h
    · cases h
      exact le_rfl
    · cases h

theorem takes_char (c : Char) : Takes 1 (char c) := by
  intro cs a rest h
  obtain ⟨d, mid, hd, h⟩ := exists_of_bind h
  cases h
  exact takes_one _ cs d _ hd

theorem Takes.bind {m n : Nat} {r : Reading α} {f : α → Reading β} (hr : Takes m r)
    (hf : ∀ a, Takes n (f a)) : Takes (m + n) (r >>= f) := by
  intro cs b rest h
  obtain ⟨a, mid, ha, hb⟩ := exists_of_bind h
  have hfirst := hr cs a mid ha
  have hsecond := hf a mid b rest hb
  omega

theorem Takes.mono {m n : Nat} {r : Reading α} (h : Takes n r) (hle : m ≤ n) : Takes m r := by
  intro cs a rest hr
  have := h cs a rest hr
  omega

end

theorem takes_codePoint (k n : Nat) : Takes k (codePoint k n) := by
  induction k generalizing n with
  | zero =>
    intro cs c rest h
    rw [codePoint] at h
    cases hs : scalarOf n with
    | none =>
      rw [hs] at h
      cases h
    | some c' =>
      rw [hs] at h
      cases h
      exact le_rfl
  | succ k ih =>
    rw [codePoint, Nat.add_comm]
    exact (takes_one isHex).bind fun c => ih _

theorem takes_escaped : Takes 1 escaped := by
  unfold escaped
  refine Takes.bind (n := 0) takes_next fun c => ?_
  split
  case h_8 => exact (takes_codePoint 4 0).mono (Nat.zero_le 4)
  case h_9 => exact (takes_codePoint 8 0).mono (Nat.zero_le 8)
  case h_10 => exact takes_refuse 0
  all_goals exact takes_pure _

theorem length_textTail {fuel : Nat} {cs x rest : List Char}
    (h : textTail fuel cs = some (x, rest)) : x.length + rest.length < cs.length := by
  induction fuel generalizing cs x with
  | zero => cases h
  | succ fuel ih =>
    rw [textTail] at h
    obtain ⟨c, mid, hc, h⟩ := exists_of_bind h
    have hnext := takes_next cs c mid hc
    split at h
    · cases h
      exact lt_of_lt_of_le (by simp) hnext
    · obtain ⟨e, back, he, h⟩ := exists_of_bind h
      obtain ⟨xs, back', hxs, h⟩ := exists_of_bind h
      cases h
      have hescaped := takes_escaped mid e back he
      have := ih hxs
      rw [List.length_cons]
      omega
    · split at h
      · obtain ⟨xs, back, hxs, h⟩ := exists_of_bind h
        cases h
        have := ih hxs
        rw [List.length_cons]
        omega
      · cases h

/-- A value that is a text is no truth value. -/
theorem coreFrom_of_text {fuel : Nat} {cs rest : List Char} {d : Plain} {s : String}
    (h : core (fuel + 1) cs = some (d, rest)) (hs : d.text? = some s) :
    (¬ "true".toList <+: cs ∧ ¬ "false".toList <+: cs) ∧
      coreFrom fuel cs.head? cs = some (d, rest) := by
  have htruth : ∀ t : String, t.toList <+: cs → skip? t cs = some (true, cs.drop t.length) :=
    fun t ht => by rw [skip?, if_pos (List.isPrefixOf_iff_prefix.2 ht)]
  by_cases ht : "true".toList <+: cs
  · rw [core, bind_run (htruth _ ht)] at h
    cases h
    cases hs
  by_cases hf : "false".toList <+: cs
  · rw [core, bind_run (skip?_absent ht)] at h
    simp only [Bool.false_eq_true, if_false] at h
    rw [bind_run (htruth _ hf)] at h
    cases h
    cases hs
  rw [core_run (skip?_absent ht) (skip?_absent hf)] at h
  exact ⟨⟨ht, hf⟩, h⟩

theorem length_quoted {fuel : Nat} {cs rest : List Char} {x : String}
    (h : quoted fuel cs = some (x, rest)) : x.toList.length + 2 ≤ cs.length := by
  obtain ⟨_, mid, hquote, h⟩ := exists_of_bind h
  obtain ⟨xs, mid', hxs, h⟩ := exists_of_bind h
  cases h
  have hfirst := takes_char '"' cs _ mid hquote
  have hrest := length_textTail hxs
  rw [String.toList_ofList]
  omega

/-- A value that is a text is longer than the text, or it is a word. -/
theorem core_text {fuel : Nat} {cs rest : List Char} {d : Plain} {s : String}
    (h : core fuel cs = some (d, rest)) (hs : d.text? = some s) :
    s.toList.length + 2 ≤ cs.length ∨
      (¬ "true".toList <+: cs ∧ ¬ "false".toList <+: cs) ∧
        (cs.head? ≠ some '"' ∧ cs.head? ≠ some '\'') ∧
        rest = cs.dropWhile (fun c => !isSeparator c) ∧
        s = Unicode.trim (String.ofList (cs.takeWhile fun c => !isSeparator c)) ∧
        ofWord s = .text s := by
  cases fuel with
  | zero => cases h
  | succ fuel =>
  obtain ⟨htruth, h⟩ := coreFrom_of_text h hs
  generalize hhead : cs.head? = head at h ⊢
  unfold coreFrom at h
  split at h
  · obtain ⟨_, _, -, h⟩ := exists_of_bind h
    obtain ⟨es, _, -, h⟩ := exists_of_bind h
    cases h
    cases hs
  · obtain ⟨_, _, -, h⟩ := exists_of_bind h
    obtain ⟨ds, _, -, h⟩ := exists_of_bind h
    cases h
    cases hs
  · obtain ⟨x, mid, hx, h⟩ := exists_of_bind h
    cases h
    cases hs
    exact .inl (length_quoted hx)
  · left
    obtain ⟨_, mid, hfirst, h⟩ := exists_of_bind h
    obtain ⟨c, mid', hc, h⟩ := exists_of_bind h
    obtain ⟨_, mid'', hlast, h⟩ := exists_of_bind h
    cases h
    cases hs
    have := takes_next _ _ _ hfirst
    have := takes_next _ _ _ hc
    have := takes_char '\'' _ _ _ hlast
    have hone : (toString c).toList = [c] := String.toList_singleton c
    rw [hone, List.length_singleton]
    omega
  next hcurly hbracket hquote happ =>
    right
    cases h
    obtain hword | ⟨hno, -⟩ := ofWord_cases
      (Unicode.trim (String.ofList (cs.takeWhile fun c => !isSeparator c)))
    · rw [hword] at hs
      cases hs
      exact ⟨htruth, ⟨hquote, happ⟩, rfl, rfl, hword⟩
    · rw [hno] at hs
      cases hs

/-- Marks are no blanks, so nothing but blanks is left behind a word only if nothing is. -/
theorem no_mark_of_blank {cs : List Char}
    (h : (cs.dropWhile fun c => !isSeparator c).dropWhile isBlank = []) :
    ∀ c ∈ cs, isSeparator c = false := by
  have hnil : (cs.dropWhile fun c => !isSeparator c) = [] := by
    cases hrest : cs.dropWhile fun c => !isSeparator c with
    | nil => rfl
    | cons c rest =>
      have hmark : isSeparator c = true := by
        have hhead := List.head?_dropWhile_not (fun c => !isSeparator c) cs
        rw [hrest] at hhead
        simpa using hhead
      rw [hrest] at h
      have hblank := List.dropWhile_eq_nil_iff.1 h c List.mem_cons_self
      simp only [isSeparator, Bool.or_eq_true, beq_iff_eq] at hmark
      obtain (((rfl | rfl) | rfl) | rfl) | rfl := hmark <;> cases hblank
  intro c hc
  simpa using List.dropWhile_eq_nil_iff.1 hnil c hc

theorem core_of_read? {line : String} {d : Plain} (h : read? line = some d) :
    ∃ rest, core (3 * line.length + 2) (line.toList.dropWhile isBlank) = some (d, rest) ∧
      rest.dropWhile isBlank = [] := by
  unfold read? whole at h
  split at h
  next x hvalue =>
    cases h
    rw [value, bind_run (blanks_run _)] at hvalue
    obtain ⟨d', rest, hcore, hvalue⟩ := exists_of_bind hvalue
    rw [bind_run (blanks_run rest)] at hvalue
    obtain ⟨rfl, hrest⟩ := Prod.mk.inj (Option.some.inj hvalue)
    exact ⟨rest, hcore, hrest⟩
  next => cases h

/-- A line is read as it stands if it does not fit the grammar or is a word. -/
theorem text?_read_iff (line : String) :
    (read line).text? = some line ↔ read? line = none ∨ IsWord line := by
  refine ⟨fun h => ?_, ?_⟩
  · cases hread : read? line with
    | none => exact .inl rfl
    | some d =>
      right
      rw [read, hread, Option.getD_some] at h
      obtain ⟨rest, hcore, hrest⟩ := core_of_read? hread
      have hskip := (List.dropWhile_suffix (l := line.toList) isBlank).length_le
      obtain hlong | ⟨htruth, hquote, rfl, htrim, hnumber⟩ := core_text hcore h
      · omega
      · have hnoMark := no_mark_of_blank hrest
        have htake : (line.toList.dropWhile isBlank).takeWhile (fun c => !isSeparator c) =
            line.toList.dropWhile isBlank :=
          List.takeWhile_eq_self_iff.2 fun c hc => by rw [hnoMark c hc]; rfl
        rw [htake] at htrim
        have hle := length_trim_le (String.ofList (line.toList.dropWhile isBlank))
        rw [← htrim, String.toList_ofList] at hle
        have hall := (List.dropWhile_suffix (l := line.toList) isBlank).eq_of_length_le hle
        rw [hall] at htruth hquote hnoMark htrim
        rw [String.ofList_toList] at htrim
        exact ⟨hnoMark, hquote, htruth, htrim.symm, hnumber⟩
  · rintro (h | h)
    · rw [read_of_read?_eq_none h]
      rfl
    · rw [h.read]
      rfl

end Inline

end BuildGate.Data
