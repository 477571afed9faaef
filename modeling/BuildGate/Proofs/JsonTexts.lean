import BuildGate.Data.Json
import BuildGate.Data.Json.Printer
import BuildGate.Proofs.Tables
import Mathlib.Tactic.IntervalCases

/-!
# Texts of JSON data

`Text` says which characters write data: scalars whose numbers are natural and fit 64 bits, and lists
and objects of such, with blanks between their parts as one likes. Each of those texts is read as the
data it writes, with the entries of every object in order, and the text that the library itself writes
is one of them. Readings are followed one part after the other, each leaving what it does not take.

**Results.**
* `textTail_run`, `number_run`: texts in quotes, and numbers.
* `value_succ`, `items_succ`, `members_succ`: a value and its parts, by the fuel.
* `read?_text`: an object is read from each of its texts.
* `writes_pretty`: the text that the library writes is one of them.
* `at?_sorted`: what stands under keys of data when it has been read.
-/
namespace BuildGate.Data

/-! ## Runs of a reading -/

namespace Reading

variable {α β : Type} {r : Reading α} {cs rest : List Char} {a : α}

theorem bind_run (h : r cs = some (a, rest)) (f : α → Reading β) : (r >>= f) cs = f a rest := by
  change (r cs).bind _ = _
  rw [h]
  rfl

theorem run_of_eq {r' : Reading α} {x : Option (α × List Char)} (h : r = r') (h' : r' cs = x) :
    r cs = x := by
  rw [h, h']

theorem run_of_eq_pure (h : r = pure a) : r cs = some (a, cs) := run_of_eq h rfl

theorem skip?_run {s : String} (hs : s.toList = cs) (rest : List Char) :
    skip? s (cs ++ rest) = some (true, rest) := by
  have hdrop : (cs ++ rest).drop s.length = rest := by
    rw [← String.length_toList, hs, List.drop_left]
  simp [skip?, hs, hdrop]

theorem skip?_other {s : String} {c : Char} (hs : s.toList.head? = some c)
    (h : ∀ d ∈ rest.head?, d ≠ c) : skip? s rest = some (false, rest) := by
  have hnot : s.toList.isPrefixOf rest = false := by
    cases hl : s.toList with
    | nil => rw [hl] at hs; cases hs
    | cons x xs =>
      rw [hl] at hs
      cases hs
      cases rest with
      | nil => rfl
      | cons d rest =>
        have hne : (c == d) = false := beq_false_of_ne (h d rfl).symm
        rw [List.isPrefixOf_cons_cons, hne, Bool.false_and]
  rw [skip?, hnot]
  rfl

theorem text_run {s : String} (hs : s.toList = cs) (rest : List Char) :
    text s (cs ++ rest) = some ((), rest) := by
  rw [text, bind_run (skip?_run hs rest)]
  rfl

theorem takeWhile_run {p : Char → Bool} (hcs : ∀ c ∈ cs, p c = true)
    (hrest : ∀ c ∈ rest.head?, p c = false) : takeWhile p (cs ++ rest) = some (cs, rest) := by
  have hnone : rest.takeWhile p = [] ∧ rest.dropWhile p = rest := by
    cases rest with
    | nil => exact ⟨rfl, rfl⟩
    | cons c rest => simp [hrest c rfl]
  rw [takeWhile, List.takeWhile_append_of_pos hcs, List.dropWhile_append_of_pos hcs, hnone.1,
    hnone.2, List.append_nil]

end Reading

namespace Json

open Reading

/-! ## Texts -/

/-- Below a blank a character is written as two digits. -/
theorem escapedUnit_byteText {n : Nat} (h : n < 0x20) (rest : List Char) :
    escapedUnit ('0' :: '0' :: byteText n ++ rest) = some (Char.ofNat n, rest) := by
  interval_cases n <;> rfl

/-- A character is written behind a backslash, or else as it is. -/
theorem escape_cases (c : Char) :
    (∃ tail, escape c = '\\' :: tail ∧ ∀ rest, escaped (tail ++ rest) = some (c, rest)) ∨
      escape c = [c] ∧ c ≠ '"' ∧ c ≠ '\\' ∧ ¬ c.toNat < 0x20 := by
  unfold escape
  split
  · exact .inl ⟨_, rfl, fun _ => rfl⟩
  · exact .inl ⟨_, rfl, fun _ => rfl⟩
  · exact .inl ⟨_, rfl, fun _ => rfl⟩
  · exact .inl ⟨_, rfl, fun _ => rfl⟩
  · exact .inl ⟨_, rfl, fun _ => rfl⟩
  · exact .inl ⟨_, rfl, fun _ => rfl⟩
  · exact .inl ⟨_, rfl, fun _ => rfl⟩
  next hquote hslash _ _ _ _ _ =>
    split
    next hlow =>
      refine .inl ⟨_, rfl, fun rest => ?_⟩
      exact (escapedUnit_byteText hlow rest).trans (by rw [Char.ofNat_toNat])
    next hlow => exact .inr ⟨rfl, hquote, hslash, hlow⟩

theorem textTail_escape {fuel : Nat} {cs rest rest' : List Char} (c : Char)
    (h : textTail fuel rest = some (cs, rest')) :
    textTail (fuel + 1) (escape c ++ rest) = some (c :: cs, rest') := by
  rw [textTail]
  obtain ⟨tail, htail, hescaped⟩ | ⟨hplain, hquote, hslash, hlow⟩ := escape_cases c
  · rw [htail, List.cons_append, bind_run (show next ('\\' :: (tail ++ rest)) = _ from rfl)]
    change (escaped >>= fun c => textTail fuel >>= fun cs => pure (c :: cs)) (tail ++ rest) = _
    rw [bind_run (hescaped rest), bind_run h]
    rfl
  · rw [hplain, List.cons_append, List.nil_append, bind_run (show next (c :: rest) = _ from rfl)]
    split
    · contradiction
    · contradiction
    · rw [if_neg hlow, bind_run h]
      rfl

theorem textTail_run {cs : List Char} {fuel : Nat} (hfuel : cs.length < fuel) (rest : List Char) :
    textTail fuel (cs.flatMap escape ++ '"' :: rest) = some (cs, rest) := by
  induction cs generalizing fuel with
  | nil =>
    obtain ⟨fuel, rfl⟩ := Nat.exists_eq_add_of_lt hfuel
    rfl
  | cons c cs ih =>
    cases fuel with
    | zero => cases hfuel
    | succ fuel =>
      rw [List.flatMap_cons, List.append_assoc]
      exact textTail_escape c (ih (Nat.lt_of_succ_lt_succ hfuel))

theorem toList_quote (s : String) : (quote s).toList = '"' :: (s.toList.flatMap escape ++ ['"']) := by
  simp [quote]

theorem length_quote (s : String) : s.length + 2 ≤ (quote s).toList.length := by
  have hflat : ∀ cs : List Char, cs.length ≤ (cs.flatMap escape).length := by
    intro cs
    induction cs with
    | nil => exact le_rfl
    | cons c cs ih =>
      have hc := List.length_pos_of_ne_nil (escape_ne_nil c)
      rw [List.flatMap_cons, List.length_append, List.length_cons]
      omega
  have hs : s.length ≤ _ := hflat s.toList
  rw [toList_quote, List.length_cons, List.length_append, List.length_singleton]
  omega

theorem quoted_run {s : String} {fuel : Nat} (hfuel : s.length < fuel) (rest : List Char) :
    quoted fuel ((quote s).toList ++ rest) = some (s, rest) := by
  have htail := textTail_run (hfuel : s.toList.length < fuel) rest
  rw [toList_quote, List.cons_append, List.append_assoc, quoted,
    bind_run (show char '"' ('"' :: _) = some ((), _) from rfl)]
  rw [List.singleton_append, bind_run htail, String.ofList_toList]
  rfl

/-! ## Numbers -/

/-- No character of a number comes next in `rest`. -/
def Ends (rest : List Char) : Prop :=
  ∀ c ∈ rest.head?, isDigit c = false ∧ c ≠ '.' ∧ c ≠ 'e' ∧ c ≠ 'E'

theorem digitOf_of_isDigit {c : Char} (h : c.isDigit = true) :
    digitOf 10 c = some (c.toNat - '0'.toNat) := by
  simp only [Char.isDigit, Bool.and_eq_true, decide_eq_true_eq] at h
  have hlow : '0' ≤ c := h.1
  have hhigh : c ≤ '9' := h.2
  have hlt : c.toNat - '0'.toNat < 10 := by
    have h9 : c.toNat ≤ '9'.toNat := hhigh
    have : '9'.toNat = 57 ∧ '0'.toNat = 48 := by decide
    omega
  have hrange : '0' ≤ c ∧ c ≤ '9' := ⟨hlow, hhigh⟩
  simp only [digitOf, if_pos hrange, if_pos hlt]

theorem le_ofDigitChars (cs : List Char) (start : Nat) : start ≤ Nat.ofDigitChars 10 cs start := by
  induction cs generalizing start with
  | nil => exact le_rfl
  | cons c cs ih =>
    rw [Nat.ofDigitChars_cons]
    exact le_trans (by omega) (ih _)

/-- Digits of a number below the bound all count. -/
theorem accumulate_run {cs : List Char} (hcs : ∀ c ∈ cs, c.isDigit = true) {start : Nat}
    (h : Nat.ofDigitChars 10 cs start < Word.bound) :
    accumulate start cs = (Nat.ofDigitChars 10 cs start, 0) := by
  induction cs generalizing start with
  | nil => rfl
  | cons c cs ih =>
    rw [List.forall_mem_cons] at hcs
    rw [Nat.ofDigitChars_cons] at h ⊢
    have hnext := lt_of_le_of_lt (le_ofDigitChars cs _) h
    simp only [accumulate, digitOf_of_isDigit hcs.1, Option.getD_some, if_pos hnext]
    exact ih hcs.2 h

/-- Only zero is written with a zero in front. -/
theorem head?_toDigits {n : Nat} (h : 0 < n) : (Nat.toDigits 10 n).head? ≠ some '0' := by
  induction n using Nat.strong_induction_on with
  | _ n ih =>
    rw [Nat.toDigits_eq_if (by decide)]
    split
    next hlt => interval_cases n <;> decide
    next hge =>
      rw [List.head?_append_of_ne_nil _ Nat.toDigits_ne_nil]
      exact ih (n / 10) (by omega) (by omega)

theorem wholePart_run (n : Nat) {rest : List Char} (hrest : Ends rest) :
    wholePart (Nat.toDigits 10 n ++ rest) = some (Nat.toDigits 10 n, rest) := by
  have hdigits : ∀ c ∈ Nat.toDigits 10 n, isDigit c = true := fun c hc => by
    rw [isDigit, digitOf_of_isDigit (Nat.isDigit_of_mem_toDigits (by decide) (by decide) hc)]
    rfl
  have htake : takeSome isDigit (Nat.toDigits 10 n ++ rest) = some (Nat.toDigits 10 n, rest) := by
    rw [takeSome, bind_run (takeWhile_run hdigits fun c hc => (hrest c hc).1)]
    apply run_of_eq_pure
    split
    next hnil => exact absurd hnil Nat.toDigits_ne_nil
    · rfl
  rw [wholePart, bind_run htake]
  apply run_of_eq_pure
  split
  next hds =>
    obtain rfl | hn := Nat.eq_zero_or_pos n
    · cases hds
    · exact absurd (by rw [hds]; rfl) (head?_toDigits hn)
  · rfl

theorem optionalExponent_run {rest : List Char} (hrest : Ends rest) :
    Decimal.optionalExponent rest = some (0, rest) := by
  rw [Decimal.optionalExponent, bind_run (show peek rest = some (rest.head?, rest) from rfl)]
  cases rest with
  | nil => rfl
  | cons c rest =>
    obtain ⟨-, -, he, hE⟩ := hrest c rfl
    simp only [List.head?_cons, he, hE, or_self, if_false]
    rfl

theorem number_run {n : Nat} (h : n < Word.bound) {rest : List Char} (hrest : Ends rest) :
    number (Nat.toDigits 10 n ++ rest) = some (.unsigned n, rest) := by
  have hhead : ∀ d ∈ (Nat.toDigits 10 n ++ rest).head?, d ≠ '-' := by
    rw [List.head?_append_of_ne_nil _ Nat.toDigits_ne_nil]
    rintro d hd rfl
    have := Nat.isDigit_of_mem_toDigits (by decide) (by decide) (List.mem_of_mem_head? hd)
    exact absurd this (by decide)
  have hpoint : ∀ d ∈ rest.head?, d ≠ '.' := fun d hd => (hrest d hd).2.1
  have hacc : accumulate 0 (Nat.toDigits 10 n) = (n, 0) := by
    have hval : Nat.ofDigitChars 10 (Nat.toDigits 10 n) 0 = n := Nat.ofDigitChars_ten_toDigits
    rw [accumulate_run (fun c hc => Nat.isDigit_of_mem_toDigits (by decide) (by decide) hc)
      (by rw [hval]; exact h), hval]
  rw [number, bind_run (skip?_other rfl hhead), bind_run (wholePart_run n hrest),
    bind_run (skip?_other rfl hpoint)]
  simp only [Bool.false_eq_true, if_false, pure_bind]
  rw [bind_run (show peek rest = some (rest.head?, rest) from rfl)]
  have hexponent := optionalExponent_run hrest
  cases rest with
  | nil =>
    simp only [List.head?_nil]
    rw [bind_run hexponent, hacc]
    simp only [List.isEmpty_nil, Bool.not_false, and_self, if_true]
    rfl
  | cons c rest =>
    obtain ⟨-, -, he, hE⟩ := hrest c rfl
    simp only [List.head?_cons]
    rw [bind_run hexponent, hacc]
    simp only [List.isEmpty_nil, Bool.not_or, Bool.and_eq_true, Bool.not_eq_true', beq_eq_false_iff_ne,
      ne_eq, he, hE, not_false_eq_true, and_self, if_true, Bool.not_false]
    rfl

/-! ## Values -/

def Blanks (cs : List Char) : Prop := ∀ c ∈ cs, isBlank c = true

/-- `ScalarText v cs`: the text `cs` writes the scalar `v`. Numbers are natural and below
`Word.bound`. -/
inductive ScalarText : Scalar → List Char → Prop
  | null : ScalarText .null ['n', 'u', 'l', 'l']
  | yes : ScalarText (.bool true) ['t', 'r', 'u', 'e']
  | no : ScalarText (.bool false) ['f', 'a', 'l', 's', 'e']
  | natural (n : Nat) (h : n < Word.bound) : ScalarText (.unsigned n) (Nat.toDigits 10 n)
  | text (s : String) : ScalarText (.text s) (quote s).toList

mutual

/-- `Text depth d cs`: the text `cs` writes `d`, which nests no deeper than `depth`, with blanks
between its parts as one likes. -/
inductive Text : Nat → Plain → List Char → Prop
  | scalar {depth : Nat} {v : Scalar} {cs : List Char} (h : ScalarText v cs) :
    Text depth (.scalar () v) cs
  | noItems {depth : Nat} {bs : List Char} (hbs : Blanks bs) :
    Text (depth + 1) (.list () []) ('[' :: (bs ++ [']']))
  | items {depth : Nat} {ds : List Plain} {cs : List Char} (h : ItemsText depth ds cs) :
    Text (depth + 1) (.list () ds) ('[' :: cs)
  | noEntries {depth : Nat} {bs : List Char} (hbs : Blanks bs) :
    Text (depth + 1) (.table () []) ('\x7b' :: (bs ++ ['\x7d']))
  | entries {depth : Nat} {es : Entries Plain} {cs : List Char} (h : EntriesText depth es cs) :
    Text (depth + 1) (.table () es) ('\x7b' :: cs)

/-- What stands behind the bracket that opens a list, up to the one that closes it. -/
inductive ItemsText : Nat → List Plain → List Char → Prop
  | last {depth : Nat} {d : Plain} {before cs after : List Char} (hbefore : Blanks before)
    (h : Text depth d cs) (hafter : Blanks after) :
    ItemsText depth [d] (before ++ (cs ++ (after ++ [']'])))
  | more {depth : Nat} {d : Plain} {ds : List Plain} {before cs after rest : List Char}
    (hbefore : Blanks before) (h : Text depth d cs) (hafter : Blanks after)
    (hrest : ItemsText depth ds rest) :
    ItemsText depth (d :: ds) (before ++ (cs ++ (after ++ ',' :: rest)))

/-- What stands behind the brace that opens a table, up to the one that closes it. -/
inductive EntriesText : Nat → Entries Plain → List Char → Prop
  | last {depth : Nat} {k : String} {d : Plain} {front middle before cs after : List Char}
    (hfront : Blanks front) (hmiddle : Blanks middle) (hbefore : Blanks before)
    (h : Text depth d cs) (hafter : Blanks after) :
    EntriesText depth [(k, d)] (front ++ ((quote k).toList ++
      (middle ++ ':' :: (before ++ (cs ++ (after ++ ['\x7d']))))))
  | more {depth : Nat} {k : String} {d : Plain} {es : Entries Plain}
    {front middle before cs after rest : List Char} (hfront : Blanks front)
    (hmiddle : Blanks middle) (hbefore : Blanks before) (h : Text depth d cs)
    (hafter : Blanks after) (hrest : EntriesText depth es rest) :
    EntriesText depth ((k, d) :: es) (front ++ ((quote k).toList ++
      (middle ++ ':' :: (before ++ (cs ++ (after ++ ',' :: rest))))))

end

mutual

/-- Data with every table in the order of its keys, as it is read. -/
def sorted : Plain → Plain
  | .scalar _ v => .scalar () v
  | .list _ ds => .list () (sortedItems ds)
  | .table _ es => Plain.ofEntries (sortedEntries es)

def sortedItems : List Plain → List Plain
  | [] => []
  | d :: ds => sorted d :: sortedItems ds

def sortedEntries : Entries Plain → Entries Plain
  | [] => []
  | (k, d) :: es => (k, sorted d) :: sortedEntries es

end

theorem blanks_run {bs rest : List Char} (hbs : Blanks bs)
    (hrest : ∀ c ∈ rest.head?, isBlank c = false) : blanks (bs ++ rest) = some ((), rest) := by
  rw [blanks, skipWhile, bind_run (takeWhile_run hbs hrest)]
  rfl

theorem ends_nil : Ends [] := fun _ h => by cases h

theorem ends_cons {c : Char} (rest : List Char)
    (h : isDigit c = false ∧ c ≠ '.' ∧ c ≠ 'e' ∧ c ≠ 'E') : Ends (c :: rest) := by
  intro d hd
  cases hd
  exact h

theorem ends_blanks {bs rest : List Char} (hbs : Blanks bs) (hrest : Ends rest) :
    Ends (bs ++ rest) := by
  cases bs with
  | nil => exact hrest
  | cons b bs =>
    have hb := hbs b List.mem_cons_self
    simp only [isBlank, Bool.or_eq_true, beq_iff_eq] at hb
    refine ends_cons _ ?_
    obtain ((rfl | rfl) | rfl) | rfl := hb <;> decide

/-- No digit is a blank, and no value but a number begins with one. -/
theorem not_mem_toDigits {n : Nat} {c : Char} (hc : c ∈ Nat.toDigits 10 n) :
    isBlank c = false ∧ c ≠ ']' ∧
      c ≠ '"' ∧ c ≠ '[' ∧ c ≠ '\x7b' ∧ c ≠ 't' ∧ c ≠ 'f' ∧ c ≠ 'n' := by
  have hdigit := Nat.isDigit_of_mem_toDigits (by decide) (by decide) hc
  have hne : ∀ d : Char, d.isDigit = false → c ≠ d := by
    rintro d hd rfl
    rw [hd] at hdigit
    cases hdigit
  refine ⟨?_, hne _ rfl, hne _ rfl, hne _ rfl, hne _ rfl, hne _ rfl, hne _ rfl, hne _ rfl⟩
  simp only [isBlank, Bool.or_eq_false_iff, beq_eq_false_iff_ne]
  exact ⟨⟨⟨hne _ rfl, hne _ rfl⟩, hne _ rfl⟩, hne _ rfl⟩

/-- A text begins with no blank, and does not end the list in which it stands. -/
theorem Text.head {depth : Nat} {d : Plain} {cs : List Char} (h : Text depth d cs)
    (rest : List Char) : ∀ c ∈ (cs ++ rest).head?, isBlank c = false ∧ c ≠ ']' := by
  cases h with
  | scalar h =>
    cases h with
    | natural n h =>
      rw [List.head?_append_of_ne_nil _ Nat.toDigits_ne_nil]
      intro c hc
      obtain ⟨hblank, hend, -⟩ := not_mem_toDigits (List.mem_of_mem_head? hc)
      exact ⟨hblank, hend⟩
    | text s =>
      rw [toList_quote]
      rintro c ⟨⟩
      decide
    | null => rintro c ⟨⟩; decide
    | yes => rintro c ⟨⟩; decide
    | no => rintro c ⟨⟩; decide
  | noItems => rintro c ⟨⟩; decide
  | items => rintro c ⟨⟩; decide
  | noEntries => rintro c ⟨⟩; decide
  | entries => rintro c ⟨⟩; decide

theorem blanks_nil : Blanks [] := fun _ h => absurd h List.not_mem_nil

/-- The blanks in front of items make no difference. -/
theorem ItemsText.trim {depth : Nat} {ds : List Plain} {cs : List Char} (h : ItemsText depth ds cs) :
    ∃ bs cs', cs = bs ++ cs' ∧ Blanks bs ∧ ItemsText depth ds cs' ∧
      ∀ rest, ∀ c ∈ (cs' ++ rest).head?, isBlank c = false ∧ c ≠ ']' := by
  cases h with
  | last hbefore h hafter =>
    refine ⟨_, _, rfl, hbefore, .last blanks_nil h hafter, fun rest => ?_⟩
    rw [List.append_assoc]
    exact h.head _
  | more hbefore h hafter hrest =>
    refine ⟨_, _, rfl, hbefore, .more blanks_nil h hafter hrest, fun rest => ?_⟩
    rw [List.append_assoc]
    exact h.head _

theorem EntriesText.trim {depth : Nat} {es : Entries Plain} {cs : List Char}
    (h : EntriesText depth es cs) :
    ∃ bs cs', cs = bs ++ cs' ∧ Blanks bs ∧ EntriesText depth es cs' ∧
      ∀ rest, ∀ c ∈ (cs' ++ rest).head?, c = '"' := by
  cases h with
  | @last _ k _ _ _ _ _ _ hfront hmiddle hbefore h hafter =>
    have h' := @EntriesText.last _ k _ _ _ _ _ _ blanks_nil hmiddle hbefore h hafter
    rw [List.nil_append] at h'
    refine ⟨_, _, rfl, hfront, h', fun rest => ?_⟩
    rw [toList_quote]
    rintro c ⟨⟩
    rfl
  | @more _ k _ _ _ _ _ _ _ _ hfront hmiddle hbefore h hafter hrest =>
    have h' := @EntriesText.more _ k _ _ _ _ _ _ _ _ blanks_nil hmiddle hbefore h hafter hrest
    rw [List.nil_append] at h'
    refine ⟨_, _, rfl, hfront, h', fun rest => ?_⟩
    rw [toList_quote]
    rintro c ⟨⟩
    rfl

section
variable {fuel : Nat} {rest : List Char}
  (hvalue : ∀ depth d cs, Text depth d cs → cs.length ≤ fuel → ∀ bs rest, Blanks bs → Ends rest →
    value depth fuel (bs ++ (cs ++ rest)) = some (sorted d, rest))
  (hitems : ∀ depth ds cs, ItemsText depth ds cs → cs.length ≤ fuel →
    ∀ rest, items depth fuel (cs ++ rest) = some (sortedItems ds, rest))
  (hentries : ∀ depth es cs, EntriesText depth es cs → cs.length ≤ fuel →
    ∀ rest, members depth fuel (cs ++ rest) = some (sortedEntries es, rest))

/-- A scalar is read by how it begins. -/
theorem value_scalar {depth : Nat} {v : Scalar} {bs cs : List Char} (h : ScalarText v cs)
    (hfuel : cs.length ≤ fuel + 1) (hbs : Blanks bs) (hrest : Ends rest) :
    value depth (fuel + 1) (bs ++ (cs ++ rest)) = some (.scalar () v, rest) := by
  have hhead : ∀ c ∈ (cs ++ rest).head?, isBlank c = false := fun c hc =>
    ((Text.scalar h : Text depth _ _).head rest c hc).1
  rw [value, bind_run (blanks_run hbs hhead),
    bind_run (show peek (cs ++ rest) = some ((cs ++ rest).head?, cs ++ rest) from rfl)]
  cases h with
  | null => exact bind_run (text_run (by decide : "null".toList = _) rest) _
  | yes => exact bind_run (text_run (by decide : "true".toList = _) rest) _
  | no => exact bind_run (text_run (by decide : "false".toList = _) rest) _
  | text s =>
    have hquote : ((quote s).toList ++ rest).head? = some '"' := by
      rw [toList_quote]
      rfl
    have hlength := length_quote s
    rw [hquote]
    exact bind_run (quoted_run (by omega) rest) _
  | natural n h =>
    obtain ⟨c, cs, hdigits⟩ : ∃ c cs, Nat.toDigits 10 n = c :: cs :=
      List.exists_cons_of_ne_nil Nat.toDigits_ne_nil
    have hc : c ∈ Nat.toDigits 10 n := by rw [hdigits]; exact List.mem_cons_self
    have hhead : (Nat.toDigits 10 n ++ rest).head? = some c := by rw [hdigits]; rfl
    obtain ⟨-, -, hquote, hbracket, hbrace, ht, hf, hn⟩ := not_mem_toDigits hc
    have hnumber := bind_run (number_run h hrest) fun v => pure (Datum.scalar () v : Plain)
    rw [hhead]
    refine run_of_eq ?_ hnumber
    split <;> simp_all

/-- A bracket or a brace that opens a value, and the blanks behind it. -/
theorem opened_run {α : Type} {depth : Nat} {c : Char} {bs cs : List Char} (hbs : Blanks bs)
    (hcs : ∀ d ∈ cs.head?, isBlank d = false) (parts : Reading α) :
    (do
      let _ ← next
      if depth + 1 = 0 then refuse
      blanks
      parts : Reading α) (c :: (bs ++ cs)) = parts cs := by
  refine (bind_run (show next (c :: _) = some (c, _) from rfl) _).trans ?_
  refine run_of_eq (if_neg (Nat.succ_ne_zero _)) ?_
  exact bind_run (blanks_run hbs hcs) _

include hitems hentries in
/-- A value after blanks, by the scalar or the parts that it is made of. -/
theorem value_succ {depth : Nat} {d : Plain} {bs cs : List Char} (h : Text depth d cs)
    (hfuel : cs.length ≤ fuel + 1) (hbs : Blanks bs) (hrest : Ends rest) :
    value depth (fuel + 1) (bs ++ (cs ++ rest)) = some (sorted d, rest) := by
  have hhead : ∀ c ∈ (cs ++ rest).head?, isBlank c = false := fun c hc => (h.head rest c hc).1
  have hvalue : value depth (fuel + 1) (bs ++ (cs ++ rest)) = _ :=
    (bind_run (blanks_run hbs hhead) _).trans
      (bind_run (show peek (cs ++ rest) = some ((cs ++ rest).head?, cs ++ rest) from rfl) _)
  cases h with
  | scalar h => exact value_scalar h hfuel hbs hrest
  | noItems hbs' =>
    rw [hvalue, List.cons_append, List.append_assoc]
    refine (opened_run hbs' (by rintro c ⟨⟩; decide) _).trans ?_
    exact bind_run (skip?_run (by decide : "]".toList = [']']) rest) _
  | items h =>
    obtain ⟨bs', cs', rfl, hbs', h, hhead'⟩ := h.trim
    have hopen : skip? "]" (cs' ++ rest) = some (false, cs' ++ rest) :=
      skip?_other rfl fun c hc => (hhead' rest c hc).2
    have hlength : cs'.length ≤ fuel := by simp at hfuel; omega
    rw [hvalue, List.cons_append, List.append_assoc]
    refine (opened_run hbs' (fun c hc => (hhead' rest c hc).1) _).trans ?_
    exact (bind_run hopen _).trans (bind_run (hitems _ _ _ h hlength rest) _)
  | noEntries hbs' =>
    rw [hvalue, List.cons_append, List.append_assoc]
    refine (opened_run hbs' (by rintro c ⟨⟩; decide) _).trans ?_
    exact bind_run (skip?_run (by decide : "\x7d".toList = ['\x7d']) rest) _
  | entries h =>
    obtain ⟨bs', cs', rfl, hbs', h, hhead'⟩ := h.trim
    have hopen : skip? "\x7d" (cs' ++ rest) = some (false, cs' ++ rest) :=
      skip?_other rfl fun c hc => hhead' rest c hc ▸ by decide
    have hlength : cs'.length ≤ fuel := by simp at hfuel; omega
    rw [hvalue, List.cons_append, List.append_assoc]
    refine (opened_run hbs' (fun c hc => hhead' rest c hc ▸ rfl) _).trans ?_
    exact (bind_run hopen _).trans (bind_run (hentries _ _ _ h hlength rest) _)

include hvalue in
/-- A value and the blanks around it, up to what stands behind it in a list or an object. -/
theorem element_run {α : Type} {depth : Nat} {d : Plain} {before cs after : List Char}
    (h : Text depth d cs) (hfuel : cs.length ≤ fuel) (hbefore : Blanks before)
    (hafter : Blanks after) {c : Char}
    (hc : isDigit c = false ∧ c ≠ '.' ∧ c ≠ 'e' ∧ c ≠ 'E') (hblank : isBlank c = false)
    (more : Plain → Reading α) :
    (do
      let d ← value depth fuel
      blanks
      more d : Reading α) (before ++ (cs ++ (after ++ c :: rest))) = more (sorted d) (c :: rest) := by
  have hends : Ends (after ++ c :: rest) := ends_blanks hafter (ends_cons _ hc)
  have hblanks : blanks (after ++ c :: rest) = some ((), c :: rest) :=
    blanks_run hafter fun d hd => by cases hd; exact hblank
  exact (bind_run (hvalue _ _ _ h hfuel _ _ hbefore hends) _).trans (bind_run hblanks _)

/-- A key and the blanks around it, up to what stands behind its colon. -/
theorem key_run {α : Type} {k : String} {front middle : List Char} (hfuel : k.length < fuel)
    (hfront : Blanks front) (hmiddle : Blanks middle) (more : String → Reading α) :
    (do
      blanks
      let key ← quoted fuel
      blanks
      char ':'
      more key : Reading α) (front ++ ((quote k).toList ++ (middle ++ ':' :: rest))) =
        more k rest := by
  refine (bind_run (blanks_run hfront (by rw [toList_quote]; rintro c ⟨⟩; decide)) _).trans ?_
  refine (bind_run (quoted_run hfuel _) _).trans ?_
  refine (bind_run (blanks_run hmiddle (by rintro c ⟨⟩; decide)) _).trans ?_
  exact bind_run (show char ':' (':' :: rest) = some ((), rest) from rfl) _

include hvalue hitems in
theorem items_succ {depth : Nat} {ds : List Plain} {cs : List Char} (h : ItemsText depth ds cs)
    (hfuel : cs.length ≤ fuel + 1) (rest : List Char) :
    items depth (fuel + 1) (cs ++ rest) = some (sortedItems ds, rest) := by
  rw [items]
  cases h with
  | @last _ d before cs after hbefore h hafter =>
    have hlength : cs.length ≤ fuel := by simp at hfuel; omega
    simp only [List.append_assoc, List.cons_append, List.nil_append]
    refine (element_run hvalue h hlength hbefore hafter (by decide) (by decide) _).trans ?_
    exact bind_run (skip?_other rfl (by rintro c ⟨⟩; decide)) _
  | @more _ d ds before cs after others hbefore h hafter hothers =>
    have hlength : cs.length ≤ fuel ∧ others.length ≤ fuel := by simp at hfuel; omega
    have hcomma : skip? "," (',' :: (others ++ rest)) = _ := skip?_run rfl _
    simp only [List.append_assoc, List.cons_append]
    refine (element_run hvalue h hlength.1 hbefore hafter (by decide) (by decide) _).trans ?_
    exact (bind_run hcomma _).trans (bind_run (hitems _ _ _ hothers hlength.2 rest) _)

include hvalue hentries in
theorem members_succ {depth : Nat} {es : Entries Plain} {cs : List Char}
    (h : EntriesText depth es cs) (hfuel : cs.length ≤ fuel + 1) (rest : List Char) :
    members depth (fuel + 1) (cs ++ rest) = some (sortedEntries es, rest) := by
  rw [members]
  cases h with
  | @last _ k d front middle before cs after hfront hmiddle hbefore h hafter =>
    have hkey := length_quote k
    have hlength : cs.length ≤ fuel ∧ k.length < fuel := by
      simp only [List.length_append, List.length_cons] at hfuel; omega
    simp only [List.append_assoc, List.cons_append, List.nil_append]
    refine (key_run hlength.2 hfront hmiddle _).trans ?_
    refine (element_run hvalue h hlength.1 hbefore hafter (by decide) (by decide) _).trans ?_
    exact bind_run (skip?_other rfl (by rintro c ⟨⟩; decide)) _
  | @more _ k d es front middle before cs after others hfront hmiddle hbefore h hafter hothers =>
    have hkey := length_quote k
    have hlength : cs.length ≤ fuel ∧ k.length < fuel ∧ others.length ≤ fuel := by
      simp only [List.length_append, List.length_cons] at hfuel; omega
    have hcomma : skip? "," (',' :: (others ++ rest)) = _ := skip?_run rfl _
    simp only [List.append_assoc, List.cons_append]
    refine (key_run hlength.2.1 hfront hmiddle _).trans ?_
    refine (element_run hvalue h hlength.1 hbefore hafter (by decide) (by decide) _).trans ?_
    exact (bind_run hcomma _).trans (bind_run (hentries _ _ _ hothers hlength.2.2 rest) _)

end

theorem Text.length_pos {depth : Nat} {d : Plain} {cs : List Char} (h : Text depth d cs) :
    0 < cs.length := by
  cases h with
  | scalar h =>
    cases h with
    | natural n h => exact List.length_pos_of_ne_nil Nat.toDigits_ne_nil
    | text s =>
      rw [toList_quote]
      exact Nat.succ_pos _
    | null => decide
    | yes => decide
    | no => decide
  | noItems => exact Nat.succ_pos _
  | items => exact Nat.succ_pos _
  | noEntries => exact Nat.succ_pos _
  | entries => exact Nat.succ_pos _

/-- What texts of values and of parts are read as, by the fuel, which their length bounds. -/
theorem parts_run (fuel : Nat) :
    (∀ depth d cs, Text depth d cs → cs.length ≤ fuel → ∀ bs rest, Blanks bs → Ends rest →
      value depth fuel (bs ++ (cs ++ rest)) = some (sorted d, rest)) ∧
    (∀ depth ds cs, ItemsText depth ds cs → cs.length ≤ fuel →
      ∀ rest, items depth fuel (cs ++ rest) = some (sortedItems ds, rest)) ∧
    ∀ depth es cs, EntriesText depth es cs → cs.length ≤ fuel →
      ∀ rest, members depth fuel (cs ++ rest) = some (sortedEntries es, rest) := by
  induction fuel with
  | zero =>
    refine ⟨fun depth d cs h hfuel => ?_, fun depth ds cs h hfuel => ?_,
      fun depth es cs h hfuel => ?_⟩
    · exact absurd h.length_pos (by omega)
    · cases h <;> simp at hfuel
    · cases h <;> simp at hfuel
  | succ fuel ih =>
    obtain ⟨hvalue, hitems, hentries⟩ := ih
    exact ⟨fun depth d cs h hfuel bs rest hbs hrest => value_succ hitems hentries h hfuel hbs hrest,
      fun depth ds cs h hfuel rest => items_succ hvalue hitems h hfuel rest,
      fun depth es cs h hfuel rest => members_succ hvalue hentries h hfuel rest⟩

/-- `text` writes `d`, with blanks around it as one likes. -/
def Writes (d : Plain) (text : String) : Prop :=
  ∃ before cs after, Blanks before ∧ Text nestLimit d cs ∧ Blanks after ∧
    text.toList = before ++ (cs ++ after)

/-- An object is read from each of its texts. -/
theorem read?_text {es : Entries Plain} {text : String} (h : Writes (.table () es) text) :
    read? text = some (sorted (.table () es)) := by
  obtain ⟨before, cs, after, hbefore, h, hafter, htext⟩ := h
  have hlength : cs.length ≤ 2 * text.length + 2 := by
    rw [← String.length_toList, htext, List.length_append, List.length_append]
    omega
  have hends : Ends (after ++ []) := ends_blanks hafter ends_nil
  have hvalue := (parts_run _).1 _ _ _ h hlength before (after ++ []) hbefore hends
  have hblanks : blanks (after ++ []) = some ((), []) :=
    blanks_run hafter fun c hc => by cases hc
  have hdocument : document (2 * text.length + 2) text.toList =
      some (sorted (.table () es), []) := by
    rw [htext, ← List.append_nil after, document, bind_run hvalue, bind_run hblanks]
    rfl
  rw [read?, whole, hdocument]
  rfl

/-! ## The text that is written -/

/-- Data whose numbers are natural and fit 64 bits, and that nests no deeper than the given depth.
-/
inductive Writable : Nat → Plain → Prop
  | scalar {depth : Nat} {v : Scalar} (h : ScalarText v (scalarText v).toList) :
    Writable depth (.scalar () v)
  | list {depth : Nat} {ds : List Plain} (h : ∀ d ∈ ds, Writable depth d) :
    Writable (depth + 1) (.list () ds)
  | table {depth : Nat} {es : Entries Plain} (h : ∀ e ∈ es, Writable depth e.2) :
    Writable (depth + 1) (.table () es)

theorem blanks_newLine (k : Nat) : Blanks (newLine k).toList := by
  simp only [newLine, String.toList_append, String.toList_ofList]
  intro c hc
  simp at hc
  obtain rfl | ⟨-, rfl⟩ := hc <;> rfl

theorem itemsText_pretty {depth k j : Nat} {ds : List Plain} (hne : ds ≠ [])
    (h : ∀ d ∈ ds, Text depth d (textAt k d).toList) :
    ItemsText depth ds ((",".intercalate (itemTexts k ds)).toList ++ ((newLine j).toList ++ [']'])) := by
  induction ds with
  | nil => exact absurd rfl hne
  | cons d ds ih =>
    rw [List.forall_mem_cons] at h
    cases ds with
    | nil =>
      have htext := ItemsText.last (blanks_newLine k) h.1 (blanks_newLine j)
      simpa [itemTexts] using htext
    | cons d' ds =>
      have htext := ItemsText.more (blanks_newLine k) h.1 blanks_nil (ih (List.cons_ne_nil _ _) h.2)
      simpa [itemTexts, String.intercalate_cons_cons] using htext

theorem blanks_space : Blanks [' '] := by
  intro c hc
  obtain rfl := List.mem_singleton.1 hc
  rfl

theorem entriesText_pretty {depth k j : Nat} {es : Entries Plain} (hne : es ≠ [])
    (h : ∀ e ∈ es, Text depth e.2 (textAt k e.2).toList) :
    EntriesText depth es
      ((",".intercalate (entryTexts k es)).toList ++ ((newLine j).toList ++ ['\x7d'])) := by
  induction es with
  | nil => exact absurd rfl hne
  | cons e es ih =>
    obtain ⟨key, d⟩ := e
    rw [List.forall_mem_cons] at h
    cases es with
    | nil =>
      have htext := @EntriesText.last _ key _ _ _ _ _ _ (blanks_newLine k) blanks_nil blanks_space
        h.1 (blanks_newLine j)
      simpa [entryTexts] using htext
    | cons e' es =>
      obtain ⟨key', d'⟩ := e'
      have htext := @EntriesText.more _ key _ _ _ _ _ _ _ _ (blanks_newLine k) blanks_nil
        blanks_space h.1 blanks_nil (ih (List.cons_ne_nil _ _) h.2)
      simpa [entryTexts, String.intercalate_cons_cons] using htext

theorem text_textAt {depth : Nat} {d : Plain} (h : Writable depth d) (k : Nat) :
    Text depth d (textAt k d).toList := by
  induction h generalizing k with
  | scalar h => exact .scalar h
  | @list depth ds _ ih =>
    cases ds with
    | nil => simpa [textAt] using (Text.noItems blanks_nil : Text (depth + 1) _ _)
    | cons d ds =>
      have htext := Text.items
        (itemsText_pretty (j := k) (List.cons_ne_nil d ds) fun d hd => ih d hd (k + 1))
      simpa [textAt] using htext
  | @table depth es _ ih =>
    cases es with
    | nil => simpa [textAt] using (Text.noEntries blanks_nil : Text (depth + 1) _ _)
    | cons e es =>
      have htext := Text.entries
        (entriesText_pretty (j := k) (List.cons_ne_nil e es) fun e he => ih e he (k + 1))
      simpa [textAt] using htext

theorem writes_pretty {d : Plain} (h : Writable nestLimit d) : Writes d (pretty d) :=
  ⟨[], _, [], blanks_nil, text_textAt h 0, blanks_nil, by rw [List.append_nil]; rfl⟩

/-! ## What is read -/

theorem sortedItems_eq (ds : List Plain) : sortedItems ds = ds.map sorted := by
  induction ds with
  | nil => rfl
  | cons d ds ih => rw [sortedItems, ih, List.map_cons]

theorem lookup_sortedEntries (es : Entries Plain) (k : String) :
    (sortedEntries es).lookup k = (es.lookup k).map sorted := by
  induction es with
  | nil => rfl
  | cons e es ih =>
    obtain ⟨key, d⟩ := e
    rw [sortedEntries, List.lookup_cons, List.lookup_cons, ih]
    cases k == key <;> rfl

theorem keys_sortedEntries (es : Entries Plain) :
    (sortedEntries es).map Prod.fst = es.map Prod.fst := by
  induction es with
  | nil => rfl
  | cons e es ih => rw [sortedEntries, List.map_cons, ih, List.map_cons]

/-- Entries under distinct keys are found again. -/
theorem lookup_ofEntries {es : Entries Plain} (h : (es.map Prod.fst).Nodup) (k : String) :
    (es.foldl (fun acc e => Entries.put e.1 e.2 acc) []).lookup k = es.lookup k := by
  have hfold : ∀ (es acc : Entries Plain), (es.map Prod.fst).Nodup →
      (es.foldl (fun acc e => Entries.put e.1 e.2 acc) acc).lookup k =
        (es.lookup k).or (acc.lookup k) := by
    intro es
    induction es with
    | nil => exact fun _ _ => rfl
    | cons e es ih =>
      intro acc hes
      obtain ⟨key, d⟩ := e
      obtain ⟨hkey, hes⟩ := List.nodup_cons.1 hes
      rw [List.foldl_cons, ih _ hes, Entries.lookup_put]
      by_cases hk : k = key
      · subst hk
        have hnone : es.lookup k = none := List.lookup_eq_none_iff.2 fun e he =>
          bne_iff_ne.2 fun heq => hkey (List.mem_map.2 ⟨e, he, heq.symm⟩)
        rw [hnone, if_pos rfl, List.lookup_cons_self]
        rfl
      · rw [if_neg hk, Entries.lookup_cons_of_ne hk]
  rw [hfold es [] h, List.lookup_nil, Option.or_none]

mutual

theorem ascending_sorted : ∀ d : Plain, (sorted d).Ascending
  | .scalar _ v => .scalar () v
  | .list _ ds => .list () (sortedItems ds)
  | .table _ es => Plain.ascending_ofEntries (ascending_sortedEntries es)

theorem ascending_sortedEntries : ∀ es : Entries Plain, ∀ e ∈ sortedEntries es, e.2.Ascending
  | [], _, h => absurd h List.not_mem_nil
  | (_, d) :: es, e, h => by
    obtain rfl | h := List.mem_cons.1 h
    · exact ascending_sorted d
    · exact ascending_sortedEntries es e h

end

/-- No table of the data has a key twice. -/
inductive Distinct : Plain → Prop
  | scalar (v : Scalar) : Distinct (.scalar () v)
  | list (ds : List Plain) : Distinct (.list () ds)
  | table (es : Entries Plain) (keys : (es.map Prod.fst).Nodup)
    (values : ∀ e ∈ es, Distinct e.2) : Distinct (.table () es)

/-- The order of entries makes no difference to what stands under keys. -/
theorem at?_sorted {d : Plain} (h : Distinct d) (keys : List String) :
    (sorted d).at? keys = (d.at? keys).map sorted := by
  induction keys generalizing d with
  | nil => rfl
  | cons k keys ih =>
    cases h with
    | scalar v => rfl
    | list ds => rfl
    | table es hkeys hvalues =>
      rw [sorted, Plain.ofEntries, Datum.at?, Datum.at?, lookup_ofEntries, lookup_sortedEntries]
      · cases hd : es.lookup k with
        | none => rfl
        | some d => exact ih (hvalues _ (Entries.mem_of_lookup hd))
      · rw [keys_sortedEntries]
        exact hkeys

end Json

end BuildGate.Data
