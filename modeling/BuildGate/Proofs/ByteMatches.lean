import BuildGate.Glob.Exclude
import BuildGate.Proofs.LiteralPatterns

/-!
# What takes a path away, by characters

A pattern that takes files away is matched against bytes, and where a star ends may lie within a
character. But whatever stands behind a star begins with a whole character or is nothing, so a match
can always be cut between characters, and a star stands for characters as well. A question mark and a
class take one byte, which is one character in a text of ASCII characters; a class of these that is
not negated takes one character of any text.

**Results.**
* `exists_encode_of_suffix`: bytes behind a cut that begin a character are those of characters.
* `covers_literal`, `covers_any`, `covers_class`: what tokens match, by characters.
* `covers_prefix`, `covers_inner`, `covers_suffix`: what `**` matches.
-/
namespace BuildGate.Glob.Exclude

/-! ## Remainders -/

/-- The tokens `ts` match all of the bytes `s`. -/
def Covers (ts : List Exclude) (s : List UInt8) : Prop := [] ∈ restsAll ts s

/-- Only the empty remainder has no bytes, so it is not taken for another one. -/
theorem nil_mem_distinctRests (rs : List (List UInt8)) : [] ∈ distinctRests rs ↔ [] ∈ rs := by
  unfold distinctRests
  rw [List.mem_reverse]
  suffices h : ∀ acc : List Nat × List (List UInt8), (0 ∈ acc.1 ↔ [] ∈ acc.2) →
      ([] ∈ (rs.foldl (fun (acc : List Nat × List (List UInt8)) r =>
        if acc.1.contains r.length then acc else (r.length :: acc.1, r :: acc.2)) acc).2 ↔
        [] ∈ acc.2 ∨ [] ∈ rs) by
    simpa using h ([], []) (by simp)
  induction rs with
  | nil => simp
  | cons r rs ih =>
    intro acc hacc
    rw [List.foldl_cons, List.mem_cons]
    by_cases hr : r.length ∈ acc.1
    · rw [if_pos (by simpa using hr), ih acc hacc]
      constructor
      · rintro (h | h)
        · exact .inl h
        · exact .inr (.inr h)
      · rintro (h | h | h)
        · exact .inl h
        · rw [← h] at hr
          exact .inl (hacc.1 hr)
        · exact .inr h
    · have hmore : 0 ∈ r.length :: acc.1 ↔ [] ∈ r :: acc.2 := by
        rw [List.mem_cons, List.mem_cons, hacc, eq_comm, List.length_eq_zero_iff, eq_comm]
      rw [if_neg (by simpa using hr), ih _ hmore, List.mem_cons, or_assoc, or_left_comm]

variable {ts : List Exclude} {t : Exclude} {s : List UInt8}

theorem covers_nil : Covers [] s ↔ s = [] := by
  rw [Covers, restsAll, List.mem_singleton, eq_comm]

theorem covers_cons : Covers (t :: ts) s ↔ ∃ r ∈ rests t s, Covers ts r := by
  rw [Covers, restsAll, nil_mem_distinctRests, List.mem_flatMap]
  rfl

theorem mem_restsAfter {p : UInt8 → Bool} {r : List UInt8} :
    r ∈ restsAfter p s ↔ ∃ front b, s = front ++ b :: r ∧ p b = true := by
  induction s with
  | nil => simp [restsAfter]
  | cons c s ih =>
    have hcons : (∃ front b, c :: s = front ++ b :: r ∧ p b = true) ↔
        (r = s ∧ p c = true) ∨ ∃ front b, s = front ++ b :: r ∧ p b = true := by
      constructor
      · rintro ⟨front, b, heq, hb⟩
        cases front with
        | nil =>
          obtain ⟨rfl, rfl⟩ := List.cons.inj heq
          exact .inl ⟨rfl, hb⟩
        | cons d front => exact .inr ⟨front, b, (List.cons.inj heq).2, hb⟩
      · rintro (⟨rfl, hc⟩ | ⟨front, b, rfl, hb⟩)
        · exact ⟨[], c, rfl, hc⟩
        · exact ⟨c :: front, b, rfl, hb⟩
    rw [hcons, restsAfter]
    split
    next hc => rw [List.mem_cons, ih]; simp [hc]
    next hc => rw [ih]; simp [hc]

theorem mem_rests_many {r : List UInt8} : r ∈ rests .many s ↔ r <:+ s := by
  rw [rests, List.mem_cons, mem_restsAfter]
  constructor
  · rintro (rfl | ⟨front, b, rfl, -⟩)
    · exact List.suffix_refl _
    · exact ⟨front ++ [b], by simp⟩
  · rintro ⟨front, rfl⟩
    rcases List.eq_nil_or_concat front with rfl | ⟨front, b, rfl⟩
    · exact .inl rfl
    · exact .inr ⟨front, b, by simp, rfl⟩

theorem mem_rests_literal {c : Char} {r : List UInt8} :
    r ∈ rests (.literal c) s ↔ s = bytesOf c ++ r := by
  rw [rests, Option.mem_toList]
  generalize bytesOf c = text
  induction text generalizing s with
  | nil => rw [dropText, Option.some_inj, List.nil_append]
  | cons b text ih =>
    cases s with
    | nil => simp [dropText]
    | cons d s =>
      rw [dropText, List.cons_append, List.cons.injEq]
      split
      next h => rw [ih, h]; simp
      next h => simp [Ne.symm h]

/-- A token that takes bytes by itself, as all but `alternates` do. -/
def NoBraces : Exclude → Prop
  | .alternates _ => False
  | _ => True

theorem mem_cons_restsAfter {p : UInt8 → Bool} {r : List UInt8} :
    r ∈ s :: restsAfter p s ↔ ∃ u, s = u ++ r ∧ [] ∈ u :: restsAfter p u := by
  simp only [List.mem_cons, mem_restsAfter]
  constructor
  · rintro (rfl | ⟨front, b, rfl, hb⟩)
    · exact ⟨[], rfl, .inl rfl⟩
    · exact ⟨front ++ [b], by simp, .inr ⟨front, b, rfl, hb⟩⟩
  · rintro ⟨u, rfl, rfl | ⟨front, b, rfl, hb⟩⟩
    · exact .inl rfl
    · exact .inr ⟨front, b, by simp, hb⟩

/-- A token that takes a first byte and goes on from there. -/
theorem mem_rests_first (p : UInt8 → Prop) [DecidablePred p] (next : List UInt8 → List (List UInt8))
    {r : List UInt8} (hnext : ∀ v, r ∈ next v ↔ ∃ u, v = u ++ r ∧ [] ∈ next u)
    (hnil : rests t [] = []) (hcons : ∀ b v, rests t (b :: v) = if p b then next v else []) :
    r ∈ rests t s ↔ ∃ u, s = u ++ r ∧ [] ∈ rests t u := by
  cases s with
  | nil => simp [hnil]
  | cons b s =>
    rw [hcons]
    constructor
    · split
      next hb =>
        intro hr
        obtain ⟨u, rfl, hu⟩ := (hnext s).1 hr
        exact ⟨b :: u, rfl, by rwa [hcons, if_pos hb]⟩
      · exact fun hr => by cases hr
    · rintro ⟨u, heq, hu⟩
      cases u with
      | nil => rw [hnil] at hu; cases hu
      | cons c u =>
        obtain ⟨rfl, rfl⟩ := List.cons.inj heq
        rw [hcons] at hu
        split at hu
        next hb => rw [if_pos hb]; exact (hnext _).2 ⟨u, rfl, hu⟩
        · cases hu

/-- Such a token takes the same bytes whatever stands behind them. -/
theorem mem_rests_iff (ht : NoBraces t) {r : List UInt8} :
    r ∈ rests t s ↔ ∃ u, s = u ++ r ∧ [] ∈ rests t u := by
  have hone : ∀ v, r ∈ [v] ↔ ∃ u, v = u ++ r ∧ [] ∈ [u] := by simp [eq_comm]
  cases t with
  | literal c => simp [mem_rests_literal]
  | any =>
    exact mem_rests_first (fun _ => True) _ hone (by rfl) fun b v => by rw [rests, if_pos trivial]
  | many => simpa only [rests] using mem_cons_restsAfter
  | recursivePrefix => simpa only [rests] using mem_cons_restsAfter
  | recursiveSuffix =>
    exact mem_rests_first (· = slash) _ (fun _ => mem_cons_restsAfter) (by rfl) fun b v => by rw [rests]
  | recursiveInner =>
    exact mem_rests_first (· = slash) _ (fun _ => mem_cons_restsAfter) (by rfl) fun b v => by rw [rests]
  | cls negated ranges =>
    exact mem_rests_first (fun b => (inRanges ranges b != negated) = true) _ hone (by rfl)
      fun b v => by rw [rests]
  | alternates branches => exact ht.elim

/-- Tokens one behind the other take bytes one behind the other. -/
theorem covers_append {us : List Exclude} (h : ∀ t ∈ ts, NoBraces t) :
    Covers (ts ++ us) s ↔ ∃ u v, s = u ++ v ∧ Covers ts u ∧ Covers us v := by
  induction ts generalizing s with
  | nil =>
    constructor
    · exact fun h => ⟨[], s, rfl, covers_nil.2 rfl, h⟩
    · rintro ⟨u, v, rfl, hu, hv⟩
      rwa [covers_nil.1 hu]
  | cons t ts ih =>
    rw [List.forall_mem_cons] at h
    rw [List.cons_append, covers_cons]
    constructor
    · rintro ⟨r, hr, hrest⟩
      obtain ⟨w, rfl, hw⟩ := (mem_rests_iff h.1).1 hr
      obtain ⟨u, v, rfl, hu, hv⟩ := (ih h.2).1 hrest
      exact ⟨w ++ u, v, (List.append_assoc ..).symm,
        covers_cons.2 ⟨u, (mem_rests_iff h.1).2 ⟨w, rfl, hw⟩, hu⟩, hv⟩
    · rintro ⟨u, v, rfl, hu, hv⟩
      obtain ⟨r, hr, hrest⟩ := covers_cons.1 hu
      obtain ⟨w, rfl, hw⟩ := (mem_rests_iff h.1).1 hr
      exact ⟨r ++ v, (mem_rests_iff h.1).2 ⟨w, List.append_assoc .., hw⟩,
        (ih h.2).2 ⟨r, v, rfl, hrest, hv⟩⟩

/-! ## Bytes of characters -/

/-- The bytes of the text `cs`. -/
def encode (cs : List Char) : List UInt8 := cs.flatMap bytesOf

theorem encode_append (as bs : List Char) : encode (as ++ bs) = encode as ++ encode bs :=
  List.flatMap_append

theorem encode_cons (c : Char) (cs : List Char) : encode (c :: cs) = bytesOf c ++ encode cs := rfl

theorem bytesOf_ne_nil (c : Char) : bytesOf c ≠ [] := String.utf8EncodeChar_ne_nil

theorem encode_eq_nil {cs : List Char} : encode cs = [] ↔ cs = [] := by
  cases cs with
  | nil => simp [encode]
  | cons c cs => simp [encode_cons, bytesOf_ne_nil]

theorem toList_loop_eq (bs : ByteArray) (i : Nat) (r : List UInt8) :
    ByteArray.toList.loop bs i r = r.reverse ++ bs.data.toList.drop i := by
  fun_induction ByteArray.toList.loop bs i r with
  | case1 i r hlt ih =>
    have hi : i < bs.data.toList.length := by simpa using hlt
    have hget : bs.get! i = bs.data.toList[i] := by
      change bs.data[i]! = _
      rw [getElem!_pos bs.data i (by simpa using hlt)]
      simp
    rw [ih, hget, List.reverse_cons, List.append_assoc, List.singleton_append,
      ← List.drop_eq_getElem_cons]
  | case2 i r hge =>
    rw [List.drop_eq_nil_of_le (by simpa using hge), List.append_nil]

theorem toUTF8_toList (s : String) : s.toUTF8.toList = encode s.toList := by
  have h : s.toUTF8 = (encode s.toList).toByteArray := (String.utf8Encode_toList (b := s)).symm
  rw [h, ByteArray.toList, toList_loop_eq, List.toList_data_toByteArray]
  rfl

/-- A text that begins with the bytes of a character begins with it. -/
theorem exists_of_encode_eq {cs : List Char} {c : Char} {r : List UInt8}
    (h : encode cs = bytesOf c ++ r) : ∃ cs', cs = c :: cs' ∧ r = encode cs' := by
  have hprefix : [c] <+: cs := by
    refine List.isPrefix_of_utf8Encode_append_eq_utf8Encode r.toByteArray ?_
    rw [List.utf8Encode_singleton, ← List.toByteArray_append]
    exact congrArg List.toByteArray h.symm
  obtain ⟨cs', rfl⟩ := hprefix
  exact ⟨cs', rfl, (List.append_cancel_left h).symm⟩

/-- The bytes `s` are none or begin with the first byte of a character. -/
def Begins (s : List UInt8) : Prop := ∀ b ∈ s.head?, b.IsUTF8FirstByte

theorem begins_bytesOf_append (c : Char) (r : List UInt8) : Begins (bytesOf c ++ r) := by
  intro b hb
  obtain ⟨x, xs, hx⟩ := List.exists_cons_of_ne_nil (bytesOf_ne_nil c)
  have hfirst : x.IsUTF8FirstByte := by
    have := UInt8.isUTF8FirstByte_getElem_zero_utf8EncodeChar (c := c)
    have hx' : String.utf8EncodeChar c = x :: xs := hx
    simpa [hx'] using this
  rw [hx] at hb
  cases hb
  exact hfirst

/-- Bytes at the end of a text that begin a character are those of characters. -/
theorem exists_encode_of_suffix {cs : List Char} (h : s <:+ encode cs) (hs : Begins s) :
    ∃ bs, bs <:+ cs ∧ s = encode bs := by
  induction cs with
  | nil => exact ⟨[], List.suffix_refl _, List.suffix_nil.1 h⟩
  | cons c cs ih =>
    obtain ⟨front, h⟩ := h
    rw [encode_cons, List.append_eq_append_iff] at h
    rcases h with ⟨k, hk, rfl⟩ | ⟨k, rfl, hk⟩
    · -- What is left of the character is all of it, or begins with a later byte of it.
      cases front with
      | nil => exact ⟨c :: cs, List.suffix_refl _, by rw [encode_cons, hk, List.nil_append]⟩
      | cons b front =>
        cases k with
        | nil => exact ⟨cs, List.suffix_cons c cs, rfl⟩
        | cons d k =>
          have hlt : (b :: front).length < (String.utf8EncodeChar c).length := by
            change _ < (bytesOf c).length
            rw [hk]
            simp
          have hd : (String.utf8EncodeChar c)[(b :: front).length] = d := by
            have hk' : String.utf8EncodeChar c = (b :: front) ++ d :: k := hk
            simp [hk']
          have hfirst : d.IsUTF8FirstByte := hs d rfl
          rw [← hd, UInt8.isUTF8FirstByte_getElem_utf8EncodeChar] at hfirst
          cases hfirst
    · obtain ⟨bs, hbs, rfl⟩ := ih ⟨k, hk.symm⟩
      exact ⟨bs, hbs.trans (List.suffix_cons c cs), rfl⟩

/-! ## Tokens by characters -/

section
variable {cs : List Char}

theorem covers_literal {c : Char} :
    Covers (.literal c :: ts) (encode cs) ↔ ∃ bs, cs = c :: bs ∧ Covers ts (encode bs) := by
  rw [covers_cons]
  constructor
  · rintro ⟨r, hr, h⟩
    obtain ⟨bs, rfl, rfl⟩ := exists_of_encode_eq (mem_rests_literal.1 hr)
    exact ⟨bs, rfl, h⟩
  · rintro ⟨bs, rfl, h⟩
    exact ⟨encode bs, mem_rests_literal.2 (encode_cons c bs), h⟩

/-- Bytes behind a slash are those of the characters behind it. -/
theorem exists_encode_of_slash {front r : List UInt8} (h : encode cs = front ++ slash :: r) :
    ∃ as bs, cs = as ++ '/' :: bs ∧ r = encode bs := by
  have hbegins : Begins (slash :: r) := begins_bytesOf_append '/' r
  obtain ⟨bs, ⟨as, rfl⟩, hr⟩ := exists_encode_of_suffix ⟨front, h.symm⟩ hbegins
  obtain ⟨bs, rfl, rfl⟩ := exists_of_encode_eq (c := '/') (r := r) hr.symm
  exact ⟨as, bs, rfl, rfl⟩

/-- Two stars at the start match nothing, or what ends in a slash. -/
theorem covers_prefix : Covers (.recursivePrefix :: ts) (encode cs) ↔
    Covers ts (encode cs) ∨ ∃ as bs, cs = as ++ '/' :: bs ∧ Covers ts (encode bs) := by
  rw [covers_cons]
  simp only [rests, List.mem_cons, mem_restsAfter, beq_iff_eq]
  constructor
  · rintro ⟨r, rfl | ⟨front, b, heq, rfl⟩, h⟩
    · exact .inl h
    · obtain ⟨as, bs, rfl, rfl⟩ := exists_encode_of_slash heq
      exact .inr ⟨as, bs, rfl, h⟩
  · rintro (h | ⟨as, bs, rfl, h⟩)
    · exact ⟨_, .inl rfl, h⟩
    · exact ⟨_, .inr ⟨encode as, slash, encode_append as ('/' :: bs), rfl⟩, h⟩

/-- Two stars between slashes match a slash, or what begins and ends in one. -/
theorem covers_inner : Covers (.recursiveInner :: ts) (encode cs) ↔
    ∃ bs, cs = '/' :: bs ∧ Covers (.recursivePrefix :: ts) (encode bs) := by
  simp only [covers_cons (t := .recursiveInner), covers_cons (t := .recursivePrefix)]
  constructor
  · rintro ⟨r, hr, h⟩
    cases hs : encode cs with
    | nil => rw [hs] at hr; cases hr
    | cons b s =>
      rw [hs, rests] at hr
      split at hr
      next hb =>
        subst hb
        obtain ⟨bs, rfl, rfl⟩ := exists_of_encode_eq (c := '/') (r := s) hs
        exact ⟨bs, rfl, r, hr, h⟩
      · cases hr
  · rintro ⟨bs, rfl, r, hr, h⟩
    refine ⟨r, ?_, h⟩
    rw [encode_cons, show bytesOf '/' = [slash] from rfl, List.singleton_append, rests, if_pos rfl]
    exact hr

/-- Two stars at the end match a slash and whatever stands behind it. -/
theorem covers_suffix (h : ∀ t ∈ ts, NoBraces t) : Covers (ts ++ [.recursiveSuffix]) (encode cs) ↔
    ∃ as bs, cs = as ++ '/' :: bs ∧ Covers ts (encode as) := by
  have hlast : ∀ v, Covers [.recursiveSuffix] v ↔ ∃ w, v = slash :: w := by
    intro v
    rw [covers_cons]
    simp only [covers_nil, exists_eq_right]
    cases v with
    | nil => simp [rests]
    | cons b v =>
      rw [rests]
      split
      next hb =>
        refine iff_of_true ?_ ⟨v, by rw [hb]⟩
        have := (mem_rests_many (s := v)).2 (List.nil_suffix)
        rwa [rests] at this
      next hb => simp [hb]
  rw [covers_append h]
  simp only [hlast]
  constructor
  · rintro ⟨u, v, heq, hu, w, rfl⟩
    obtain ⟨as, bs, rfl, rfl⟩ := exists_encode_of_slash heq
    have : encode (as ++ '/' :: bs) = encode as ++ slash :: encode bs := encode_append as ('/' :: bs)
    rw [this] at heq
    exact ⟨as, bs, rfl, by rwa [List.append_cancel_right heq]⟩
  · rintro ⟨as, bs, rfl, h⟩
    exact ⟨encode as, slash :: encode bs, encode_append as ('/' :: bs), h, _, rfl⟩

end

/-! ## Classes -/

theorem bytesOf_ascii {c : Char} (h : c ≤ '\x7f') : bytesOf c = [UInt8.ofNat c.toNat] := by
  have hle : c.val.toNat ≤ 127 := h
  rw [bytesOf, String.utf8EncodeChar, if_pos hle]
  rfl

/-- No byte of a character beyond ASCII is one of ASCII. -/
theorem lt_of_mem_bytesOf {c : Char} (h : ¬ c ≤ '\x7f') {b : UInt8} (hb : b ∈ bytesOf c) :
    127 < b.toNat := by
  have hlt : ¬ c.val.toNat ≤ 127 := h
  have hmod : ∀ n k m : Nat, 0 < m → 128 ≤ k → k + m ≤ 256 →
      127 < (UInt8.ofNat (n % m + k)).toNat := by
    intro n k m hpos hk hkm
    have := Nat.mod_lt n hpos
    rw [UInt8.toNat_ofNat']
    omega
  rw [bytesOf, String.utf8EncodeChar, if_neg hlt] at hb
  split at hb
  · simp only [List.mem_cons, List.not_mem_nil, or_false] at hb
    rcases hb with rfl | rfl <;> exact hmod _ _ _ (by decide) (by decide) (by decide)
  · split at hb
    · simp only [List.mem_cons, List.not_mem_nil, or_false] at hb
      rcases hb with rfl | rfl | rfl <;> exact hmod _ _ _ (by decide) (by decide) (by decide)
    · simp only [List.mem_cons, List.not_mem_nil, or_false] at hb
      rcases hb with rfl | rfl | rfl | rfl <;> exact hmod _ _ _ (by decide) (by decide) (by decide)

/-- A byte of ASCII begins a character. -/
theorem begins_of_ascii {b : UInt8} (h : b.toNat ≤ 127) (s : List UInt8) : Begins (b :: s) := by
  have hvalid : b.toNat.isValidChar := .inl (by omega)
  have hchar : (Char.ofNat b.toNat).toNat = b.toNat := by
    rw [Char.ofNat, dif_pos hvalid]
    rfl
  have hle : Char.ofNat b.toNat ≤ '\x7f' := by
    change (Char.ofNat b.toNat).toNat ≤ 127
    rwa [hchar]
  have hbytes : bytesOf (Char.ofNat b.toNat) = [b] := by
    rw [bytesOf_ascii hle, hchar, UInt8.ofNat_toNat]
  have := begins_bytesOf_append (Char.ofNat b.toNat) s
  rwa [hbytes] at this

/-- Against a byte of ASCII any byte of a character compares as the character does. -/
theorem le_iff_of_mem_bytesOf {c d : Char} (hc : c ≤ '\x7f') {b : UInt8} (hb : b ∈ bytesOf d) :
    (b ≤ UInt8.ofNat c.toNat ↔ d ≤ c) ∧ (UInt8.ofNat c.toNat ≤ b ↔ c ≤ d) := by
  have hle : c.toNat ≤ 127 := hc
  have hchars : ∀ x y : Char, x ≤ y ↔ x.toNat ≤ y.toNat := fun _ _ => Iff.rfl
  have hbyte : ∀ x : Char, x.toNat ≤ 127 → (UInt8.ofNat x.toNat).toNat = x.toNat := fun x hx => by
    rw [UInt8.toNat_ofNat']
    omega
  rw [UInt8.le_iff_toNat_le, UInt8.le_iff_toNat_le, hbyte c hle, hchars, hchars]
  by_cases hd : d ≤ '\x7f'
  · rw [bytesOf_ascii hd, List.mem_singleton] at hb
    rw [hb, hbyte d hd]
    exact ⟨Iff.rfl, Iff.rfl⟩
  · have := lt_of_mem_bytesOf hd hb
    have hlt : 127 < d.toNat := Nat.lt_of_not_le hd
    omega

/-- `cs` is ASCII: each character is one byte. -/
def Ascii (cs : List Char) : Prop := ∀ c ∈ cs, c ≤ '\x7f'

instance (cs : List Char) : Decidable (Ascii cs) := inferInstanceAs (Decidable (∀ c ∈ cs, _))

/-- Bytes at the end of such a text begin a character. -/
theorem Ascii.begins_of_suffix {cs : List Char} (h : Ascii cs) {s : List UInt8}
    (hs : s <:+ encode cs) : Begins s := by
  intro b hb
  have hmem : b ∈ encode cs := hs.subset (List.mem_of_mem_head? hb)
  obtain ⟨c, hc, hb⟩ := List.mem_flatMap.1 hmem
  rw [bytesOf_ascii (h c hc), List.mem_singleton] at hb
  have := begins_bytesOf_append c []
  rw [bytesOf_ascii (h c hc)] at this
  exact this b (by rw [hb]; rfl)

/-- Any byte is any character of such a text. -/
theorem covers_any {cs : List Char} (h : Ascii cs) :
    Covers (.any :: ts) (encode cs) ↔ ∃ c bs, cs = c :: bs ∧ Covers ts (encode bs) := by
  rw [covers_cons]
  cases cs with
  | nil => simp [encode, rests]
  | cons c cs =>
    rw [encode_cons, bytesOf_ascii (h c List.mem_cons_self), List.singleton_append, rests]
    simp [and_assoc]

section
variable {ranges : List (Char × Char)} (hordered : ∀ r ∈ ranges, r.1 ≤ r.2)
include hordered

/-- A byte of ASCII lies in a class as its character does. -/
theorem inRanges_ascii {c : Char} (hc : c ≤ '\x7f') :
    inRanges ranges (UInt8.ofNat c.toNat) = ranges.any fun r => r.1 ≤ c && c ≤ r.2 := by
  rw [Bool.eq_iff_iff, inRanges, List.any_eq_true, List.any_eq_true]
  refine exists_congr fun r => and_congr_right fun hr => ?_
  obtain ⟨lo, hi⟩ := r
  have hle : lo ≤ hi := hordered _ hr
  have hmem : ∀ d : Char, (bytesOf d).contains (UInt8.ofNat c.toNat) = true ↔ c = d := fun d => by
    rw [List.contains_iff_mem]
    constructor
    · intro h
      obtain ⟨hge, hle⟩ := le_iff_of_mem_bytesOf hc h
      exact Char.le_antisymm (hle.1 (UInt8.le_refl _)) (hge.1 (UInt8.le_refl _))
    · rintro rfl
      rw [bytesOf_ascii hc]
      exact List.mem_singleton_self _
  have hlast : ((bytesOf lo).getLastD 0 ≤ UInt8.ofNat c.toNat) ↔ lo ≤ c := by
    rw [List.getLastD_eq_getLast?, List.getLast?_eq_some_getLast (bytesOf_ne_nil lo)]
    exact (le_iff_of_mem_bytesOf hc (List.getLast_mem _)).1
  have hhead : (UInt8.ofNat c.toNat ≤ (bytesOf hi).headD 0) ↔ c ≤ hi := by
    rw [List.headD_eq_head?_getD, List.head?_eq_some_head (bytesOf_ne_nil hi)]
    exact (le_iff_of_mem_bytesOf hc (List.head_mem _)).2
  simp only [Bool.and_eq_true, decide_eq_true_eq]
  split
  next heq =>
    subst heq
    rw [hmem]
    exact ⟨fun h => h ▸ ⟨Char.le_refl _, Char.le_refl _⟩, fun h => Char.le_antisymm h.2 h.1⟩
  next =>
    simp only [Bool.or_eq_true, Bool.and_eq_true, decide_eq_true_eq, hmem, hlast, hhead]
    constructor
    · rintro ((rfl | rfl) | h)
      · exact ⟨Char.le_refl _, hle⟩
      · exact ⟨hle, Char.le_refl _⟩
      · exact h
    · exact .inr

/-- No byte beyond ASCII lies in a class of ASCII characters. -/
theorem inRanges_beyond (hascii : ∀ r ∈ ranges, r.2 ≤ '\x7f') {b : UInt8} (hb : 127 < b.toNat) :
    inRanges ranges b = false := by
  rw [Bool.eq_false_iff, ne_eq, inRanges, List.any_eq_true]
  rintro ⟨⟨lo, hi⟩, hr, hin⟩
  have hhi : hi ≤ '\x7f' := hascii _ hr
  have hlo : lo ≤ '\x7f' := Char.le_trans (hordered _ hr) hhi
  have hle : ∀ d : Char, d ≤ '\x7f' → ∀ x ∈ bytesOf d, ¬ b ≤ x := by
    intro d hd x hx hbx
    rw [bytesOf_ascii hd, List.mem_singleton] at hx
    have hd : d.toNat ≤ 127 := hd
    rw [hx, UInt8.le_iff_toNat_le, UInt8.toNat_ofNat'] at hbx
    omega
  have hno : ∀ d : Char, d ≤ '\x7f' → b ∉ bytesOf d := fun d hd hmem =>
    hle d hd b hmem (UInt8.le_refl _)
  dsimp only at hin
  split at hin
  · exact hno lo hlo (List.contains_iff_mem.1 hin)
  · simp only [Bool.or_eq_true, Bool.and_eq_true, decide_eq_true_eq, List.contains_iff_mem] at hin
    rcases hin with (hin | hin) | ⟨-, hin⟩
    · exact hno lo hlo hin
    · exact hno hi hhi hin
    · refine hle hi hhi _ ?_ hin
      rw [List.headD_eq_head?_getD, List.head?_eq_some_head (bytesOf_ne_nil hi)]
      exact List.head_mem _

/-- A class matches one character of a text of ASCII characters, and of any text if its own are. -/
theorem covers_class {negated : Bool} {cs : List Char}
    (h : Ascii cs ∨ negated = false ∧ ∀ r ∈ ranges, r.2 ≤ '\x7f') :
    Covers (.cls negated ranges :: ts) (encode cs) ↔ ∃ c bs, cs = c :: bs ∧
      ((ranges.any fun r => r.1 ≤ c && c ≤ r.2) != negated) = true ∧ Covers ts (encode bs) := by
  rw [covers_cons]
  cases cs with
  | nil => simp [encode, rests]
  | cons c cs =>
    have hcons : (∃ d bs, c :: cs = d :: bs ∧
        ((ranges.any fun r => r.1 ≤ d && d ≤ r.2) != negated) = true ∧ Covers ts (encode bs)) ↔
        ((ranges.any fun r => r.1 ≤ c && c ≤ r.2) != negated) = true ∧ Covers ts (encode cs) := by
      simp only [List.cons.injEq, and_assoc, exists_eq_left', exists_and_left]
    rw [hcons, encode_cons]
    by_cases hc : c ≤ '\x7f'
    · rw [bytesOf_ascii hc, List.singleton_append, rests, inRanges_ascii hordered hc]
      cases (ranges.any fun r => r.1 ≤ c && c ≤ r.2) != negated <;> simp
    · -- The first byte of the character is beyond the class, and so is the character.
      obtain ⟨rfl, hascii⟩ := h.resolve_left fun h => hc (h c List.mem_cons_self)
      obtain ⟨b, rest, hbytes⟩ := List.exists_cons_of_ne_nil (bytesOf_ne_nil c)
      have hno : inRanges ranges b = false :=
        inRanges_beyond hordered hascii (lt_of_mem_bytesOf hc (by rw [hbytes]; simp))
      have hno' : (ranges.any fun r => r.1 ≤ c && c ≤ r.2) = false := by
        rw [List.any_eq_false]
        intro r hr hin
        rw [Bool.and_eq_true, decide_eq_true_eq, decide_eq_true_eq] at hin
        exact hc (Char.le_trans hin.2 (hascii r hr))
      rw [hbytes, List.cons_append, rests, hno, hno']
      simp

end

end BuildGate.Glob.Exclude
