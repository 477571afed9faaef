/-!
# Parts of a text by bytes

Offsets into a text count the bytes of its characters. A part of a text is there only if both its
ends lie between two characters: what begins or ends within a character is no text.

**Results.**
* `behind?_eq_some`: what lies behind an offset, if it does not lie within a character.
* `slice?_eq_some`: the part between two offsets.
-/
namespace BuildGate.Slice

/-- The bytes of characters. -/
def bytes (text : List Char) : List UInt8 := text.flatMap String.utf8EncodeChar

/-- The characters behind an offset in bytes, unless it lies within a character or past the end. -/
def behind? : List Char → Nat → Option (List Char)
  | text, 0 => some text
  | [], _ + 1 => none
  | c :: text, n + 1 => if c.utf8Size ≤ n + 1 then behind? text (n + 1 - c.utf8Size) else none

/-- The characters between the offsets `first` and `last`, if both lie between characters and
`first` is not the greater one. -/
def slice? (text : List Char) (first last : Nat) : Option (List Char) :=
  if first ≤ last then do
    let rest ← behind? text first
    let after ← behind? text last
    return rest.take (rest.length - after.length)
  else none

/-! ## Bytes -/

theorem bytes_cons (c : Char) (text : List Char) :
    bytes (c :: text) = String.utf8EncodeChar c ++ bytes text := rfl

theorem bytes_append (a b : List Char) : bytes (a ++ b) = bytes a ++ bytes b :=
  List.flatMap_append

theorem length_bytes_cons (c : Char) (text : List Char) :
    (bytes (c :: text)).length = c.utf8Size + (bytes text).length := by
  rw [bytes_cons, List.length_append, String.length_utf8EncodeChar]

theorem length_bytes_append (a b : List Char) :
    (bytes (a ++ b)).length = (bytes a).length + (bytes b).length := by
  rw [bytes_append, List.length_append]

theorem length_bytes_eq_zero {text : List Char} : (bytes text).length = 0 ↔ text = [] := by
  cases text with
  | nil => simp [bytes]
  | cons c text =>
    have := Char.utf8Size_pos c
    rw [length_bytes_cons]
    simp
    omega

/-- Of two beginnings of a text the one that takes no more bytes is a beginning of the other. -/
theorem exists_of_append_eq {a b as bs : List Char} (h : a ++ as = b ++ bs)
    (hle : (bytes a).length ≤ (bytes b).length) : ∃ part, b = a ++ part ∧ as = part ++ bs := by
  rcases List.append_eq_append_iff.1 h with ⟨part, rfl, rfl⟩ | ⟨part, rfl, rfl⟩
  · exact ⟨part, rfl, rfl⟩
  · rw [length_bytes_append] at hle
    obtain rfl := length_bytes_eq_zero.1 (show (bytes part).length = 0 by omega)
    exact ⟨[], by simp, by simp⟩

/-! ## Parts -/

theorem behind?_eq_some {text rest : List Char} {n : Nat} :
    behind? text n = some rest ↔ ∃ before, text = before ++ rest ∧ (bytes before).length = n := by
  constructor
  · intro h
    fun_induction behind? text n with
    | case1 text =>
      cases h
      exact ⟨[], rfl, rfl⟩
    | case2 => cases h
    | case3 c text n hle ih =>
      obtain ⟨before, rfl, hlen⟩ := ih h
      refine ⟨c :: before, rfl, ?_⟩
      rw [length_bytes_cons]
      omega
    | case4 => cases h
  · rintro ⟨before, rfl, rfl⟩
    induction before with
    | nil => simp [bytes, behind?]
    | cons c before ih =>
      have hpos := Char.utf8Size_pos c
      rw [length_bytes_cons, List.cons_append]
      obtain ⟨n, hn⟩ : ∃ n, c.utf8Size + (bytes before).length = n + 1 := ⟨_, (Nat.succ_pred (by omega)).symm⟩
      rw [hn, behind?, if_pos (by omega)]
      rwa [show n + 1 - c.utf8Size = (bytes before).length by omega]

theorem slice?_eq_some {text part : List Char} {first last : Nat} :
    slice? text first last = some part ↔ ∃ before after, text = before ++ part ++ after ∧
      (bytes before).length = first ∧ (bytes (before ++ part)).length = last := by
  unfold slice?
  constructor
  · intro h
    split at h
    next hle =>
      simp only [bind, Option.bind_eq_some_iff, pure, Option.some_inj, behind?_eq_some] at h
      obtain ⟨rest, ⟨before, rfl, rfl⟩, after, ⟨front, htext, rfl⟩, rfl⟩ := h
      obtain ⟨part, rfl, rfl⟩ := exists_of_append_eq htext hle
      have hpart : (part ++ after).take ((part ++ after).length - after.length) = part := by simp
      rw [hpart]
      exact ⟨before, after, htext, rfl, rfl⟩
    next => cases h
  · rintro ⟨before, after, rfl, rfl, rfl⟩
    have hrest : behind? (before ++ part ++ after) (bytes before).length = some (part ++ after) :=
      behind?_eq_some.2 ⟨before, List.append_assoc .., rfl⟩
    have hafter : behind? (before ++ part ++ after) (bytes (before ++ part)).length = some after :=
      behind?_eq_some.2 ⟨before ++ part, rfl, rfl⟩
    rw [if_pos (by rw [length_bytes_append]; omega), hrest, hafter]
    simp

end BuildGate.Slice
