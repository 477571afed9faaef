import BuildGate.Line
import BuildGate.Proofs.ByteMatches
import Mathlib.Algebra.GroupWithZero.Nat
import Mathlib.Data.Nat.Basic
import Mathlib.Order.Monotone.Defs

/-!
# The line that holds an offset

The line of an offset is found by three passes over bytes, and its text is then cut out of the text
between the offsets they give. Since no byte of another character is a line feed, the passes never
stop within a character. What they give is one of the pieces between line feeds: the one whose bytes,
with the line feed that ends it, include the offset.

**Results.**
* `count_feed`, `exists_of_feed`: line feeds among bytes are those among characters.
* `Parted`, `around_parts`: a text is cut by the passes before, around and behind a line.
* `splitOn_line`: this line among the pieces of the text.
* `locate_line`: the line of every offset, and how it depends on the offset.
-/
namespace BuildGate

namespace Line

open Slice
open Glob.Exclude (bytesOf_ascii lt_of_mem_bytesOf Begins begins_bytesOf_append
  exists_encode_of_suffix exists_of_encode_eq)

/-! ## Line feeds -/

/-- A line feed is one byte, and no byte of another character. -/
theorem count_feed_char (c : Char) :
    (String.utf8EncodeChar c).count feed = if c = '\n' then 1 else 0 := by
  by_cases hascii : c ≤ '\x7f'
  · have hle : c.toNat ≤ 127 := hascii
    have hbytes : String.utf8EncodeChar c = [UInt8.ofNat c.toNat] := bytesOf_ascii hascii
    have hfeed : UInt8.ofNat c.toNat = feed ↔ c = '\n' := by
      rw [← UInt8.toNat_inj, UInt8.toNat_ofNat', ← Char.toNat_inj]
      change c.toNat % 256 = 10 ↔ c.toNat = 10
      omega
    rw [hbytes, List.count_singleton]
    simp only [beq_iff_eq, hfeed]
  · have hne : c ≠ '\n' := fun h => hascii (by rw [h]; decide)
    rw [if_neg hne, List.count_eq_zero]
    intro hmem
    have hlt : 127 < feed.toNat := lt_of_mem_bytesOf hascii hmem
    exact absurd hlt (by decide)

/-- There are as many line feeds among the bytes of a text as among its characters. -/
theorem count_feed (cs : List Char) : (bytes cs).count feed = cs.count '\n' := by
  induction cs with
  | nil => rfl
  | cons c cs ih =>
    rw [bytes_cons, List.count_append, count_feed_char, ih, List.count_cons, Nat.add_comm]
    simp only [beq_iff_eq]

/-- What stands around a line feed among bytes is text. -/
theorem exists_of_feed {cs : List Char} {x y : List UInt8} (h : bytes cs = x ++ feed :: y) :
    ∃ a b, cs = a ++ '\n' :: b ∧ bytes a = x ∧ bytes b = y := by
  have hbegins : Begins (feed :: y) := begins_bytesOf_append '\n' y
  have hsuffix : feed :: y <:+ Glob.Exclude.encode cs := ⟨x, h.symm⟩
  obtain ⟨r, ⟨a, rfl⟩, hr⟩ := exists_encode_of_suffix hsuffix hbegins
  obtain ⟨b, rfl, rfl⟩ := exists_of_encode_eq (c := '\n') (r := y) hr.symm
  refine ⟨a, b, rfl, ?_, rfl⟩
  rw [bytes_append] at h
  exact List.append_cancel_right h

/-! ## Cutting a text around a line -/

/-- What a pass up to a line feed takes, and what it leaves. -/
theorem exists_takeWhile (bs : List UInt8) : ∃ rest, bs = bs.takeWhile (· != feed) ++ rest ∧
    feed ∉ bs.takeWhile (· != feed) ∧ (rest = [] ∨ ∃ b, rest = feed :: b) := by
  refine ⟨bs.dropWhile (· != feed), List.takeWhile_append_dropWhile.symm, fun h => ?_, ?_⟩
  · simpa using List.all_eq_true.1 List.all_takeWhile _ h
  · cases hrest : bs.dropWhile (· != feed) with
    | nil => exact .inl rfl
    | cons c b =>
      have hc := List.head?_dropWhile_not (· != feed) bs
      simp only [hrest, List.head?_cons, bne_eq_false_iff_eq] at hc
      exact .inr ⟨b, by rw [hc]⟩

/-- Bytes are cut before and behind a line, and the offset lies in it or at its end. -/
theorem around_bytes (bs : List UInt8) (offset : Nat) : ∃ x line y, bs = x ++ line ++ y ∧
    x.length = (around bs offset).first ∧ (x ++ line).length = (around bs offset).last ∧
    (around bs offset).number = x.count feed + 1 ∧
    (x = [] ∨ ∃ a, x = a ++ [feed]) ∧ (y = [] ∨ ∃ b, y = feed :: b) ∧ feed ∉ line ∧
    x.length ≤ min offset bs.length ∧ min offset bs.length ≤ (x ++ line).length := by
  obtain ⟨x, hx, hfront, hopens⟩ := exists_takeWhile (bs.take offset).reverse
  obtain ⟨y, hy, hback, hcloses⟩ := exists_takeWhile (bs.drop offset)
  generalize hfronted : (bs.take offset).reverse.takeWhile (· != feed) = front at hx hfront
  generalize hbacked : (bs.drop offset).takeWhile (· != feed) = back at hy hback
  have hbefore : bs.take offset = x.reverse ++ front.reverse := by
    rw [← List.reverse_append, ← hx, List.reverse_reverse]
  have hlen : (bs.take offset).length = x.length + front.length := by
    rw [hbefore, List.length_append, List.length_reverse, List.length_reverse]
  have hcount : (bs.take offset).count feed = x.count feed := by
    rw [hbefore, List.count_append, List.count_reverse, List.count_reverse,
      List.count_eq_zero.2 hfront, Nat.add_zero]
  have hclamped : min offset bs.length = x.length + front.length := by
    rw [← hlen, List.length_take]
  refine ⟨x.reverse, front.reverse ++ back, y, ?_, ?_, ?_, ?_, ?_, hcloses, ?_, ?_, ?_⟩
  · rw [← List.append_assoc, ← hbefore, List.append_assoc, ← hy, List.take_append_drop]
  · simp only [around, hfronted, hlen, List.length_reverse]
    omega
  · simp only [around, hbacked, hlen, List.length_append, List.length_reverse]
    omega
  · simp only [around, hcount, List.count_reverse]
    omega
  · rcases hopens with rfl | ⟨a, rfl⟩
    · exact .inl rfl
    · exact .inr ⟨a.reverse, List.reverse_cons⟩
  · rw [List.mem_append, List.mem_reverse, not_or]
    exact ⟨hfront, hback⟩
  · rw [hclamped, List.length_reverse]
    omega
  · rw [hclamped, List.length_append, List.length_append, List.length_reverse, List.length_reverse]
    omega

/-- `cs` is cut before and behind the `line` that `e` tells of. -/
structure Parted (cs : List Char) (e : Extent) (front line back : List Char) : Prop where
  text : cs = front ++ line ++ back
  first : (bytes front).length = e.first
  last : (bytes (front ++ line)).length = e.last
  number : e.number = front.count '\n' + 1
  opens : front = [] ∨ ∃ a, front = a ++ ['\n']
  closes : back = [] ∨ ∃ b, back = '\n' :: b
  no_feed : '\n' ∉ line

/-- The passes over bytes cut between characters. -/
theorem around_parts (cs : List Char) (offset : Nat) : ∃ front line back,
    Parted cs (around (bytes cs) offset) front line back ∧
      (bytes front).length ≤ min offset (bytes cs).length ∧
      min offset (bytes cs).length ≤ (bytes (front ++ line)).length := by
  obtain ⟨x, m, y, hbytes, hfirst, hlast, hnumber, hopens, hcloses, hm, hle, hge⟩ :=
    around_bytes (bytes cs) offset
  obtain ⟨front, r, rfl, rfl, hr, hfront⟩ : ∃ front r, cs = front ++ r ∧ bytes front = x ∧
      bytes r = m ++ y ∧ (front = [] ∨ ∃ a, front = a ++ ['\n']) := by
    rcases hopens with rfl | ⟨a, rfl⟩
    · exact ⟨[], cs, rfl, rfl, by simpa using hbytes, .inl rfl⟩
    · rw [List.append_assoc, List.append_assoc, List.singleton_append] at hbytes
      obtain ⟨a, r, rfl, rfl, hr⟩ := exists_of_feed hbytes
      exact ⟨a ++ ['\n'], r, by simp, bytes_append a ['\n'], hr, .inr ⟨a, rfl⟩⟩
  obtain ⟨line, back, rfl, rfl, hback⟩ : ∃ line back, r = line ++ back ∧ bytes line = m ∧
      (back = [] ∨ ∃ b, back = '\n' :: b) := by
    rcases hcloses with rfl | ⟨b, rfl⟩
    · exact ⟨r, [], by simp, by simpa using hr, .inl rfl⟩
    · obtain ⟨line, b, rfl, rfl, -⟩ := exists_of_feed hr
      exact ⟨line, '\n' :: b, rfl, rfl, .inr ⟨b, rfl⟩⟩
  rw [← bytes_append] at hlast hge
  rw [count_feed] at hnumber
  have hline : '\n' ∉ line := by rwa [← List.count_eq_zero, ← count_feed, List.count_eq_zero]
  exact ⟨front, line, back,
    ⟨(List.append_assoc ..).symm, hfirst, hlast, hnumber, hfront, hback, hline⟩, hle, hge⟩

/-! ## The pieces between line feeds -/

/-- How many bytes `pieces` have, each with the line feed behind it. -/
def size (pieces : List (List Char)) : Nat := (pieces.map fun l => (bytes l).length + 1).sum

theorem splitOn_feed (a b : List Char) :
    (a ++ '\n' :: b).splitOn '\n' = a.splitOn '\n' ++ b.splitOn '\n' :=
  List.splitOnP_append_cons a b (by simp)

theorem splitOn_no_feed {line : List Char} (h : '\n' ∉ line) : line.splitOn '\n' = [line] :=
  List.splitOnP_eq_singleton fun _ hc => beq_eq_false_iff_ne.2 fun heq => h (heq ▸ hc)

/-- Another character stands at the start of the first piece. -/
theorem splitOn_cons {c : Char} (hc : c ≠ '\n') (cs : List Char) : ∃ l ls,
    cs.splitOn '\n' = l :: ls ∧ (c :: cs).splitOn '\n' = (c :: l) :: ls := by
  obtain ⟨l, ls, hls⟩ := List.exists_cons_of_ne_nil (List.splitOnP_ne_nil (· == '\n') cs)
  have hcons := List.splitOnP_cons_eq_if_modifyHead (p := (· == '\n')) c cs
  rw [if_neg (by simpa using hc), hls] at hcons
  exact ⟨l, ls, hls, hcons⟩

/-- There is one piece more than there are line feeds, and the last piece is not ended by one. -/
theorem length_size_splitOn (cs : List Char) : (cs.splitOn '\n').length = cs.count '\n' + 1 ∧
    size (cs.splitOn '\n') = (bytes cs).length + 1 := by
  induction cs with
  | nil => exact ⟨rfl, rfl⟩
  | cons c cs ih =>
    obtain ⟨hlength, hsize⟩ := ih
    by_cases hc : c = '\n'
    · have hsplit : (c :: cs).splitOn '\n' = [] :: cs.splitOn '\n' := by
        rw [hc]
        exact splitOn_feed [] cs
      rw [hsplit, List.length_cons, hlength, size, List.map_cons, List.sum_cons]
      change _ ∧ 1 + size (cs.splitOn '\n') = _
      rw [hsize, length_bytes_cons, hc, List.count_cons_self]
      exact ⟨rfl, by rw [show '\n'.utf8Size = 1 from rfl]; omega⟩
    · obtain ⟨l, ls, hls, hsplit⟩ := splitOn_cons hc cs
      rw [hls, List.length_cons] at hlength
      rw [hls, size, List.map_cons, List.sum_cons] at hsize
      rw [hsplit, List.length_cons, hlength, size, List.map_cons, List.sum_cons,
        length_bytes_cons, length_bytes_cons, List.count_cons_of_ne hc]
      exact ⟨rfl, by omega⟩

/-- The line between what stands before and behind it is one of the pieces. -/
theorem splitOn_line {cs front line back : List Char} {e : Extent}
    (h : Parted cs e front line back) : ∃ earlier later,
      cs.splitOn '\n' = earlier ++ line :: later ∧ earlier.length + 1 = e.number ∧
        size earlier = e.first := by
  obtain ⟨later, hlater⟩ : ∃ later, (line ++ back).splitOn '\n' = line :: later := by
    rcases h.closes with rfl | ⟨b, rfl⟩
    · exact ⟨[], by rw [List.append_nil, splitOn_no_feed h.no_feed]⟩
    · exact ⟨b.splitOn '\n', by rw [splitOn_feed, splitOn_no_feed h.no_feed]; rfl⟩
  rw [h.text, h.number, ← h.first, List.append_assoc]
  rcases h.opens with rfl | ⟨a, rfl⟩
  · exact ⟨[], later, hlater, rfl, rfl⟩
  · obtain ⟨hlength, hsize⟩ := length_size_splitOn a
    refine ⟨a.splitOn '\n', later, ?_, ?_, ?_⟩
    · rw [List.append_assoc, List.singleton_append, splitOn_feed, hlater]
    · rw [hlength, List.count_append]
      rfl
    · rw [hsize, length_bytes_append]
      rfl

end Line

/-! ## The line of an offset -/

open Slice Line

/-- `line` is the line of `offset` in `text`. An offset past the end counts as the end. -/
structure LineOf (text : String) (offset : Nat) (line : LineInfo) : Prop where
  /-- The text of the line lies between characters of the text. -/
  sliced : slice? text.toList (around (bytes text.toList) offset).first
    (around (bytes text.toList) offset).last = some line.text.toList
  /-- It is the piece of its number, -/
  number_pos : 1 ≤ line.number
  number_le : line.number ≤ (text.toList.splitOn '\n').length
  piece : (text.toList.splitOn '\n')[line.number - 1]? = some line.text.toList
  no_feed : '\n' ∉ line.text.toList
  /-- and the offset is one of its bytes or its end. -/
  size_le : size ((text.toList.splitOn '\n').take (line.number - 1)) ≤ min offset text.utf8ByteSize
  le_size : min offset text.utf8ByteSize ≤
    size ((text.toList.splitOn '\n').take (line.number - 1)) + line.text.utf8ByteSize

theorem length_bytes_toList (s : String) : (bytes s.toList).length = s.utf8ByteSize := by
  have h : s.toByteArray = (bytes s.toList).toByteArray := (String.utf8Encode_toList (b := s)).symm
  rw [← String.size_toByteArray, h, List.size_toByteArray]

theorem lineOf_locate (text : String) (offset : Nat) : LineOf text offset (locate text offset) := by
  obtain ⟨front, line, back, h, hle, hge⟩ := around_parts text.toList offset
  obtain ⟨earlier, later, hsplit, hnumber, hsize⟩ := splitOn_line h
  have hsliced : slice? text.toList (around (bytes text.toList) offset).first
      (around (bytes text.toList) offset).last = some line :=
    slice?_eq_some.2 ⟨front, back, h.text, h.first, h.last⟩
  have hlocate : locate text offset = ⟨earlier.length + 1, String.ofList line⟩ := by
    rw [locate, hsliced, hnumber]
    rfl
  have htake : (earlier ++ line :: later).take earlier.length = earlier := by simp
  rw [h.first] at hle
  rw [length_bytes_append, h.first] at hge
  rw [hlocate]
  refine
    { sliced := by rw [hsliced, String.toList_ofList]
      number_pos := Nat.le_add_left 1 _
      number_le := ?_
      piece := ?_
      no_feed := by rw [String.toList_ofList]; exact h.no_feed
      size_le := ?_
      le_size := ?_ }
  · rw [hsplit, List.length_append, List.length_cons]
    change earlier.length + 1 ≤ _
    omega
  · rw [hsplit, String.toList_ofList]
    simp
  · change size (((text.toList).splitOn '\n').take earlier.length) ≤ _
    rw [hsplit, htake, hsize, ← length_bytes_toList]
    exact hle
  · change _ ≤ size (((text.toList).splitOn '\n').take earlier.length) + _
    rw [hsplit, htake, hsize, ← length_bytes_toList, ← length_bytes_toList, String.toList_ofList]
    exact hge

theorem locate_number (text : String) (offset : Nat) :
    (locate text offset).number = 1 + ((bytes text.toList).take offset).count feed := rfl

/-- A later offset lies on no earlier line, and on the same line if and only if no line feed lies
between the two. -/
theorem locate_number_add (text : String) (a n : Nat) :
    (locate text a).number ≤ (locate text (a + n)).number ∧
      ((locate text a).number = (locate text (a + n)).number ↔
        ∀ i, a ≤ i → i < a + n → (bytes text.toList)[i]? ≠ some feed) := by
  have hcount : (locate text (a + n)).number =
      (locate text a).number + (((bytes text.toList).drop a).take n).count feed := by
    rw [locate_number, locate_number, List.take_add, List.count_append, Nat.add_assoc]
  refine ⟨by omega, ?_⟩
  have hsame : (locate text a).number = (locate text (a + n)).number ↔
      feed ∉ ((bytes text.toList).drop a).take n := by
    rw [← List.count_eq_zero, hcount]
    omega
  rw [hsame, List.mem_iff_getElem?, not_exists]
  simp only [List.getElem?_take, List.getElem?_drop]
  constructor
  · intro h i hai hin
    have hi := h (i - a)
    rwa [if_pos (by omega), show a + (i - a) = i by omega] at hi
  · intro h i
    split
    next hin => exact h (a + i) (by omega) (by omega)
    next => exact fun h => by cases h

/-- `locate` gives the `LineOf` every offset, and the numbers of two offsets are the same if and
only if no line feed lies between them. -/
theorem locate_line (text : String) :
    (∀ offset, LineOf text offset (locate text offset)) ∧
      Monotone (fun offset => (locate text offset).number) ∧
      ∀ a b, (locate text a).number = (locate text b).number ↔
        ∀ i, min a b ≤ i → i < max a b → (bytes text.toList)[i]? ≠ some feed := by
  refine ⟨lineOf_locate text, fun a b h => ?_, fun a b => ?_⟩
  · obtain ⟨n, rfl⟩ := Nat.exists_eq_add_of_le h
    exact (locate_number_add text a n).1
  rcases Nat.le_total a b with h | h
  · obtain ⟨n, rfl⟩ := Nat.exists_eq_add_of_le h
    rw [Nat.min_eq_left h, Nat.max_eq_right h]
    exact (locate_number_add text a n).2
  · obtain ⟨n, rfl⟩ := Nat.exists_eq_add_of_le h
    rw [Nat.min_eq_right h, Nat.max_eq_left h, eq_comm]
    exact (locate_number_add text b n).2

end BuildGate
