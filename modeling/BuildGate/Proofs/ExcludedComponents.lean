import BuildGate.Proofs.ByteMatches
import BuildGate.Proofs.ComponentMatches

/-!
# Components of a pattern that takes files away

A pattern that takes files away is read as one text, but where it is made of components, with `**`
only between slashes or at the start, it matches a path component by component too. The stars in it
stand for slashes as well, so a component takes one name of the path or several.

**Results.**
* `covers_word`: a component matches the same texts in both kinds of pattern.
* `covers_ofComponents`: what such a pattern matches.
* `accepts_ofComponents`, `accepts_below`: what it takes away.
-/
namespace BuildGate.Glob.Exclude

open Include

/-! ## One component -/

/-- The token that stands for the same characters in a pattern that takes files away. In a component
`**` is a `*` there. -/
def ofInclude : Include → Exclude
  | .char c => .literal c
  | .any => .any
  | .many => .many
  | .recursive => .many
  | .cls negated ranges => .cls negated ranges

/-- The text is ASCII, if `ascii` says that only such paths are in question. -/
def Legible (ascii : Bool) (cs : List Char) : Prop := ascii = true → Ascii cs

theorem legible_append {ascii : Bool} {as bs : List Char} :
    Legible ascii (as ++ bs) ↔ Legible ascii as ∧ Legible ascii bs := by
  simp only [Legible, Ascii, List.forall_mem_append, imp_and]

theorem Legible.of_cons {ascii : Bool} {c : Char} {cs : List Char} (h : Legible ascii (c :: cs)) :
    Legible ascii cs := (legible_append.1 (show Legible ascii ([c] ++ cs) from h)).2

/-- The tokens `xs` match nothing but what begins with a character. -/
def Anchored (xs : List Exclude) : Prop := ∀ s, Covers xs s → Begins s

section
variable {ascii : Bool} {ts : List Include} {xs : List Exclude} {cs : List Char} {s : List UInt8}

/-- A match of a component at the end of a text can be made to begin with a character, later on. -/
theorem exists_cut (hts : ∀ t ∈ ts, IsShared ascii t) (hxs : Anchored xs) (hcs : Legible ascii cs)
    (hs : s <:+ encode cs) (h : Covers (ts.map ofInclude ++ xs) s) :
    ∃ bs, bs <:+ cs ∧ Covers (ts.map ofInclude ++ xs) (encode bs) := by
  have hwhole : Begins s → ∃ bs, bs <:+ cs ∧ Covers (ts.map ofInclude ++ xs) (encode bs) := by
    intro hbegins
    obtain ⟨bs, hbs, rfl⟩ := exists_encode_of_suffix hs hbegins
    exact ⟨bs, hbs, h⟩
  induction ts generalizing s with
  | nil => exact hwhole (hxs s h)
  | cons t ts ih =>
    rw [List.forall_mem_cons] at hts
    have htokens : (t :: ts).map ofInclude ++ xs = ofInclude t :: (ts.map ofInclude ++ xs) := rfl
    rw [htokens] at h hwhole ⊢
    obtain ⟨r, hr, hrest⟩ := covers_cons.1 h
    cases t with
    | many =>
      have hr := mem_rests_many.1 hr
      obtain ⟨bs, hbs, hcovers⟩ := ih hts.2 (hr.trans hs) hrest fun hbegins => by
        obtain ⟨bs, hbs, rfl⟩ := exists_encode_of_suffix (hr.trans hs) hbegins
        exact ⟨bs, hbs, hrest⟩
      exact ⟨bs, hbs, covers_cons.2 ⟨_, mem_rests_many.2 (List.suffix_refl _), hcovers⟩⟩
    | char c =>
      refine hwhole ?_
      rw [mem_rests_literal.1 hr]
      exact begins_bytesOf_append c r
    | any => exact hwhole ((hcs hts.1).begins_of_suffix hs)
    | cls negated ranges =>
      obtain ⟨hordered, hascii | ⟨rfl, hranges⟩⟩ := hts.1
      · exact hwhole ((hcs hascii).begins_of_suffix hs)
      · cases s with
        | nil => exact hwhole fun b hb => by cases hb
        | cons b s =>
          rw [ofInclude, rests] at hr
          split at hr
          next hin =>
            rw [Bool.bne_false] at hin
            refine hwhole (begins_of_ascii (Nat.le_of_not_lt fun hb => ?_) s)
            rw [inRanges_beyond hordered hranges hb] at hin
            cases hin
          next => cases hr
    | recursive => exact hts.1.elim

/-- A token that is no star takes the same character in both kinds of pattern. -/
theorem covers_token {t : Include} (ht : IsShared ascii t) (hstar : t ≠ .many)
    (hcs : Legible ascii cs) : Covers (ofInclude t :: xs) (encode cs) ↔
      ∃ c bs, cs = c :: bs ∧ takes t c = true ∧ Covers xs (encode bs) := by
  cases t with
  | char d =>
    rw [ofInclude, covers_literal]
    constructor
    · rintro ⟨bs, rfl, h⟩
      exact ⟨d, bs, rfl, beq_self_eq_true d, h⟩
    · rintro ⟨c, bs, rfl, hc, h⟩
      exact ⟨bs, by rw [beq_iff_eq.1 hc], h⟩
  | any =>
    rw [ofInclude, covers_any (hcs ht)]
    simp only [takes, true_and]
  | cls negated ranges =>
    rw [ofInclude, covers_class ht.1 (ht.2.imp_left hcs)]
    rfl
  | many => exact absurd rfl hstar
  | recursive => exact ht.elim

/-- A component matches the same texts in both kinds of pattern, if what stands behind it begins with
a character. -/
theorem covers_word (hts : ∀ t ∈ ts, IsShared ascii t) (hxs : Anchored xs) (hcs : Legible ascii cs) :
    Covers (ts.map ofInclude ++ xs) (encode cs) ↔
      ∃ as bs, cs = as ++ bs ∧ Include.accepts ts as = true ∧ Covers xs (encode bs) := by
  induction ts generalizing cs with
  | nil =>
    constructor
    · exact fun h => ⟨[], cs, rfl, by rw [Include.accepts]; rfl, h⟩
    · rintro ⟨as, bs, rfl, ha, h⟩
      rw [Include.accepts, List.isEmpty_iff] at ha
      rwa [ha]
  | cons t ts ih =>
    rw [List.forall_mem_cons] at hts
    have htokens : (t :: ts).map ofInclude ++ xs = ofInclude t :: (ts.map ofInclude ++ xs) := rfl
    rw [htokens]
    by_cases hstar : t = .many
    · subst hstar
      constructor
      · intro h
        obtain ⟨r, hr, hrest⟩ := covers_cons.1 h
        obtain ⟨ys, ⟨front, rfl⟩, hys⟩ := exists_cut hts.2 hxs hcs (mem_rests_many.1 hr) hrest
        obtain ⟨as, bs, rfl, ha, hb⟩ := (ih hts.2 (legible_append.1 hcs).2).1 hys
        exact ⟨front ++ as, bs, (List.append_assoc ..).symm, accepts_many.2 ⟨front, as, rfl, ha⟩, hb⟩
      · rintro ⟨as, bs, rfl, ha, hb⟩
        obtain ⟨front, as, rfl, hrest⟩ := accepts_many.1 ha
        rw [List.append_assoc] at hcs ⊢
        refine covers_cons.2 ⟨encode (as ++ bs), mem_rests_many.2 ⟨encode front, ?_⟩,
          (ih hts.2 (legible_append.1 hcs).2).2 ⟨as, bs, rfl, hrest, hb⟩⟩
        rw [← encode_append]
    · rw [covers_token hts.1 hstar hcs]
      constructor
      · rintro ⟨c, ys, rfl, hc, h⟩
        obtain ⟨as, bs, rfl, ha, hb⟩ := (ih hts.2 hcs.of_cons).1 h
        exact ⟨c :: as, bs, rfl, (accepts_cons hstar hts.1.ne_recursive).2 ⟨c, as, rfl, hc, ha⟩, hb⟩
      · rintro ⟨as, bs, rfl, ha, hb⟩
        obtain ⟨c, as, rfl, hc, ha⟩ := (accepts_cons hstar hts.1.ne_recursive).1 ha
        exact ⟨c, as ++ bs, rfl, hc, (ih hts.2 hcs.of_cons).2 ⟨as, bs, rfl, ha, hb⟩⟩

end

/-! ## Components one after the other -/

/-- The tokens for components behind another one; `passed` says that `**` has taken the slash
between. -/
def behind (passed : Bool) : List (List Include) → List Exclude
  | [] => []
  | ts :: more =>
    if isRecursive ts then (if passed then [] else [.recursiveInner]) ++ behind true more
    else (if passed then [] else [.literal '/']) ++ (ts.map ofInclude ++ behind false more)

/-- The tokens of a pattern that takes files away, for components. -/
def ofComponents : List (List Include) → List Exclude
  | [] => []
  | ts :: more =>
    if isRecursive ts then .recursivePrefix :: behind true more
    else ts.map ofInclude ++ behind false more

theorem anchored_behind (comps : List (List Include)) : Anchored (behind false comps) := by
  intro s h
  cases comps with
  | nil =>
    rw [behind, covers_nil] at h
    subst h
    exact fun b hb => by cases hb
  | cons ts comps =>
    rw [behind] at h
    split at h
    · obtain ⟨r, hr, -⟩ := covers_cons.1 h
      cases s with
      | nil => exact fun b hb => by cases hb
      | cons b s =>
        rw [rests] at hr
        split at hr
        next hb =>
          subst hb
          exact begins_bytesOf_append '/' s
        next => cases hr
    · obtain ⟨r, hr, -⟩ := covers_cons.1 h
      rw [mem_rests_literal.1 hr]
      exact begins_bytesOf_append '/' r

section
variable {ascii : Bool} {ts : List Include} {comps more : List (List Include)} {cs : List Char}

/-- A component and those behind it, against the names of a text. -/
theorem covers_component (h : Shared ascii (ts :: more)) (hts : isRecursive ts = false)
    (hmore : ∀ cs, Legible ascii cs → (Covers (behind false more) (encode cs) ↔
      (more = [] ∧ cs = []) ∨
        more ≠ [] ∧ ∃ bs, cs = '/' :: bs ∧ Matched Across more (Path.splitSlash bs)))
    (hcs : Legible ascii cs) : Covers (ts.map ofInclude ++ behind false more) (encode cs) ↔
      Matched Across (ts :: more) (Path.splitSlash cs) := by
  rw [covers_word (h.tokens ts List.mem_cons_self hts) (anchored_behind more) hcs]
  constructor
  · rintro ⟨as, bs, rfl, ha, hb⟩
    have hacross : Across ts (Path.splitSlash as) :=
      ⟨Path.splitSlash_ne_nil as, by rwa [Path.joinSlash_splitSlash]⟩
    rcases (hmore bs (legible_append.1 hcs).2).1 hb with ⟨rfl, rfl⟩ | ⟨-, bs, rfl, hm⟩
    · exact ⟨Path.splitSlash as, [], by simp, fun _ => hacross, rfl⟩
    · exact ⟨Path.splitSlash as, Path.splitSlash bs, Path.splitSlash_append as bs,
        fun _ => hacross, hm⟩
  · rintro ⟨front, back, hcut, hacross, hm⟩
    obtain ⟨hfront, ha⟩ := hacross hts
    by_cases hnil : more = []
    · subst hnil
      obtain rfl : back = [] := hm
      rw [List.append_nil] at hcut
      refine ⟨cs, [], (List.append_nil cs).symm, ?_,
        (hmore [] fun _ _ hc => by cases hc).2 (.inl ⟨rfl, rfl⟩)⟩
      rwa [← hcut, Path.joinSlash_splitSlash] at ha
    · have hback : back ≠ [] := h.of_cons.ne_nil_of_matched hnil hm
      obtain ⟨rfl, hsplit⟩ := Path.eq_of_splitSlash_eq hcut hfront hback
      exact ⟨Path.joinSlash front, '/' :: Path.joinSlash back, rfl, ha,
        (hmore _ (legible_append.1 hcs).2).2
          (.inr ⟨hnil, Path.joinSlash back, rfl, by rwa [hsplit]⟩)⟩

/-- What stands behind two stars or behind the slash after a component. -/
theorem covers_behind (h : Shared ascii comps) :
    (∀ cs, Legible ascii cs → (Covers (behind false comps) (encode cs) ↔
      (comps = [] ∧ cs = []) ∨
        comps ≠ [] ∧ ∃ bs, cs = '/' :: bs ∧ Matched Across comps (Path.splitSlash bs))) ∧
    (comps ≠ [] → ∀ us, isRecursive us = true → ∀ cs, Legible ascii cs →
      (Covers (.recursivePrefix :: behind true comps) (encode cs) ↔
        Matched Across (us :: comps) (Path.splitSlash cs))) := by
  induction comps with
  | nil =>
    refine ⟨fun cs _ => ?_, fun hne => absurd rfl hne⟩
    rw [behind, covers_nil, encode_eq_nil]
    simp
  | cons ts more ih =>
    obtain ⟨hfalse, htrue⟩ := ih h.of_cons
    have hslash : ∀ {cs : List Char} {p q : List Char → Prop}, Legible ascii cs →
        (∀ bs, Legible ascii bs → (p bs ↔ q bs)) →
        ((∃ bs, cs = '/' :: bs ∧ p bs) ↔ ∃ bs, cs = '/' :: bs ∧ q bs) := fun hcs hpq =>
      exists_congr fun bs => and_congr_right fun heq => hpq bs (heq ▸ hcs).of_cons
    by_cases hts : isRecursive ts = true
    · have hmore := h.ne_nil_of_recursive hts
      refine ⟨fun cs hcs => ?_, fun _ us hus cs hcs => ?_⟩
      · rw [behind, if_pos hts, if_neg (by decide), List.singleton_append, covers_inner,
          hslash hcs (htrue hmore ts hts)]
        simp
      · rw [behind, if_pos hts, if_pos rfl, List.nil_append, htrue hmore ts hts cs hcs,
          matched_recursive_twice hus hts]
    · have hts : isRecursive ts = false := by simpa using hts
      have hword : ∀ cs, Legible ascii cs → (Covers (ts.map ofInclude ++ behind false more) (encode cs) ↔
          Matched Across (ts :: more) (Path.splitSlash cs)) := fun cs hcs =>
        covers_component h hts hfalse hcs
      refine ⟨fun cs hcs => ?_, fun _ us hus cs hcs => ?_⟩
      · rw [behind, if_neg (by simp [hts]), if_neg (by decide), List.singleton_append,
          covers_literal, hslash hcs hword]
        simp
      · rw [behind, if_neg (by simp [hts]), if_pos rfl, List.nil_append, covers_prefix, hword cs hcs]
        constructor
        · rintro (hm | ⟨as, bs, rfl, hm⟩)
          · exact ⟨[], _, rfl, fun hno => by simp [hus] at hno, hm⟩
          · exact ⟨Path.splitSlash as, Path.splitSlash bs, Path.splitSlash_append as bs,
              fun hno => by simp [hus] at hno,
              (hword bs (legible_append.1 hcs).2.of_cons).1 hm⟩
        · rintro ⟨front, back, hcut, -, hm⟩
          by_cases hfront : front = []
          · subst hfront
            exact .inl (hcut ▸ hm)
          · have hback : back ≠ [] := h.ne_nil_of_matched (by simp) hm
            obtain ⟨rfl, hsplit⟩ := Path.eq_of_splitSlash_eq hcut hfront hback
            exact .inr ⟨Path.joinSlash front, Path.joinSlash back, rfl,
              (hword _ (legible_append.1 hcs).2.of_cons).2 (by rwa [hsplit])⟩

/-- Components match the names of a text, each component one name or several. -/
theorem covers_ofComponents (h : Shared ascii comps) (hne : comps ≠ []) (hcs : Legible ascii cs) :
    Covers (ofComponents comps) (encode cs) ↔ Matched Across comps (Path.splitSlash cs) := by
  cases comps with
  | nil => exact absurd rfl hne
  | cons ts more =>
    rw [ofComponents]
    split
    next hts =>
      exact (covers_behind h.of_cons).2 (h.ne_nil_of_recursive hts) ts hts cs hcs
    next hts => exact covers_component h (by simpa using hts) (covers_behind h.of_cons).1 hcs

end

/-! ## Paths that are taken away -/

theorem literalText_eq_some {ts : List Exclude} {text : List Char} (h : literalText ts = some text) :
    ts = text.map .literal := by
  fun_induction literalText ts generalizing text with
  | case1 => cases h; rfl
  | case2 c more ih =>
    obtain ⟨text, htext, rfl⟩ := Option.map_eq_some_iff.1 h
    rw [ih htext]
    rfl
  | case3 => cases h

theorem getLast?_of_literalText {ts : List Exclude} {text : List Char} (t : Exclude)
    (h : literalText ts = some text) (hne : text ≠ []) :
    ∃ c, (t :: ts).getLast? = some (.literal c) := by
  refine ⟨text.getLast hne, ?_⟩
  rw [literalText_eq_some h, List.getLast?_cons, List.getLast?_map,
    List.getLast?_eq_some_getLast hne]
  rfl

theorem getLast?_of_isName {ts : List Exclude} (h : isName ts = true) :
    ∃ c, ts.getLast? = some (.literal c) := by
  unfold isName at h
  split at h
  · split at h
    · cases h
    next text hne htext => exact getLast?_of_literalText _ htext (by rintro rfl; exact hne rfl)
    · cases h
  · cases h

theorem getLast?_of_isExtension {ts : List Exclude} (h : isExtension ts = true) :
    ∃ c, ts.getLast? = some (.literal c) := by
  unfold isExtension at h
  simp only at h
  split at h
  next more hbody =>
    split at h
    next text htext =>
      have hdot : literalText (.literal '.' :: more) = some ('.' :: text) := by
        rw [literalText, htext]
        rfl
      have hlast := getLast?_of_literalText .many hdot (List.cons_ne_nil _ _)
      rw [← hbody] at hlast
      split at hlast
      next front =>
        obtain ⟨c, hc⟩ := hlast
        exact ⟨c, by rw [List.getLast?_cons, hc]; rfl⟩
      next => exact hlast
    · cases h
  · cases h

theorem getLast?_of_endsInExtension {ts : List Exclude} (h : endsInExtension ts = true) :
    ∃ c, ts.getLast? = some (.literal c) := by
  rw [endsInExtension] at h
  cases hrev : ts.reverse with
  | nil => rw [hrev] at h; cases h
  | cons t rest =>
    rw [hrev] at h
    unfold endsInExtension.go at h
    split at h
    next c _ heq =>
      cases heq
      exact ⟨c, by rw [← List.head?_reverse, hrev]; rfl⟩
    next => cases h

/-- Only a path is looked for by its name or extension whose pattern ends in a character. -/
theorem getLast?_of_needsFileName {ts : List Exclude} (h : needsFileName ts = true) :
    ∃ c, ts.getLast? = some (.literal c) := by
  rw [needsFileName, Bool.or_eq_true, Bool.or_eq_true, Bool.and_eq_true] at h
  rcases h with (h | h) | ⟨-, h⟩
  · exact getLast?_of_isName h
  · exact getLast?_of_isExtension h
  · exact getLast?_of_endsInExtension h

theorem behind_concat (passed : Bool) (init : List (List Include)) {ts : List Include}
    (hts : isRecursive ts = false) :
    ∃ front, behind passed (init ++ [ts]) = front ++ ts.map ofInclude := by
  induction init generalizing passed with
  | nil =>
    rw [List.nil_append, behind, if_neg (by simp [hts]), behind, List.append_nil]
    exact ⟨_, rfl⟩
  | cons us init ih =>
    rw [List.cons_append, behind]
    split
    · obtain ⟨front, h⟩ := ih true
      exact ⟨_, by rw [h, ← List.append_assoc]⟩
    · obtain ⟨front, h⟩ := ih false
      exact ⟨_, by rw [h, ← List.append_assoc, ← List.append_assoc]⟩

/-- The tokens for components end in those for the last one. -/
theorem ofComponents_concat (init : List (List Include)) {ts : List Include}
    (hts : isRecursive ts = false) :
    ∃ front, ofComponents (init ++ [ts]) = front ++ ts.map ofInclude := by
  cases init with
  | nil =>
    rw [List.nil_append, ofComponents, if_neg (by simp [hts]), behind, List.append_nil]
    exact ⟨[], rfl⟩
  | cons us init =>
    rw [List.cons_append, ofComponents]
    split
    · obtain ⟨front, h⟩ := behind_concat true init hts
      exact ⟨_, by rw [h, ← List.cons_append]⟩
    · obtain ⟨front, h⟩ := behind_concat false init hts
      exact ⟨_, by rw [h, ← List.append_assoc]⟩

/-- A pattern takes away what it matches but a path without a file name, if it is to have one. -/
theorem accepts_iff {ts : List Exclude} (h : ts ≠ [.recursivePrefix]) (path : String) :
    accepts ts path = true ↔
      (needsFileName ts = true → hasFileName path = true) ∧ Covers ts (encode path.toList) := by
  have hany : (restsAll ts (encode path.toList)).any (·.isEmpty) = true ↔
      Covers ts (encode path.toList) := by
    simp [Covers]
  unfold accepts
  rw [toUTF8_toList]
  split
  next hends => exact iff_of_false (by simp) fun hno => by simp [hno.1 hends.1] at hends
  next hends =>
    split
    · exact absurd rfl h
    · rw [hany]
      refine ⟨fun hcovers => ⟨fun hneeds => ?_, hcovers⟩, And.right⟩
      simpa [hneeds] using hends

/-- A pattern of components takes away the paths whose names they match, each component one name or
several. -/
theorem accepts_ofComponents {ascii : Bool} {comps : List (List Include)} (h : Shared ascii comps)
    (hne : comps ≠ []) {path : String} (hpath : Legible ascii path.toList)
    (hname : hasFileName path = true) :
    accepts (ofComponents comps) path = true ↔
      Matched Across comps (Path.splitSlash path.toList) := by
  have hprefix : ofComponents comps ≠ [.recursivePrefix] := by
    -- The last component is a word, whose tokens come last.
    obtain ⟨init, ts, rfl⟩ := (List.eq_nil_or_concat comps).resolve_left hne
    rw [List.concat_eq_append] at h ⊢
    have hts : isRecursive ts = false := h.last ts (List.getLast?_concat ..)
    obtain ⟨word, t, rfl⟩ := (List.eq_nil_or_concat ts).resolve_left (h.names ts (by simp)).1
    obtain ⟨front, hfront⟩ := ofComponents_concat init hts
    intro heq
    have hlast := congrArg List.getLast? (hfront.symm.trans heq)
    rw [List.concat_eq_append, List.map_append, ← List.append_assoc, List.map_singleton,
      List.getLast?_concat] at hlast
    cases t <;> cases hlast
  rw [accepts_iff hprefix, covers_ofComponents h hne hpath, and_iff_right fun _ => hname]

/-! ## Two stars at the end -/

theorem noBraces_ofInclude (ts : List Include) : ∀ t ∈ ts.map ofInclude, NoBraces t := by
  intro t ht
  obtain ⟨u, -, rfl⟩ := List.mem_map.1 ht
  cases u <;> trivial

theorem noBraces_behind (passed : Bool) (comps : List (List Include)) :
    ∀ t ∈ behind passed comps, NoBraces t := by
  induction comps generalizing passed with
  | nil => exact fun t ht => by cases ht
  | cons ts more ih =>
    rw [behind]
    split
    · refine List.forall_mem_append.2 ⟨?_, ih true⟩
      cases passed <;> simp [NoBraces]
    · refine List.forall_mem_append.2 ⟨?_, List.forall_mem_append.2 ⟨noBraces_ofInclude ts, ih false⟩⟩
      cases passed <;> simp [NoBraces]

theorem noBraces_ofComponents (comps : List (List Include)) :
    ∀ t ∈ ofComponents comps, NoBraces t := by
  cases comps with
  | nil => exact fun t ht => by cases ht
  | cons ts more =>
    rw [ofComponents]
    split
    · exact List.forall_mem_cons.2 ⟨trivial, noBraces_behind true more⟩
    · exact List.forall_mem_append.2 ⟨noBraces_ofInclude ts, noBraces_behind false more⟩

/-- With `**` behind them, components take away the paths below those whose names they match. -/
theorem accepts_below {ascii : Bool} {comps : List (List Include)} (h : Shared ascii comps)
    (hne : comps ≠ []) {path : String} (hpath : Legible ascii path.toList) :
    accepts (ofComponents comps ++ [.recursiveSuffix]) path = true ↔
      ∃ front back, Path.splitSlash path.toList = front ++ back ∧ back ≠ [] ∧
        Matched Across comps front := by
  have hlast : (ofComponents comps ++ [Exclude.recursiveSuffix]).getLast? = some .recursiveSuffix :=
    List.getLast?_concat ..
  have hneeds : needsFileName (ofComponents comps ++ [.recursiveSuffix]) ≠ true := by
    intro hneeds
    obtain ⟨c, hc⟩ := getLast?_of_needsFileName hneeds
    rw [hlast] at hc
    cases hc
  have hprefix : ofComponents comps ++ [.recursiveSuffix] ≠ [.recursivePrefix] := by
    intro heq
    rw [heq] at hlast
    cases hlast
  rw [accepts_iff hprefix, and_iff_right fun hno => absurd hno hneeds,
    covers_suffix (noBraces_ofComponents comps)]
  constructor
  · rintro ⟨as, bs, heq, hm⟩
    rw [heq] at hpath ⊢
    exact ⟨Path.splitSlash as, Path.splitSlash bs, Path.splitSlash_append as bs,
      Path.splitSlash_ne_nil bs, (covers_ofComponents h hne (legible_append.1 hpath).1).1 hm⟩
  · rintro ⟨front, back, hcut, hback, hm⟩
    have hsplit := Path.splitSlash_joinSlash (h.ne_nil_of_matched hne hm) fun n hn =>
      Path.no_slash_of_mem_splitSlash (hcut ▸ List.mem_append_left back hn)
    obtain ⟨heq, -⟩ := Path.eq_of_splitSlash_eq hcut (h.ne_nil_of_matched hne hm) hback
    rw [heq] at hpath ⊢
    exact ⟨_, _, rfl, (covers_ofComponents h hne (legible_append.1 hpath).1).2 (by rwa [hsplit])⟩

end BuildGate.Glob.Exclude
