import BuildGate.Proofs.RootedPatterns

/-!
# Components against names

A pattern that selects files matches a path name by name: each component but `**` takes one name, and
`**` takes any number of them. Where a star may stand for slashes as well, a component takes one name
or several. The two come to the same if each star stands beside a `**`, which can take the other names
in its place: a star in front of a component those before the last of its names, a star at its end
those behind the first.

**Results.**
* `accepts_append`, `accepts_many`: a name is matched part by part.
* `exists_name_of_across`: the name that matches in place of several.
* `Harmless.matched`: where stars are beside `**`, what matches with slashes matches without.
-/
namespace BuildGate

namespace Path

/-! ## Cutting and joining at slashes -/

/-- The parts of a text with another one behind it: its last part goes on with the first one there. -/
theorem splitSlash_append_of_eq {vs v : List Char} {back : List (List Char)}
    (hv : splitSlash vs = v :: back) (us : List Char) :
    ∃ front u, splitSlash (us ++ vs) = front ++ (u ++ v) :: back ∧
      ('/' ∉ us → front = [] ∧ u = us) := by
  induction us with
  | nil => exact ⟨[], [], hv, fun _ => ⟨rfl, rfl⟩⟩
  | cons c us ih =>
    obtain ⟨front, u, happend, hone⟩ := ih
    rw [List.cons_append, splitSlash, happend]
    by_cases hc : c = '/'
    · exact ⟨[] :: front, u, by rw [if_pos hc, List.cons_append], fun h => by simp [hc] at h⟩
    · have hone : '/' ∉ c :: us → front = [] ∧ u = us := fun h =>
        hone fun hmem => h (List.mem_cons_of_mem _ hmem)
      rw [if_neg hc]
      cases front with
      | nil => exact ⟨[], c :: u, rfl, fun h => ⟨rfl, by rw [(hone h).2]⟩⟩
      | cons p front =>
        exact ⟨(c :: p) :: front, u, rfl, fun h => absurd (hone h).1 (List.cons_ne_nil _ _)⟩

/-- `names` with slashes between them. -/
def joinSlash (names : List (List Char)) : List Char := ['/'].intercalate names

theorem joinSlash_splitSlash (cs : List Char) : joinSlash (splitSlash cs) = cs := by
  rw [joinSlash, splitSlash_eq_splitOn, List.intercalate_splitOn]

theorem intercalate_segments (path : String) : "/".intercalate (segments path) = path := by
  apply String.toList_injective
  have h := joinSlash_splitSlash path.toList
  rw [String.toList_intercalate, segments, List.map_map]
  simpa [joinSlash, Function.comp_def] using h

theorem splitSlash_joinSlash {names : List (List Char)} (hne : names ≠ [])
    (h : ∀ n ∈ names, '/' ∉ n) : splitSlash (joinSlash names) = names := by
  rw [joinSlash, splitSlash_eq_splitOn, List.splitOn_intercalate _ h hne]

theorem joinSlash_append {front back : List (List Char)} (hfront : front ≠ []) (hback : back ≠ []) :
    joinSlash (front ++ back) = joinSlash front ++ '/' :: joinSlash back := by
  unfold joinSlash
  induction front with
  | nil => exact absurd rfl hfront
  | cons n front ih =>
    rw [List.cons_append, List.intercalate_cons_of_ne_nil (by simp [hback])]
    by_cases h : front = []
    · subst h
      simp
    · rw [ih h, List.intercalate_cons_of_ne_nil h]
      simp

/-- A text between two of whose parts a cut is made. -/
theorem eq_of_splitSlash_eq {cs : List Char} {front back : List (List Char)}
    (h : splitSlash cs = front ++ back) (hfront : front ≠ []) (hback : back ≠ []) :
    cs = joinSlash front ++ '/' :: joinSlash back ∧ splitSlash (joinSlash back) = back := by
  have hslash : ∀ n ∈ back, '/' ∉ n := fun n hn =>
    no_slash_of_mem_splitSlash (h ▸ List.mem_append_right front hn)
  exact ⟨by rw [← joinSlash_append hfront hback, ← h, joinSlash_splitSlash],
    splitSlash_joinSlash hback hslash⟩

end Path

namespace Glob.Include

/-! ## Names part by part -/

theorem accepts_many {ts : List Include} {cs : List Char} :
    accepts (.many :: ts) cs = true ↔ ∃ as bs, cs = as ++ bs ∧ accepts ts bs = true := by
  induction cs with
  | nil =>
    rw [accepts]
    constructor
    · exact fun h => ⟨[], [], rfl, h⟩
    · rintro ⟨as, bs, heq, h⟩
      obtain ⟨-, rfl⟩ := List.append_eq_nil_iff.1 heq.symm
      exact h
  | cons c cs ih =>
    rw [accepts, Bool.or_eq_true, ih]
    constructor
    · rintro (h | ⟨as, bs, rfl, h⟩)
      · exact ⟨[], c :: cs, rfl, h⟩
      · exact ⟨c :: as, bs, rfl, h⟩
    · rintro ⟨as, bs, heq, h⟩
      cases as with
      | nil =>
        rw [List.nil_append] at heq
        exact .inl (by rwa [heq])
      | cons a as => exact .inr ⟨as, bs, (List.cons.inj heq).2, h⟩

/-- A star matches every name. -/
theorem accepts_many_alone (cs : List Char) : accepts [.many] cs = true :=
  accepts_many.2 ⟨cs, [], (List.append_nil cs).symm, by rw [accepts]; rfl⟩

/-- Whether a token other than `*` and `**` takes a character. -/
def takes : Include → Char → Bool
  | .char d, c => c == d
  | .any, _ => true
  | .cls negated ranges, c => (ranges.any fun r => r.1 ≤ c && c ≤ r.2) != negated
  | .many, _ | .recursive, _ => false

theorem accepts_cons {t : Include} {ts : List Include} {cs : List Char} (hmany : t ≠ .many)
    (hrec : t ≠ .recursive) : accepts (t :: ts) cs = true ↔
      ∃ c bs, cs = c :: bs ∧ takes t c = true ∧ accepts ts bs = true := by
  cases cs with
  | nil => cases t <;> simp_all [accepts]
  | cons d cs =>
    have hcons : accepts (t :: ts) (d :: cs) = (takes t d && accepts ts cs) := by
      cases t with
      | many => exact absurd rfl hmany
      | recursive => exact absurd rfl hrec
      | char c => rw [accepts]; rfl
      | any => rw [accepts]; rfl
      | cls negated ranges => rw [accepts]; rfl
    rw [hcons, Bool.and_eq_true]
    constructor
    · exact fun h => ⟨d, cs, rfl, h⟩
    · rintro ⟨c, bs, heq, h⟩
      cases heq
      exact h

/-- A token that both kinds of patterns match alike, if `ascii` in paths of ASCII characters only.
-/
def IsShared (ascii : Bool) : Include → Prop
  | .char c => c ≠ '/'
  | .many => True
  | .any => ascii = true
  | .cls negated ranges => (∀ r ∈ ranges, r.1 ≤ r.2) ∧
      (ascii = true ∨ negated = false ∧ ∀ r ∈ ranges, r.2 ≤ '\x7f')
  | .recursive => False

instance (ascii : Bool) : DecidablePred (IsShared ascii)
  | .char c => inferInstanceAs (Decidable (c ≠ '/'))
  | .many => isTrue trivial
  | .any => inferInstanceAs (Decidable (ascii = true))
  | .cls _ ranges => inferInstanceAs (Decidable ((∀ r ∈ ranges, _) ∧ (_ ∨ _ ∧ ∀ r ∈ ranges, _)))
  | .recursive => isFalse id

theorem IsShared.ne_recursive {ascii : Bool} {t : Include} (h : IsShared ascii t) :
    t ≠ .recursive := by
  rintro rfl
  exact h

/-- Whether a token takes slashes where `/` is a character like others. -/
def crosses (t : Include) : Bool := t == .many || takes t '/'

section
variable {ascii : Bool} {t : Include} {ts us vs : List Include} {cs : List Char}

theorem accepts_append (hus : ∀ t ∈ us, IsShared ascii t) : accepts (us ++ vs) cs = true ↔
    ∃ as bs, cs = as ++ bs ∧ accepts us as = true ∧ accepts vs bs = true := by
  induction us generalizing cs with
  | nil =>
    constructor
    · exact fun h => ⟨[], cs, rfl, by rw [accepts]; rfl, h⟩
    · rintro ⟨as, bs, rfl, ha, hb⟩
      rw [accepts, List.isEmpty_iff] at ha
      rwa [ha]
  | cons t us ih =>
    rw [List.forall_mem_cons] at hus
    rw [List.cons_append]
    by_cases hstar : t = .many
    · subst hstar
      constructor
      · intro h
        obtain ⟨xs, ys, rfl, hrest⟩ := accepts_many.1 h
        obtain ⟨as, bs, rfl, ha, hb⟩ := (ih hus.2).1 hrest
        exact ⟨xs ++ as, bs, (List.append_assoc ..).symm, accepts_many.2 ⟨xs, as, rfl, ha⟩, hb⟩
      · rintro ⟨as, bs, rfl, h, hb⟩
        obtain ⟨xs, ys, rfl, ha⟩ := accepts_many.1 h
        exact accepts_many.2 ⟨xs, ys ++ bs, List.append_assoc .., (ih hus.2).2 ⟨ys, bs, rfl, ha, hb⟩⟩
    · have hrec := hus.1.ne_recursive
      constructor
      · intro h
        obtain ⟨c, ys, rfl, hc, hrest⟩ := (accepts_cons hstar hrec).1 h
        obtain ⟨as, bs, rfl, ha, hb⟩ := (ih hus.2).1 hrest
        exact ⟨c :: as, bs, rfl, (accepts_cons hstar hrec).2 ⟨c, as, rfl, hc, ha⟩, hb⟩
      · rintro ⟨as, bs, rfl, h, hb⟩
        obtain ⟨c, ys, rfl, hc, ha⟩ := (accepts_cons hstar hrec).1 h
        exact (accepts_cons hstar hrec).2
          ⟨c, ys ++ bs, rfl, hc, (ih hus.2).2 ⟨ys, bs, rfl, ha, hb⟩⟩

/-- Where no token takes slashes, none is in what they match. -/
theorem no_slash_of_accepts (hts : ∀ t ∈ ts, IsShared ascii t) (hcross : ∀ t ∈ ts, crosses t = false)
    (h : accepts ts cs = true) : '/' ∉ cs := by
  induction ts generalizing cs with
  | nil =>
    rw [accepts, List.isEmpty_iff] at h
    simp [h]
  | cons t ts ih =>
    rw [List.forall_mem_cons] at hts hcross
    have hcross' := hcross.1
    rw [crosses, Bool.or_eq_false_iff, beq_eq_false_iff_ne] at hcross'
    obtain ⟨c, bs, rfl, hc, h⟩ := (accepts_cons hcross'.1 hts.1.ne_recursive).1 h
    rw [List.mem_cons, not_or]
    refine ⟨?_, ih hts.2 hcross.2 h⟩
    rintro rfl
    rw [hcross'.2] at hc
    cases hc

end

/-! ## One name or several -/

/-- The tokens `ts` match the only one of `names`. -/
def OneName (ts : List Include) (names : List (List Char)) : Prop :=
  ∃ n, names = [n] ∧ accepts ts n = true

/-- The tokens `ts` match all of `names`, one or more, with the slashes between them. -/
def Across (ts : List Include) (names : List (List Char)) : Prop :=
  names ≠ [] ∧ accepts ts (Path.joinSlash names) = true

theorem OneName.across {ts : List Include} {names : List (List Char)} (h : OneName ts names) :
    Across ts names := by
  obtain ⟨n, rfl, ha⟩ := h
  refine ⟨List.cons_ne_nil _ _, ?_⟩
  rwa [Path.joinSlash, List.intercalate_singleton]

/-- None of `names` is empty or holds a slash. -/
def AreNames (names : List (List Char)) : Prop := ∀ n ∈ names, n ≠ [] ∧ '/' ∉ n

section
variable {names : List (List Char)} (hne : names ≠ []) (hnames : AreNames names)
include hne hnames

/-- Names with slashes between them neither begin nor end in one. -/
theorem AreNames.no_slash_at_ends {as bs : List Char} (h : Path.joinSlash names = as ++ bs) :
    as ≠ ['/'] ∧ bs ≠ ['/'] := by
  have hsplit := Path.splitSlash_joinSlash hne fun n hn => (hnames n hn).2
  have hempty : [] ∉ Path.splitSlash (as ++ bs) := by
    rw [← h, hsplit]
    exact fun hmem => (hnames [] hmem).1 rfl
  constructor
  · rintro rfl
    exact hempty (by rw [List.singleton_append, Path.splitSlash, if_pos rfl]; exact List.mem_cons_self)
  · rintro rfl
    exact hempty (by
      rw [show as ++ ['/'] = as ++ '/' :: [] from rfl, Path.splitSlash_append, Path.splitSlash]
      simp)

end

section
variable {ascii : Bool} {ts : List Include}

/-- One token at most takes one character, unless it is a star. -/
theorem accepts_single {t : Include} (ht : IsShared ascii t) (hstar : t ≠ .many) {cs : List Char}
    (h : accepts [t] cs = true) : ∃ c, cs = [c] := by
  obtain ⟨c, bs, rfl, -, hbs⟩ := (accepts_cons hstar ht.ne_recursive).1 h
  rw [accepts, List.isEmpty_iff] at hbs
  exact ⟨c, by rw [hbs]⟩

/-- The first token of a component, the last one and those between. -/
theorem exists_ends (ts : List Include) : ∃ lead mid trail : List Include, ts = lead ++ (mid ++ trail) ∧
    mid = (ts.drop 1).dropLast ∧ (lead = [] ∨ ∃ t, lead = [t] ∧ ts.head? = some t) ∧
      (trail = [] ∨ ∃ t, trail = [t] ∧ ts.getLast? = some t) := by
  cases ts with
  | nil => exact ⟨[], [], [], rfl, rfl, .inl rfl, .inl rfl⟩
  | cons t ts =>
    rcases List.eq_nil_or_concat ts with rfl | ⟨mid, l, rfl⟩
    · exact ⟨[t], [], [], rfl, rfl, .inr ⟨t, rfl, rfl⟩, .inl rfl⟩
    · rw [List.concat_eq_append]
      refine ⟨[t], mid, [l], rfl, by simp, .inr ⟨t, rfl, rfl⟩, .inr ⟨l, rfl, ?_⟩⟩
      rw [← List.cons_append, List.getLast?_concat]

variable {names : List (List Char)} (hts : ∀ t ∈ ts, IsShared ascii t) (hnames : AreNames names)
include hts hnames

/-- Of the names that a component takes with the slashes between them it matches one, which is the
first unless the component begins with a star and the last unless it ends in one. -/
theorem exists_name_of_across (hmid : ∀ t ∈ (ts.drop 1).dropLast, crosses t = false)
    (h : Across ts names) : ∃ front n back, names = front ++ n :: back ∧ accepts ts n = true ∧
      (front ≠ [] → ts.head? = some .many) ∧ (back ≠ [] → ts.getLast? = some .many) := by
  obtain ⟨hne, h⟩ := h
  obtain ⟨lead, mid, trail, heq, hsolid, hlead, htrail⟩ := exists_ends ts
  rw [← hsolid] at hmid
  rw [heq] at h
  have htokens := hts
  rw [heq, List.forall_mem_append, List.forall_mem_append] at htokens
  obtain ⟨xs, rest, hcut, hxs, hrest⟩ := (accepts_append htokens.1).1 h
  obtain ⟨as, ys, rfl, has, hys⟩ := (accepts_append htokens.2.1).1 hrest
  have hnil : ∀ {cs : List Char}, accepts [] cs = true → cs = [] := fun {cs} hcs => by
    rwa [accepts, List.isEmpty_iff] at hcs
  -- What the middle takes lies within one name, so the cuts fall behind and before its ends.
  obtain ⟨y, back, hy⟩ := List.exists_cons_of_ne_nil (Path.splitSlash_ne_nil ys)
  have hsplit : Path.splitSlash (as ++ ys) = (as ++ y) :: back := by
    rw [splitSlash_no_slash_append (no_slash_of_accepts htokens.2.1 hmid has), hy]
    rfl
  obtain ⟨front, x, hsplit, hx⟩ := Path.splitSlash_append_of_eq hsplit xs
  rw [← hcut, Path.splitSlash_joinSlash hne fun n hn => (hnames n hn).2] at hsplit
  have hfirst : '/' ∉ xs ∨ lead = [.many] ∧ ts.head? = some .many := by
    rcases hlead with rfl | ⟨t, rfl, hhead⟩
    · exact .inl (by simp [hnil hxs])
    · by_cases ht : t = .many
      · exact .inr ⟨by rw [ht], by rw [hhead, ht]⟩
      · obtain ⟨c, rfl⟩ := accepts_single (htokens.1 t List.mem_cons_self) ht hxs
        have := (hnames.no_slash_at_ends hne hcut).1
        exact .inl (by simpa [eq_comm] using this)
  have hlast : '/' ∉ ys ∨ trail = [.many] ∧ ts.getLast? = some .many := by
    rcases htrail with rfl | ⟨t, rfl, hhead⟩
    · exact .inl (by simp [hnil hys])
    · by_cases ht : t = .many
      · exact .inr ⟨by rw [ht], by rw [hhead, ht]⟩
      · obtain ⟨c, rfl⟩ := accepts_single (htokens.2.2 t List.mem_cons_self) ht hys
        rw [← List.append_assoc] at hcut
        have := (hnames.no_slash_at_ends hne hcut).2
        exact .inl (by simpa [eq_comm] using this)
  have hback : '/' ∉ ys → back = [] ∧ y = ys := fun hno => by
    rw [Path.splitSlash_of_not_mem hno] at hy
    exact ⟨(List.cons.inj hy).2.symm, (List.cons.inj hy).1.symm⟩
  refine ⟨front, x ++ (as ++ y), back, hsplit, ?_, fun hfront => ?_, fun hrest => ?_⟩
  · rw [heq]
    refine (accepts_append htokens.1).2 ⟨x, as ++ y, rfl, ?_, (accepts_append htokens.2.1).2
      ⟨as, y, rfl, has, ?_⟩⟩
    · rcases hfirst with hno | ⟨rfl, -⟩
      · rwa [(hx hno).2]
      · exact accepts_many_alone x
    · rcases hlast with hno | ⟨rfl, -⟩
      · rwa [(hback hno).2]
      · exact accepts_many_alone y
  · exact (hfirst.resolve_left fun hno => hfront (hx hno).1).2
  · exact (hlast.resolve_left fun hno => hrest (hback hno).1).2

end

/-! ## Components one after the other -/

/-- Whether components match `names`, `**` any number of them and every other component those for
which `takes` holds. -/
def Matched (takes : List Include → List (List Char) → Prop) :
    List (List Include) → List (List Char) → Prop
  | [], names => names = []
  | ts :: more, names => ∃ front back, names = front ++ back ∧
      (isRecursive ts = false → takes ts front) ∧ Matched takes more back

/-- Whether `**` comes next, or behind components that are a `*` each. -/
def StarsAhead : List (List Include) → Prop
  | [] => False
  | ts :: more => isRecursive ts = true ∨ ts = [.many] ∧ StarsAhead more

/-- Whether every `*` stands beside a `**` that can take other names in its place: one at the start
of a component behind it, one at the end of a component before it, and one that is a component on
either side. Other components that are a `*` may stand between them. `behind` says that there is a
`**` in front. -/
def Harmless (behind : Bool) : List (List Include) → Prop
  | [] => True
  | ts :: more =>
    if isRecursive ts = true then Harmless true more
    else if ts = [.many] then (behind = true ∨ StarsAhead more) ∧ Harmless behind more
    else (∀ t ∈ (ts.drop 1).dropLast, crosses t = false) ∧ (ts.head? = some .many → behind = true) ∧
      (ts.getLast? = some .many → StarsAhead more) ∧ Harmless false more

section
variable {takes takes' : List Include → List (List Char) → Prop} {comps : List (List Include)}
  {names : List (List Char)} {ascii : Bool}

theorem Matched.mono (h : ∀ ts front, takes ts front → takes' ts front)
    (hm : Matched takes comps names) : Matched takes' comps names := by
  induction comps generalizing names with
  | nil => exact hm
  | cons ts comps ih =>
    obtain ⟨front, back, rfl, hts, hm⟩ := hm
    exact ⟨front, back, rfl, fun hrec => h ts front (hts hrec), ih hm⟩

/-- Components that stand for names in both kinds of patterns: `IsShared` holds of their tokens,
none is empty, none that begins with a dot matches `.` or `..`, and the last one is not `**`. -/
structure Shared (ascii : Bool) (comps : List (List Include)) : Prop where
  tokens : ∀ ts ∈ comps, isRecursive ts = false → ∀ t ∈ ts, IsShared ascii t
  names : ∀ ts ∈ comps, ts ≠ [] ∧
    (ts.head? = some (.char '.') → ∀ name ∈ ["..", "."], accepts ts name.toList = false)
  last : ∀ ts ∈ comps.getLast?, isRecursive ts = false

theorem Shared.of_cons {ts : List Include} (h : Shared ascii (ts :: comps)) :
    Shared ascii comps where
  tokens := fun us hus => h.tokens us (List.mem_cons_of_mem _ hus)
  names := fun us hus => h.names us (List.mem_cons_of_mem _ hus)
  last := fun us hus => h.last us (by
    cases comps with
    | nil => cases hus
    | cons => rwa [List.getLast?_cons_cons])

/-- Something stands behind `**`. -/
theorem Shared.ne_nil_of_recursive {ts : List Include} (h : Shared ascii (ts :: comps))
    (hts : isRecursive ts = true) : comps ≠ [] := by
  rintro rfl
  have := h.last ts rfl
  rw [hts] at this
  cases this

/-- Such components match at least one name. -/
theorem Shared.ne_nil_of_matched (h : Shared ascii comps) (hne : comps ≠ [])
    (hm : Matched Across comps names) : names ≠ [] := by
  induction comps generalizing names with
  | nil => exact absurd rfl hne
  | cons ts comps ih =>
    obtain ⟨front, back, rfl, hts, hm⟩ := hm
    by_cases hmore : comps = []
    · have hword : isRecursive ts = false := h.last ts (by rw [hmore]; rfl)
      simp [(hts hword).1]
    · simp [ih h.of_cons hmore hm]

/-- Two `**` one behind the other match what one does. -/
theorem matched_recursive_twice {ts us : List Include} (hts : isRecursive ts = true)
    (hus : isRecursive us = true) :
    Matched takes (ts :: us :: comps) names ↔ Matched takes (us :: comps) names := by
  constructor
  · rintro ⟨front, _, rfl, -, mid, back, rfl, -, h⟩
    exact ⟨front ++ mid, back, (List.append_assoc ..).symm, fun hrec => by simp [hus] at hrec, h⟩
  · exact fun h => ⟨[], names, rfl, fun hrec => by simp [hts] at hrec, h⟩

/-- Where `**` comes next, more names may come first. -/
theorem StarsAhead.matched (h : StarsAhead comps) (extra : List (List Char))
    (hm : Matched OneName comps names) : Matched OneName comps (extra ++ names) := by
  induction comps generalizing extra names with
  | nil => exact h.elim
  | cons ts comps ih =>
    obtain ⟨front, back, rfl, hts, hm⟩ := hm
    rcases h with hrec | ⟨rfl, h⟩
    · exact ⟨extra ++ front, back, (List.append_assoc ..).symm, fun hno => by simp [hrec] at hno, hm⟩
    · -- The star takes the first name instead, and what it took is left to what comes next.
      obtain ⟨n, rfl, -⟩ := hts (by decide)
      obtain ⟨m, rest, hrest⟩ := List.exists_cons_of_ne_nil (l := extra ++ [n]) (by simp)
      refine ⟨[m], rest ++ back, ?_, fun _ => ⟨m, rfl, accepts_many_alone m⟩, ih h rest hm⟩
      rw [← List.append_assoc, hrest]
      rfl

/-- Where every star is beside `**`, components match name by name what they match with slashes. If
`**` stands behind them, what is matched may be only the end of the names. -/
theorem Harmless.matched {behind : Bool} (h : Harmless behind comps) (hshared : Shared ascii comps)
    (hnames : AreNames names) (hm : Matched Across comps names) :
    ∃ front back, names = front ++ back ∧ (behind = false → front = []) ∧
      Matched OneName comps back := by
  induction comps generalizing behind names with
  | nil => exact ⟨[], names, rfl, fun _ => rfl, hm⟩
  | cons ts comps ih =>
    obtain ⟨front, back, rfl, hts, hm⟩ := hm
    obtain ⟨hfront, hback⟩ := List.forall_mem_append.1 hnames
    rw [Harmless] at h
    by_cases hrec : isRecursive ts = true
    · rw [if_pos hrec] at h
      obtain ⟨mid, back, rfl, -, hone⟩ := ih h hshared.of_cons hback hm
      exact ⟨[], front ++ (mid ++ back), rfl, fun _ => rfl, front ++ mid, back,
        (List.append_assoc ..).symm, fun hno => by simp [hrec] at hno, hone⟩
    · have hrec : isRecursive ts = false := by simpa using hrec
      have hacross := hts hrec
      rw [if_neg (by simp [hrec])] at h
      by_cases hstar : ts = [.many]
      · rw [if_pos hstar] at h
        subst hstar
        have hany : ∀ n, OneName [.many] [n] := fun n => ⟨n, rfl, accepts_many_alone n⟩
        obtain ⟨mid, back, rfl, hmid, hone⟩ := ih h.2 hshared.of_cons hback hm
        cases behind with
        | true =>
          -- The star takes the last of the names that are not matched yet.
          obtain ⟨init, n, hinit⟩ := (List.eq_nil_or_concat (front ++ mid)).resolve_left
            (by simp [hacross.1])
          refine ⟨init, n :: back, ?_, by simp, [n], back, rfl, fun _ => hany n, hone⟩
          rw [← List.append_assoc, hinit, List.concat_eq_append, List.append_assoc]
          rfl
        | false =>
          -- It takes the first one, and what comes next takes the others.
          obtain rfl := hmid rfl
          obtain ⟨n, rest, rfl⟩ := List.exists_cons_of_ne_nil hacross.1
          have hahead : StarsAhead comps := h.1.resolve_left (by simp)
          exact ⟨[], _, rfl, fun _ => rfl, [n], rest ++ back, rfl, fun _ => hany n,
            hahead.matched rest hone⟩
      · rw [if_neg hstar] at h
        obtain ⟨hends, hfirst, hlast, h⟩ := h
        obtain ⟨before, n, rest, rfl, hn, hbefore, hrest⟩ :=
          exists_name_of_across (hshared.tokens ts List.mem_cons_self hrec) hfront hends hacross
        obtain ⟨mid, back, rfl, hmid, hone⟩ := ih h hshared.of_cons hback hm
        obtain rfl := hmid rfl
        refine ⟨before, n :: (rest ++ back), by simp, fun hb => ?_, [n], rest ++ back, rfl,
          fun _ => ⟨n, rfl, hn⟩, ?_⟩
        · cases before with
          | nil => rfl
          | cons b bs =>
            have := hfirst (hbefore (List.cons_ne_nil b bs))
            rw [hb] at this
            cases this
        · by_cases hnil : rest = []
          · rw [hnil]
            exact hone
          · exact (hlast (hrest hnil)).matched rest hone

end

end Glob.Include

end BuildGate
