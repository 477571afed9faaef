import BuildGate.Proofs.LateValues
import BuildGate.Proofs.Mentions

/-!
# Spelled options

How options stand on a command line: by their names or by their letters, several letters in one
argument, and with a value attached or behind. Such words put what they mention on the options that
were given before, on every level that has these options.

**Results.**
* `Spelling.trans`, `Spelling.restrict`, `Spelling.mem`: what words are spelled options.
* `Spelled.puts`, `Level.Puts.take`: what they come to on a level that has the options.
* `readVerb_spelled`, `readProgram_spelled`: what is read when they stand in front.
-/
namespace BuildGate.CommandLine

open FileTree (bind_eq_ok)
open Level (wantsValue)

/-! ## Words -/

/-- The argument `--o`. -/
def nameWord (o : Opt) : String := "--" ++ o.long

/-- The argument that is a hyphen, the letters of `fs`, and `tail` behind them. -/
def letterWord (fs : List Opt) (tail : List Char) : String :=
  String.ofList ('-' :: (fs.filterMap Opt.short? ++ tail))

/-- Options of `os` that can be joined to one argument: each has a letter and none a value. -/
def AreFlags (os fs : List Opt) : Prop := ∀ o ∈ fs, o ∈ os ∧ wantsValue o = false ∧ o.short?.isSome

/-- How the value `x` stands right behind the letter of its option. -/
inductive Attached (x : String) : List Char → Prop
  | equals : Attached x ('=' :: x.toList)
  | joined {c : Char} {rest : List Char} (h : x.toList = c :: rest) (hc : c ≠ '=') : Attached x x.toList

/-- `Spelled os words ms`: the words of one or more options of `os`, and what they mention. -/
inductive Spelled (os : List Opt) : List String → List Mention → Prop
  | long {o : Opt} (ho : o ∈ os) (hflag : wantsValue o = false) : Spelled os [nameWord o] [⟨o, none⟩]
  | longWith {o : Opt} (ho : o ∈ os) (hvalue : wantsValue o = true) (x : String) :
    Spelled os [assign o x] [⟨o, some x⟩]
  | longApart {o : Opt} {x : String} (ho : o ∈ os) (hvalue : wantsValue o = true)
    (hx : isDashed x = false) : Spelled os [nameWord o, x] [⟨o, some x⟩]
  | letters {fs : List Opt} (hfs : AreFlags os fs) (hne : fs ≠ []) :
    Spelled os [letterWord fs []] (fs.map fun o => ⟨o, none⟩)
  | lettersWith {fs : List Opt} {o : Opt} {c : Char} {x : String} {tail : List Char}
    (hfs : AreFlags os fs) (ho : o ∈ os) (hvalue : wantsValue o = true) (hc : o.short? = some c)
    (hx : Attached x tail) :
    Spelled os [letterWord fs (c :: tail)] ((fs.map fun o => ⟨o, none⟩) ++ [⟨o, some x⟩])
  | lettersApart {fs : List Opt} {o : Opt} {c : Char} {x : String} (hfs : AreFlags os fs) (ho : o ∈ os)
    (hvalue : wantsValue o = true) (hc : o.short? = some c) (hx : isDashed x = false) :
    Spelled os [letterWord fs [c], x] ((fs.map fun o => ⟨o, none⟩) ++ [⟨o, some x⟩])

/-- `Spelling os words ms`: the words are nothing but options of `os`, and `ms` is what they mention
in their order. -/
inductive Spelling (os : List Opt) : List String → List Mention → Prop
  | nil : Spelling os [] []
  | append {ws words : List String} {ms mentions : List Mention} (h : Spelled os ws ms)
    (hrest : Spelling os words mentions) : Spelling os (ws ++ words) (ms ++ mentions)

section
variable {os os' : List Opt} {ws words words' : List String} {ms ns : List Mention}

theorem Spelled.spelling (h : Spelled os ws ms) : Spelling os ws ms := by
  have hall := Spelling.append h .nil
  rwa [List.append_nil, List.append_nil] at hall

theorem Spelled.length_pos (h : Spelled os ws ms) : 0 < ws.length := by
  cases h <;> exact Nat.succ_pos _

theorem Spelling.trans (h : Spelling os words ms) (h' : Spelling os words' ns) :
    Spelling os (words ++ words') (ms ++ ns) := by
  induction h with
  | nil => exact h'
  | append hws _ ih =>
    rw [List.append_assoc, List.append_assoc]
    exact .append hws ih

theorem AreFlags.restrict {fs : List Opt} (h : AreFlags os fs) (hsub : ∀ o ∈ fs, o ∈ os') :
    AreFlags os' fs := fun o ho => ⟨hsub o ho, (h o ho).2⟩

/-- Words spell the options that they mention. -/
theorem Spelled.restrict (h : Spelled os ws ms) (hsub : ∀ m ∈ ms, m.option ∈ os') :
    Spelled os' ws ms := by
  have hflags : ∀ {fs : List Opt} {ns : List Mention},
      (∀ m ∈ (fs.map fun o => (⟨o, none⟩ : Mention)) ++ ns, m.option ∈ os') → ∀ o ∈ fs, o ∈ os' :=
    fun hall o ho => hall ⟨o, none⟩ (List.mem_append_left _ (List.mem_map_of_mem ho))
  have hlast : ∀ {o : Opt} {x : Option String} {ns : List Mention},
      (∀ m ∈ ns ++ [(⟨o, x⟩ : Mention)], m.option ∈ os') → o ∈ os' :=
    fun hall => hall _ (List.mem_append_right _ List.mem_cons_self)
  cases h with
  | long ho hflag => exact .long (hsub _ List.mem_cons_self) hflag
  | longWith ho hvalue x => exact .longWith (hsub _ List.mem_cons_self) hvalue x
  | longApart ho hvalue hx => exact .longApart (hsub _ List.mem_cons_self) hvalue hx
  | letters hfs hne =>
    rw [← List.append_nil (List.map _ _)] at hsub
    exact .letters (hfs.restrict (hflags hsub)) hne
  | lettersWith hfs ho hvalue hc hx =>
    exact .lettersWith (hfs.restrict (hflags hsub)) (hlast hsub) hvalue hc hx
  | lettersApart hfs ho hvalue hc hx =>
    exact .lettersApart (hfs.restrict (hflags hsub)) (hlast hsub) hvalue hc hx

theorem Spelling.restrict (h : Spelling os words ms) (hsub : ∀ m ∈ ms, m.option ∈ os') :
    Spelling os' words ms := by
  induction h with
  | nil => exact .nil
  | append hws _ ih =>
    rw [List.forall_mem_append] at hsub
    exact .append (hws.restrict hsub.1) (ih hsub.2)

theorem Spelled.mem (h : Spelled os ws ms) : ∀ m ∈ ms, m.option ∈ os := by
  have hflags : ∀ {fs : List Opt}, AreFlags os fs →
      ∀ m ∈ fs.map fun o => (⟨o, none⟩ : Mention), m.option ∈ os := by
    intro fs hfs m hm
    obtain ⟨o, ho, rfl⟩ := List.mem_map.1 hm
    exact (hfs o ho).1
  cases h with
  | long ho hflag => exact List.forall_mem_singleton.2 ho
  | longWith ho hvalue x => exact List.forall_mem_singleton.2 ho
  | longApart ho hvalue hx => exact List.forall_mem_singleton.2 ho
  | letters hfs hne => exact hflags hfs
  | lettersWith hfs ho hvalue hc hx =>
    exact List.forall_mem_append.2 ⟨hflags hfs, List.forall_mem_singleton.2 ho⟩
  | lettersApart hfs ho hvalue hc hx =>
    exact List.forall_mem_append.2 ⟨hflags hfs, List.forall_mem_singleton.2 ho⟩

theorem Spelling.mem (h : Spelling os words ms) : ∀ m ∈ ms, m.option ∈ os := by
  induction h with
  | nil => exact fun m hm => absurd hm List.not_mem_nil
  | append hws _ ih => exact List.forall_mem_append.2 ⟨hws.mem, ih⟩

end

/-! ## What words come to -/

/-- The level `l` has the options `os`, which ask for no help. -/
structure Level.Offers (l : Level) (os : List Opt) : Prop where
  long : ∀ o ∈ os, l.options.find? (·.long == o.long) = some o
  letter : ∀ o ∈ os, o.short? = none ∨ l.options.find? (·.short? == o.short?) = some o
  asks : ∀ o ∈ os, o ≠ .help ∧ o ≠ .version

/-- The options of the program that ask for no help. -/
def programOptions : List Opt := .versionOnly :: Opt.shared

theorem Level.offers_program : Level.program.Offers programOptions where
  long := by decide
  letter := by decide
  asks := by decide

theorem Level.offers_verb (v : Verb) : (Level.verb v).Offers Opt.shared where
  long o ho := find?_long v o (v.mem_shared ho)
  letter := by cases v <;> decide
  asks := by decide

theorem Level.Offers.find?_letter {l : Level} {os : List Opt} (h : l.Offers os) {o : Opt} {c : Char}
    (ho : o ∈ os) (hc : o.short? = some c) : l.options.find? (·.short? == some c) = some o := by
  obtain hnone | hfind := h.letter o ho
  · cases hnone.symm.trans hc
  · rwa [hc] at hfind

/-- The state in which `g` are given and nothing else is read. -/
def State.ofGiven (g : Options) : State := { given := g }

section
variable {l : Level} {os fs : List Opt} {o : Opt} {g : Options} {x : String} {c : Char}
  {tail : List Char}

theorem wantsValue_eq_false (h : wantsValue o = false) : ∀ name kind, o.shape ≠ .value name kind := by
  intro name kind hshape
  rw [wantsValue, hshape] at h
  cases h

theorem exists_shape (h : wantsValue o = true) : ∃ name kind, o.shape = .value name kind := by
  unfold wantsValue at h
  split at h
  next name kind hshape => exact ⟨name, kind, hshape⟩
  · cases h

theorem give_ofGiven (g : Options) (o : Opt) (y : Given) : (State.ofGiven g).give o y =
    if (g.lookup o).isSome then .error .conflict else .ok (.ofGiven (g ++ [(o, y)])) := rfl

/-- A flag is put on what was given. -/
theorem takeFlag_ofGiven (ho : o ≠ .help ∧ o ≠ .version) (hflag : wantsValue o = false) (byLong : Bool) :
    l.takeFlag (.ofGiven g) o byLong = (put g ⟨o, none⟩).map State.ofGiven := by
  have hgiven : (⟨o, none⟩ : Mention).given = .ok .flag := by
    unfold Mention.given
    cases hshape : o.shape with
    | flag | count => rfl
    | value name kind => exact absurd hshape (wantsValue_eq_false hflag name kind)
  have htake : l.takeFlag (.ofGiven g) o byLong =
      if o.shape = .count then .ok ((State.ofGiven g).giveAgain o) else (State.ofGiven g).give o .flag := by
    unfold Level.takeFlag
    rw [settle_of_held (s := State.ofGiven g) rfl]
    cases o with
    | help => exact absurd rfl ho.1
    | version => exact absurd rfl ho.2
    | _ => rfl
  rw [htake, put, hgiven, give_ofGiven]
  split
  · rfl
  · split <;> rfl

/-- The value that an option has got is put on what was given. -/
theorem settle_ofGiven (hvalue : wantsValue o = true) (x : String) :
    State.settle { State.ofGiven g with held := some (o, some x) } =
      (put g ⟨o, some x⟩).map State.ofGiven := by
  obtain ⟨name, kind, hshape⟩ := exists_shape hvalue
  have hcount : o.shape ≠ .count := by simp [hshape]
  have hgiven : (⟨o, some x⟩ : Mention).given = kind.read x := by rw [Mention.given, hshape]
  unfold State.settle
  dsimp only
  rw [hshape, put, if_neg hcount, hgiven]
  change ((State.ofGiven g).give o .flag >>= fun _ => kind.read x >>= (State.ofGiven g).give o) = _
  rw [give_ofGiven]
  split
  · rfl
  next hnew =>
    cases kind.read x with
    | error r => rfl
    | ok y =>
      change (State.ofGiven g).give o y = _
      rw [give_ofGiven, if_neg hnew]
      rfl

theorem takeValue_some (hvalue : wantsValue o = true) (x : String) :
    Level.takeValue (.ofGiven g) o (some x) = (put g ⟨o, some x⟩).map State.ofGiven :=
  settle_ofGiven hvalue x

theorem takeValue_none (o : Opt) :
    Level.takeValue (.ofGiven g) o none = .ok { State.ofGiven g with held := some (o, none) } := rfl

/-! ### By name -/

theorem toList_nameWord (o : Opt) : (nameWord o).toList = '-' :: '-' :: o.long.toList := by
  simp [nameWord]

theorem takeWhile_long (o : Opt) : o.long.toList.takeWhile (· != '=') = o.long.toList :=
  List.takeWhile_eq_self_iff.2 (no_equals_long o)

theorem attached?_long (o : Opt) : Level.attached? o.long.toList = none := by
  unfold Level.attached?
  rw [List.dropWhile_eq_nil_iff.2 (no_equals_long o)]

theorem takeLong_name (hl : l.Offers os) (ho : o ∈ os) (s : State) :
    l.takeLong s o.long.toList =
      if wantsValue o then Level.takeValue s o none else l.takeFlag s o true := by
  rw [Level.takeLong_eq, takeWhile_long, String.ofList_toList, hl.long o ho, attached?_long]
  rfl

theorem takeLong_assign (hl : l.Offers os) (ho : o ∈ os) (s : State) (x : String) :
    l.takeLong s (o.long.toList ++ '=' :: x.toList) =
      if wantsValue o then Level.takeValue s o (some x) else .error .needlessValue := by
  rw [Level.takeLong_eq, takeWhile_assign, String.ofList_toList, hl.long o ho, attached?_assign]
  rfl

/-! ### By letters -/

/-- The value that stands right behind a letter. -/
def behindLetter? : List Char → Option String
  | [] => none
  | '=' :: x => some (String.ofList x)
  | x => some (String.ofList x)

theorem takeShorts_cons (l : Level) (s : State) (c : Char) (rest : List Char) :
    l.takeShorts s (c :: rest) =
      match l.options.find? (·.short? == some c) with
      | none => .error .unknownArgument
      | some o =>
        if wantsValue o then Level.takeValue s o (behindLetter? rest)
        else l.takeFlag s o false >>= (l.takeShorts · rest) := by
  rw [Level.takeShorts.eq_def]
  rfl

/-- Flags that are joined are put on what was given one after the other. -/
theorem takeShorts_flags (hl : l.Offers os) (hfs : AreFlags os fs) (tail : List Char) :
    l.takeShorts (.ofGiven g) (fs.filterMap Opt.short? ++ tail) =
      (fs.map fun o => (⟨o, none⟩ : Mention)).foldlM put g >>= fun g' => l.takeShorts (.ofGiven g') tail := by
  induction fs generalizing g with
  | nil => rfl
  | cons o fs ih =>
    rw [AreFlags, List.forall_mem_cons] at hfs
    obtain ⟨⟨ho, hflag, hletter⟩, hfs⟩ := hfs
    obtain ⟨c, hc⟩ := Option.isSome_iff_exists.1 hletter
    rw [List.filterMap_cons_some hc, List.cons_append, takeShorts_cons, hl.find?_letter ho hc]
    dsimp only
    rw [hflag, if_neg Bool.false_ne_true, takeFlag_ofGiven (hl.asks o ho) hflag, List.map_cons,
      List.foldlM_cons]
    cases put g ⟨o, none⟩ with
    | error r => rfl
    | ok g' => exact ih hfs

/-- A letter behind flags whose option waits for a value. -/
theorem takeShorts_apart (hl : l.Offers os) (hfs : AreFlags os fs) (ho : o ∈ os)
    (hvalue : wantsValue o = true) (hc : o.short? = some c) :
    l.takeShorts (.ofGiven g) (fs.filterMap Opt.short? ++ [c]) =
      ((fs.map fun o => (⟨o, none⟩ : Mention)).foldlM put g).map
        fun g => { State.ofGiven g with held := some (o, none) } := by
  rw [takeShorts_flags hl hfs]
  cases (fs.map fun o => (⟨o, none⟩ : Mention)).foldlM put g with
  | error r => rfl
  | ok g' =>
    change l.takeShorts (.ofGiven g') [c] = .ok { State.ofGiven g' with held := some (o, none) }
    rw [takeShorts_cons, hl.find?_letter ho hc]
    dsimp only
    rw [if_pos hvalue]
    rfl

theorem behindLetter?_attached (h : Attached x tail) : behindLetter? tail = some x := by
  cases h with
  | equals => simp [behindLetter?]
  | @joined c rest h hc =>
    have htext : some (String.ofList (c :: rest)) = some x := by rw [← h, String.ofList_toList]
    rw [h]
    unfold behindLetter?
    split
    next heq => cases heq
    next heq => cases heq; exact absurd rfl hc
    · exact htext

theorem long_ne_nil (o : Opt) : o.long.toList ≠ [] := by
  cases o <;> simp [Opt.long]

theorem letter_ne_hyphen (h : o.short? = some c) : c ≠ '-' := by
  cases o <;> simp only [Opt.short?, Option.some.injEq, reduceCtorEq] at h <;> subst h <;> decide

theorem take_nameWord {s : State} (hs : s.onlyOperands = false) (o : Opt) :
    l.take s (nameWord o) = l.takeLong s o.long.toList :=
  Level.take_long hs (toList_nameWord o) (long_ne_nil o)

theorem take_assignWord {s : State} (hs : s.onlyOperands = false) (o : Opt) (x : String) :
    l.take s (assign o x) = l.takeLong s (o.long.toList ++ '=' :: x.toList) :=
  Level.take_long hs (toList_assign o x) (by simp)

theorem isDashed_of_toList {rest : List Char} (h : x.toList = '-' :: c :: rest) : isDashed x = true := by
  rw [isDashed, h]
  rfl

theorem isDashed_nameWord (o : Opt) : isDashed (nameWord o) = true := isDashed_of_toList (toList_nameWord o)

theorem isDashed_assign (o : Opt) (x : String) : isDashed (assign o x) = true :=
  isDashed_of_toList (toList_assign o x)

/-- `cs` begins with the letter of an option. -/
def Lettered (cs : List Char) : Prop := ∃ o c rest, Opt.short? o = some c ∧ cs = c :: rest

theorem lettered_flags (hfs : AreFlags os fs) (hne : fs ≠ []) (tail : List Char) :
    Lettered (fs.filterMap Opt.short? ++ tail) := by
  cases fs with
  | nil => exact absurd rfl hne
  | cons o fs =>
    obtain ⟨c, hc⟩ := Option.isSome_iff_exists.1 (hfs o List.mem_cons_self).2.2
    exact ⟨o, c, fs.filterMap Opt.short? ++ tail, hc, by rw [List.filterMap_cons_some hc]; rfl⟩

theorem lettered_behind (hfs : AreFlags os fs) (hc : o.short? = some c) (tail : List Char) :
    Lettered (fs.filterMap Opt.short? ++ c :: tail) := by
  cases fs with
  | nil => exact ⟨o, c, tail, hc, rfl⟩
  | cons f fs => exact lettered_flags hfs (List.cons_ne_nil f fs) (c :: tail)

theorem isDashed_letterWord (h : Lettered (fs.filterMap Opt.short? ++ tail)) :
    isDashed (letterWord fs tail) = true := by
  obtain ⟨o, c, rest, -, hletters⟩ := h
  exact isDashed_of_toList (by rw [letterWord, hletters, String.toList_ofList])

theorem take_letterWord (h : Lettered (fs.filterMap Opt.short? ++ tail)) {s : State}
    (hs : s.onlyOperands = false) :
    l.take s (letterWord fs tail) = l.takeShorts s (fs.filterMap Opt.short? ++ tail) := by
  obtain ⟨o, c, rest, hc, hletters⟩ := h
  rw [letterWord, hletters]
  exact Level.take_letters hs (String.toList_ofList ..) (letter_ne_hyphen hc)

/-! ### On every level -/

/-- Words that put mentions on what was given: one argument, or one whose last option waits for a value
and the value. -/
inductive Level.Puts (l : Level) : List String → List Mention → Prop
  | one {w : String} {ms : List Mention} (hw : isDashed w = true)
    (h : ∀ g, l.take (.ofGiven g) w = (ms.foldlM put g).map State.ofGiven) : Puts l [w] ms
  | two {w x : String} {ms : List Mention} {o : Opt} (hw : isDashed w = true) (hx : isDashed x = false)
    (hvalue : wantsValue o = true)
    (h : ∀ g, l.take (.ofGiven g) w =
      (ms.foldlM put g).map fun g => { State.ofGiven g with held := some (o, none) }) :
    Puts l [w, x] (ms ++ [⟨o, some x⟩])

theorem Spelled.puts {ws : List String} {ms : List Mention} (hl : l.Offers os) (h : Spelled os ws ms) :
    l.Puts ws ms := by
  have hone : ∀ g (m : Mention), [m].foldlM put g = put g m := by simp
  cases h with
  | @long o ho hflag =>
    refine .one (isDashed_nameWord o) fun g => ?_
    rw [take_nameWord rfl, takeLong_name hl ho, hflag, if_neg Bool.false_ne_true,
      takeFlag_ofGiven (hl.asks o ho) hflag, hone]
  | @longWith o ho hvalue x =>
    refine .one (isDashed_assign o x) fun g => ?_
    rw [take_assignWord rfl, takeLong_assign hl ho, if_pos hvalue, takeValue_some hvalue, hone]
  | @longApart o x ho hvalue hx =>
    rw [← List.nil_append [(⟨o, some x⟩ : Mention)]]
    refine .two (isDashed_nameWord o) hx hvalue fun g => ?_
    rw [take_nameWord rfl, takeLong_name hl ho, if_pos hvalue]
    rfl
  | @letters fs hfs hne =>
    have hword := lettered_flags hfs hne []
    refine .one (isDashed_letterWord hword) fun g => ?_
    rw [take_letterWord hword rfl, takeShorts_flags hl hfs]
    cases (fs.map fun o => (⟨o, none⟩ : Mention)).foldlM put g with
    | error r => rfl
    | ok g' => rfl
  | @lettersWith fs o c x tail hfs ho hvalue hc hx =>
    have hword := lettered_behind hfs hc tail
    refine .one (isDashed_letterWord hword) fun g => ?_
    rw [take_letterWord hword rfl, takeShorts_flags hl hfs, List.foldlM_append]
    cases (fs.map fun o => (⟨o, none⟩ : Mention)).foldlM put g with
    | error r => rfl
    | ok g' =>
      change l.takeShorts (.ofGiven g') (c :: tail) = ([⟨o, some x⟩].foldlM put g').map State.ofGiven
      rw [takeShorts_cons, hl.find?_letter ho hc]
      dsimp only
      rw [if_pos hvalue, behindLetter?_attached hx, takeValue_some hvalue, hone]
  | @lettersApart fs o c x hfs ho hvalue hc hx =>
    have hword := lettered_behind hfs hc []
    refine .two (isDashed_letterWord hword) hx hvalue fun g => ?_
    rw [take_letterWord hword rfl, takeShorts_apart hl hfs ho hvalue hc]

section
variable {α : Type} {k : State → Except Refusal α} {a : α} {ws words rest : List String}
  {ms : List Mention} {env : Environment} {v : Verb}

theorem map_eq_ok {x : Except Refusal Options} {f : Options → State} {s : State} :
    x.map f = .ok s ↔ ∃ g, x = .ok g ∧ f g = s := by
  cases x <;> simp [Except.map]

theorem map_bind_eq_ok {x : Except Refusal Options} {f : Options → State} :
    x.map f >>= k = .ok a ↔ ∃ g, x = .ok g ∧ k (f g) = .ok a := by
  cases x <;> simp [Except.map, bind, Except.bind]

/-- What comes of words that put mentions on what was given. -/
theorem Level.Puts.take (h : l.Puts ws ms) (hk : Settles k) :
    ws.foldlM l.take (.ofGiven g) >>= k = .ok a ↔
      ∃ g', ms.foldlM put g = .ok g' ∧ k (.ofGiven g') = .ok a := by
  cases h with
  | one hw htake =>
    simp only [List.foldlM_cons, List.foldlM_nil, bind_pure]
    rw [htake]
    exact map_bind_eq_ok
  | @two w x ms o hw hx hvalue htake =>
    have hlast : ∀ g₁, l.take { State.ofGiven g₁ with held := some (o, none) } x >>= k = .ok a ↔
        ∃ g', put g₁ ⟨o, some x⟩ = .ok g' ∧ k (.ofGiven g') = .ok a := by
      intro g₁
      rw [Level.take_plain rfl hx]
      refine (hk { State.ofGiven g₁ with held := some (o, some x) } a (by simp [State.Filled])).trans ?_
      rw [settle_ofGiven hvalue, ← bind_eq_ok]
      exact map_bind_eq_ok
    simp only [List.foldlM_cons, List.foldlM_nil, List.foldlM_append, bind_pure, bind_assoc]
    rw [htake, map_bind_eq_ok]
    simp only [hlast, bind_eq_ok]
    constructor
    · rintro ⟨g₁, hms, g', hput, hk'⟩
      exact ⟨g', ⟨g₁, hms, hput⟩, hk'⟩
    · rintro ⟨g', ⟨g₁, hms, hput⟩, hk'⟩
      exact ⟨g₁, hms, g', hput, hk'⟩

/-! ## What is read behind them -/

/-- Options in front are put on what was given before, in every reader that takes them one by one. -/
theorem Spelling.reads (read : List String → State → Except Refusal α) (hl : l.Offers os)
    (hread : ∀ rest, Settles (read rest))
    (hfront : ∀ {ws ms} rest g, l.Puts ws ms →
      read (ws ++ rest) (.ofGiven g) = ws.foldlM l.take (.ofGiven g) >>= read rest)
    (h : Spelling os words ms) :
    read (words ++ rest) (.ofGiven g) = .ok a ↔
      ∃ g', ms.foldlM put g = .ok g' ∧ read rest (.ofGiven g') = .ok a := by
  induction h generalizing g with
  | nil => simp [pure, Except.pure]
  | @append ws words ms mentions hws _ ih =>
    have hputs := hws.puts hl
    rw [List.append_assoc, hfront (words ++ rest) g hputs, hputs.take (hread (words ++ rest)),
      List.foldlM_append]
    simp only [ih, bind_eq_ok]
    constructor
    · rintro ⟨g₁, hms, g', hmentions, hrest⟩
      exact ⟨g', ⟨g₁, hms, hmentions⟩, hrest⟩
    · rintro ⟨g', ⟨g₁, hms, hmentions⟩, hrest⟩
      exact ⟨g₁, hms, g', hmentions, hrest⟩

/-- Options behind a verb are put on what it was given before. -/
theorem readVerb_spelled {a : VerbArguments} (h : Spelling Opt.shared words ms) :
    readVerb env v (.ofGiven g) (words ++ rest) = .ok a ↔
      ∃ g', ms.foldlM put g = .ok g' ∧ readVerb env v (.ofGiven g') rest = .ok a := by
  refine h.reads (fun args s => readVerb env v s args) (Level.offers_verb v) (settles_readVerb env v)
    fun rest g _ => ?_
  simp only [readVerb_eq, List.foldlM_append, bind_assoc]

theorem not_dashed_verb (v : Verb) :
    isDashed v.name = false ∧ ∀ x, v.alias? = some x → isDashed x = false := by
  cases v <;> decide

theorem ofWord?_of_isDashed {arg : String} (h : isDashed arg = true) : Verb.ofWord? arg = none := by
  refine List.find?_eq_none.2 fun v _ hv => ?_
  obtain ⟨hname, halias⟩ := not_dashed_verb v
  rw [Bool.or_eq_true, decide_eq_true_iff, decide_eq_true_iff] at hv
  obtain rfl | hv := hv
  · cases hname.symm.trans h
  · cases (halias arg hv).symm.trans h

/-- An option is never taken for a verb. -/
theorem readProgram_dashed (env : Environment) {arg : String} (h : isDashed arg = true) (s : State)
    (args : List String) : readProgram env s (arg :: args) =
      Level.program.take s arg >>= (readProgram env · args) := by
  have hhelp : arg ≠ "help" := by
    rintro rfl
    revert h
    decide
  rw [readProgram, if_neg hhelp, ofWord?_of_isDashed h]
  exact ite_self _

/-- What stands behind an option that waits for a value is never taken for a verb. -/
theorem readProgram_waits (env : Environment) {s : State} (hs : s.waits = true) (arg : String)
    (args : List String) : readProgram env s (arg :: args) =
      Level.program.take s arg >>= (readProgram env · args) := by
  rw [readProgram, hs, Bool.or_true]
  rfl

/-- The options of the program are put on what it was given before. -/
theorem readProgram_spelled {a : Arguments} (hos : Level.program.Offers os) (h : Spelling os words ms) :
    readProgram env (.ofGiven g) (words ++ rest) = .ok a ↔
      ∃ g', ms.foldlM put g = .ok g' ∧ readProgram env (.ofGiven g') rest = .ok a := by
  refine h.reads (fun args s => readProgram env s args) hos (settles_readProgram env)
    fun {ws ms} rest g hputs => ?_
  cases hputs with
  | one hw _ =>
    rw [List.singleton_append, readProgram_dashed env hw]
    simp
  | @two w x ms o hw hx hvalue htake =>
    simp only [List.cons_append, List.nil_append, List.foldlM_cons, List.foldlM_nil, bind_pure,
      bind_assoc]
    rw [readProgram_dashed env hw, htake]
    cases ms.foldlM put g with
    | error r => rfl
    | ok g' =>
      have hwaits : State.waits { State.ofGiven g' with held := some (o, none) } = true := rfl
      exact readProgram_waits env hwaits x rest

end

end

end BuildGate.CommandLine
