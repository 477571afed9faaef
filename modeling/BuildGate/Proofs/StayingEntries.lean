import BuildGate.Proofs.SameContent

/-!
# Entries that stay below the root

A component leads to the directory above if it is `..`, and also if it has operators, begins with a dot
and matches `..`, as `.*` does. It does not so right behind `**`, where only names are looked for, and
what comes last leads nowhere. Where no component of an entry leads up and on, all the files that it
leads to lie below the root. What is looked up on the way is made of the names that stand there and of
texts of the entry, so it is not longer than the two of them together.

**Results.**
* `LeadsUp`, `StaysBelow`: parts that lead to the directory above, and entries that do not.
* `staying_of_readComponents`, `exists_staying`: what is read of those.
* `Placed.Fits.hasRoom`: how long the paths are that are made of an entry and of the content.
-/
namespace BuildGate

open FileTree Glob.Include

namespace Glob.Include

/-- A part of a pattern that matches `..` where names are looked for: one that begins with a dot. -/
def LeadsUp (part : String) : Prop := part.toList.head? = some '.' ∧
  ∃ ts, Include.read part = .ok ts ∧ accepts ts "..".toList = true

/-- Parts of which none leads to the directory above and on from there. Right behind `**` only names are
looked for, and what comes last leads nowhere. -/
def StaysFrom : Bool → List String → Prop
  | _, [] => True
  | behind, part :: more => part ≠ ".." ∧ (behind = true ∨ more = [] ∨ ¬ LeadsUp part) ∧
    StaysFrom (part == "**") more

/-- A component that is no `..`. -/
structure IsDown (ts : List Include) : Prop where
  no_slash : .char '/' ∉ ts
  not_up : ∀ cs, literal? ts = some cs → String.ofList cs ≠ ".."

/-- Components of such parts. -/
def Staying : Bool → List (List Include) → Prop
  | _, [] => True
  | behind, ts :: more => IsDown ts ∧
    (literal? ts = none → behind = true ∨ more = [] ∨ specialsOf ts = []) ∧ Staying (isRecursive ts) more

theorem specialsOf_subset (ts : List Include) : specialsOf ts ⊆ ["..", "."] := by
  unfold specialsOf
  split
  · exact List.filter_subset_self _
  · exact List.nil_subset _

theorem Staying.mono {comps : List (List Include)} (h : Staying false comps) (behind : Bool) :
    Staying behind comps := by
  cases comps with
  | nil => trivial
  | cons ts more =>
    obtain ⟨hts, hspecial, hmore⟩ := h
    exact ⟨hts, fun hl => .inr ((hspecial hl).resolve_left Bool.false_ne_true), hmore⟩

theorem Staying.tail {behind : Bool} {comps : List (List Include)} (h : Staying behind comps) :
    Staying true (comps.drop 1) := by
  cases comps with
  | nil => trivial
  | cons ts more =>
    obtain ⟨-, -, hmore⟩ := h
    cases hrec : isRecursive ts with
    | true => rwa [hrec] at hmore
    | false =>
      rw [hrec] at hmore
      exact hmore.mono true

/-- Behind the first of several `**` the others stay as well. -/
theorem Staying.lastRecursive {comps : List (List Include)} (h : Staying false comps) :
    Staying false (lastRecursive comps) := by
  fun_induction Include.lastRecursive comps with
  | case1 a b more hb ih =>
    obtain ⟨-, -, hdown, -, hmore⟩ := h
    refine ih ⟨hdown, fun _ => .inr (.inr ?_), hmore⟩
    rw [isRecursive, beq_iff_eq] at hb
    rw [hb]
    rfl
  | case2 | case3 => exact h

/-- The bytes of the text that `ts` look up, with one for a slash behind it. -/
def textRoom (ts : List Include) : Nat :=
  match literal? ts with
  | some cs => (String.ofList cs).utf8ByteSize + 1
  | none => 0

/-- The `textRoom` of all components together. -/
def lookedUp (comps : List (List Include)) : Nat := (comps.map textRoom).sum

@[simp] theorem lookedUp_cons (ts : List Include) (comps : List (List Include)) :
    lookedUp (ts :: comps) = textRoom ts + lookedUp comps := by
  simp [lookedUp]

theorem lookedUp_le_of_suffix {xs ys : List (List Include)} (h : xs <:+ ys) :
    lookedUp xs ≤ lookedUp ys := by
  obtain ⟨front, rfl⟩ := h
  rw [lookedUp, lookedUp, List.map_append, List.sum_append]
  exact Nat.le_add_left _ _

section
variable {ts : List Include}

/-- Tokens that match nothing match one character as well, if there are any. -/
theorem accepts_one (hne : ts ≠ []) (h : accepts ts [] = true) (c : Char) : accepts ts [c] = true := by
  cases ts with
  | nil => exact absurd rfl hne
  | cons token ts =>
    cases token with
    | many => rw [accepts, h, Bool.or_true]
    | recursive => rw [accepts, h, Bool.or_true]
    | char d => simp [accepts] at h
    | any => simp [accepts] at h
    | cls negated ranges => simp [accepts] at h

theorem isDown_of_read {part : String} (hslash : '/' ∉ part.toList) (hne : part ≠ "..")
    (h : Include.read part = .ok ts) : IsDown ts ∧ textRoom ts ≤ part.utf8ByteSize + 1 := by
  have htext : ∀ cs, literal? ts = some cs → String.ofList cs = part := fun cs hl => by
    rw [(reads_of_read h).text hl, String.ofList_toList]
  refine ⟨⟨fun hmem => hslash ((reads_of_read h).mem hmem), fun cs hl => by rwa [htext cs hl]⟩, ?_⟩
  unfold textRoom
  split
  next cs hl => rw [htext cs hl]
  next => exact Nat.zero_le _

/-- A component that does not match `..` where it would be tried does not match `.` either. -/
theorem specialsOf_of_read {part : String} (hup : ¬ LeadsUp part) (h : Include.read part = .ok ts)
    (hl : literal? ts = none) : specialsOf ts = [] := by
  unfold specialsOf
  split
  next hdot =>
    have hno : accepts ts "..".toList = false := by
      rw [Bool.eq_false_iff]
      exact fun hmatch => hup ⟨(reads_of_read h).head? hdot, ts, h, hmatch⟩
    cases ts with
    | nil => cases hdot
    | cons token rest =>
      obtain rfl := Option.some_inj.1 hdot
      have hne : rest ≠ [] := by
        rintro rfl
        cases hl
      refine List.filter_eq_nil_iff.2 fun name hname hmatch => ?_
      rcases List.mem_cons.1 hname with rfl | hname
      · rw [hno] at hmatch
        cases hmatch
      · -- Whatever matches `.` goes on to match another dot.
        obtain rfl := List.mem_singleton.1 hname
        have hrest : accepts rest [] = true := by simpa [accepts] using hmatch
        have := accepts_one hne hrest '.'
        simp [accepts, this] at hno
  next => rfl

end

/-- What is read of such parts stays, and looks up no more than is written. -/
theorem staying_of_readComponents {ps : List (List Char)} {comps : List (List Include)} {behind : Bool}
    (hslash : ∀ p ∈ ps, '/' ∉ p) (hstays : StaysFrom behind (ps.map String.ofList))
    (h : readComponents ps = .ok comps) :
    Staying behind comps ∧ lookedUp comps ≤ Path.room (ps.map String.ofList) := by
  induction ps generalizing comps behind with
  | nil =>
    cases h
    exact ⟨trivial, Nat.le_refl _⟩
  | cons p ps ih =>
    rw [List.forall_mem_cons] at hslash
    obtain ⟨hne, hup, hrest⟩ := hstays
    rw [readComponents, FileTree.bind_eq_ok] at h
    obtain ⟨ts, hts, h⟩ := h
    obtain ⟨more, hmore, rfl⟩ := cons_eq_ok h
    have hp : '/' ∉ (String.ofList p).toList := by
      rw [String.toList_ofList]
      exact hslash.1
    obtain ⟨hdown, hroom⟩ := isDown_of_read hp hne hts
    obtain ⟨hall, hroom'⟩ := ih hslash.2 hrest hmore
    refine ⟨⟨hdown, fun hl => ?_, ?_⟩, ?_⟩
    · refine hup.imp_right fun hor => hor.imp (fun hnil => ?_) fun hno => specialsOf_of_read hno hts hl
      rw [List.map_eq_nil_iff.1 hnil] at hmore
      cases hmore
      rfl
    · by_cases hstars : String.ofList p = "**"
      · have hrec : Include.read "**" = .ok [.recursive] := by rfl
        rw [hstars, hrec] at hts
        rw [← Except.ok.inj hts]
        rwa [hstars] at hall
      · rw [beq_eq_false_iff_ne.2 hstars] at hall
        exact hall.mono _
    · rw [lookedUp_cons, List.map_cons, Path.room_cons]
      exact Nat.add_le_add hroom hroom'

end Glob.Include

/-! ## Entries -/

/-- `entry` does not lead above the root. -/
def StaysBelow (entry : String) : Prop := StaysFrom false (Path.segments entry)

namespace Placed

/-- With the text of `entry` behind the root, the paths into the directory are no longer than
`maxPath`. -/
def Fits (p : Placed) (entry : String) : Prop := ∀ rel, (p.content rel).isSome →
  (Path.join (Path.join p.root entry) ("/".intercalate rel)).utf8ByteSize ≤ maxPath

variable {p q : Placed} {entry : String}

theorem Fits.hasRoom (h : p.Fits entry) (hrel : Path.isAbsolute entry = false) (hne : entry ≠ "")
    (hlast : entry.toList.getLast? ≠ some '/') : p.HasRoom (entry.utf8ByteSize + 1) := by
  intro rel hsome
  have hlong := h rel hsome
  obtain ⟨e, he⟩ := Option.isSome_iff_exists.1 hsome
  have hnames : ∀ n ∈ rel, Path.IsPart n := fun n hn =>
    (p.wf.isName he n (List.mem_append_right _ hn)).1.toIsPart
  have hseparator : Path.separator entry = "/" := by
    rw [Path.separator, if_neg (by simp [String.isEmpty_iff, hne, hlast])]
  have hslash : "/".utf8ByteSize = 1 := by decide
  rw [Path.join_relative (Path.isAbsolute_names hnames), Path.join_relative hrel,
    Path.separator_append_of_ne _ hne, hseparator] at hlong
  simp only [String.utf8ByteSize_append, hslash] at hlong
  by_cases hnil : rel = []
  · rw [hnil, Path.room_nil]
    omega
  · rw [Path.room_eq hnil]
    omega

end Placed

/-- What is read of an entry that stays below the root, and how much of it is looked up. -/
theorem exists_staying {root entry : String} (habs : Path.isAbsolute root = true)
    (hrel : Path.isAbsolute entry = false) (hstays : StaysBelow entry) (hne : entry ≠ "")
    (hlast : entry.toList.getLast? ≠ some '/') {s : Selector}
    (h : Selector.read (FileSet.rootedPattern root entry) = .ok s) :
    ∃ comps, comps ≠ [] ∧ Staying false comps ∧ lookedUp comps ≤ entry.utf8ByteSize + 1 ∧
      readComponents (Path.splitSlash entry.toList) = .ok comps ∧
      s = ⟨"/", (rootPieces root).map (·.map literalToken) ++ comps, false⟩ := by
  have hend : (FileSet.rootedPattern root entry).toList.getLast? ≠ some '/' :=
    mt (getLast?_rootedPattern habs hrel).1 (not_or.2 ⟨hne, hlast⟩)
  obtain ⟨comps, hcomps, hread, rfl⟩ := Selector.eq_of_read_rooted habs hrel hend h
  obtain ⟨hstaying, hroom⟩ :=
    staying_of_readComponents (fun p hp => Path.no_slash_of_mem_splitSlash hp) hstays hread
  refine ⟨comps, hcomps, hstaying, hroom.trans ?_, hread, rfl⟩
  change Path.room (Path.segments entry) ≤ _
  rw [Path.room_eq (Path.segments_ne_nil entry), Path.intercalate_segments]

end BuildGate
