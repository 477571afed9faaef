import BuildGate.Proofs.ReachedPaths

/-!
# Why a pattern cannot be read

A fault of a pattern tells where the reader stood. Apart from that it depends on the pattern from there
on only, so an entry below a root is faulty, and in the same way, whatever the root is.

**Results.**
* `Alike`: readings that differ in the places of their faults at most.
* `alike_readTokens`: what has been read before makes no other difference.
* `alike_read_rooted`: the readings of an entry below two roots.
-/
namespace BuildGate.Glob.Include

/-- `x` and `y` are the same, or the same fault at places that may differ. -/
def Alike {α : Type} (x y : Except Fault α) : Prop := x.mapError (·.2) = y.mapError (·.2)

theorem Alike.map {α β : Type} {x y : Except Fault α} (h : Alike x y) (f : α → β) :
    Alike (x.map f) (y.map f) := by
  cases x with
  | error a => cases y with
    | error b => exact congrArg Except.error (Except.error.inj h)
    | ok b => cases h
  | ok a => cases y with
    | error b => cases h
    | ok b => exact congrArg (Except.ok ∘ f) (Except.ok.inj h)

/-- With enough fuel, neither what is left of it nor the place changes what is read. -/
theorem alike_readTokens {fuel pos fuel' pos' : Nat} {before : Option Char} {cs : List Char}
    (h : cs.length ≤ fuel) (h' : cs.length ≤ fuel') :
    Alike (readTokens fuel pos before cs) (readTokens fuel' pos' before cs) := by
  induction fuel generalizing fuel' pos pos' before cs with
  | zero =>
    rw [List.length_eq_zero_iff.1 (Nat.le_zero.1 h), readTokens_nil, readTokens_nil]
    rfl
  | succ fuel ih =>
    cases cs with
    | nil =>
      rw [readTokens_nil, readTokens_nil]
      rfl
    | cons c rest =>
      obtain ⟨fuel', rfl⟩ := Nat.exists_eq_add_of_le' h'
      rw [List.length_cons] at h h'
      have hstep : ∀ {token : Include} {pos pos' : Nat} {before : Option Char} {after : List Char},
          after.length ≤ rest.length →
            Alike (do return token :: (← readTokens fuel pos before after))
              (do return token :: (← readTokens (fuel' + rest.length) pos' before after)) := by
        intro token pos pos' before after hafter
        rw [bind_cons_eq_map, bind_cons_eq_map]
        exact (ih (by omega) (by omega)).map _
      have hstars : (rest.dropWhile (· == '*')).length ≤ rest.length :=
        (List.dropWhile_sublist _).length_le
      rw [List.length_cons, ← Nat.add_assoc]
      unfold readTokens
      split
      · exact hstep (Nat.le_refl _)
      · dsimp only
        split
        · exact hstep hstars
        · split
          · rfl
          · split
            · rfl
            next heq =>
              rw [heq, List.length_cons] at hstars
              exact hstep (by omega)
            · rfl
        · rfl
      · split
        · rfl
        next hclass =>
          obtain ⟨-, -, body, -, -, rfl⟩ := exists_of_readClass hclass
          exact hstep (by rw [List.length_append, List.length_cons]; omega)
      · exact hstep (Nat.le_refl _)

/-! ## Entries below a root -/

section
variable {root entry : String} (habs : Path.isAbsolute root = true) (hrel : Path.isAbsolute entry = false)
include habs hrel

/-- The whole of a pattern is at fault where the entry is, read behind a slash. -/
theorem alike_read_behind : Alike ((Include.read (FileSet.rootedPattern root entry)).map fun _ => ())
    ((readTokens entry.toList.length 0 (some '/') entry.toList).map fun _ => ()) := by
  obtain ⟨cs, hcs⟩ := rootedPattern_chars habs hrel
  obtain ⟨k, hk⟩ := Nat.exists_eq_add_of_le (length_le_escapeChars cs)
  obtain ⟨pos, before, htokens⟩ := readTokens_escapeChars cs (k + 1 + entry.toList.length + 1) 0
    none ('/' :: entry.toList)
  have hfuel : (escapeChars cs ++ '/' :: entry.toList).length + 1 =
      k + 1 + entry.toList.length + 1 + cs.length := by
    simp only [List.length_append, List.length_cons]
    omega
  have hrest : Alike (readTokens (k + 1 + entry.toList.length) (pos + 1) (some '/') entry.toList)
      (readTokens entry.toList.length 0 (some '/') entry.toList) :=
    alike_readTokens (by omega) (Nat.le_refl _)
  simp only [Include.read, hcs, hfuel]
  rw [htokens, readTokens_plain_cons (by decide)]
  have hunit := hrest.map fun _ => ()
  cases h : readTokens (k + 1 + entry.toList.length) (pos + 1) (some '/') entry.toList with
  | error fault =>
    rw [h] at hunit
    exact hunit
  | ok ts =>
    rw [h] at hunit
    exact hunit

/-- What reading an entry behind a root comes to depends on the entry alone. -/
theorem alike_read_rooted : Alike ((Selector.read (FileSet.rootedPattern root entry)).map fun _ => ())
    ((readTokens entry.toList.length 0 (some '/') entry.toList).bind fun _ =>
      (readComponents (pieces entry.toList)).map fun _ => ()) := by
  have hbehind := alike_read_behind habs hrel
  obtain ⟨body, hbody, hpieces⟩ := pieces_rooted habs hrel
  have habs' : Path.isAbsolute (FileSet.rootedPattern root entry) = true :=
    (Path.isAbsolute_iff _).2 ⟨body, hbody⟩
  unfold Selector.read
  cases hread : Include.read (FileSet.rootedPattern root entry) with
  | error fault =>
    cases htokens : readTokens entry.toList.length 0 (some '/') entry.toList with
    | error fault' => rwa [hread, htokens] at hbehind
    | ok ts => rw [hread, htokens] at hbehind; cases hbehind
  | ok us =>
    cases htokens : readTokens entry.toList.length 0 (some '/') entry.toList with
    | error fault' => rw [hread, htokens] at hbehind; cases hbehind
    | ok ts =>
      simp only [habs', if_true]
      simp only [hbody, List.drop_one, List.tail_cons, hpieces, readComponents_append,
        readComponents_escaped]
      cases readComponents (pieces entry.toList) <;> rfl

end

end BuildGate.Glob.Include
