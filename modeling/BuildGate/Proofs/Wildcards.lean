import BuildGate.Proofs.LinkFree
import BuildGate.Proofs.LiteralPatterns

/-!
# Texts with operators

A text with an operator is no pattern, or one that does not stand for that text alone. A class takes
several characters to write and matches one, and what a star or a question mark matches is not
written. So where such a pattern matches its own text, some character is matched by a star or a
question mark, and then it could be any other one.

**Results.**
* `reads_of_read`: how the tokens of a pattern come from its text.
* `Reads.text`, `Reads.mem`: the characters among the tokens are those of the text.
* `Reads.operator`: such a pattern has fewer tokens for a chosen character than characters.
* `accepts_cases`: what is matched has as many characters, or one that could be any other.
* `exists_other_name`: such a pattern of a name matches no name or another one too.
-/
namespace BuildGate.Glob.Include

theorem plain_of_ne {c : Char} (h₁ : c ≠ '?') (h₂ : c ≠ '*') (h₃ : c ≠ '[') : Plain c := by
  rw [Plain, show "?*[".toList = ['?', '*', '['] from rfl]
  simp [h₁, h₂, h₃]

/-- A class is at least one character and the bracket behind it. -/
theorem exists_of_readClass {rest after : List Char} {token : Include}
    (h : readClass rest = some (token, after)) :
    ∃ negated ranges body, token = .cls negated ranges ∧ body ≠ [] ∧ rest = body ++ ']' :: after := by
  unfold readClass at h
  split at h
  rename_i negated content hcontent
  have hrest : ∃ mark : List Char, rest = mark ++ content := by
    split at hcontent
    · cases hcontent; exact ⟨['!'], rfl⟩
    · cases hcontent; exact ⟨[], rfl⟩
  obtain ⟨mark, rfl⟩ := hrest
  cases content with
  | nil => cases h
  | cons first more =>
    simp only at h
    split at h
    · cases h
    · rename_i close after' heq
      cases h
      have hclose : close = ']' := by
        have hnot := List.head?_dropWhile_not (· != ']') more
        rw [heq] at hnot
        simpa using hnot
      have hmore := List.takeWhile_append_dropWhile (p := (· != ']')) (l := more)
      rw [heq, hclose] at hmore
      refine ⟨_, _, mark ++ first :: more.takeWhile (· != ']'), rfl, by simp, ?_⟩
      rw [List.append_assoc, List.cons_append, hmore]

/-- The stars that a text begins with. -/
theorem stars_append {rest after : List Char} {k : Nat} (hk : (rest.takeWhile (· == '*')).length = k)
    (hafter : rest.dropWhile (· == '*') = after) : rest = List.replicate k '*' ++ after := by
  have hstars : rest.takeWhile (· == '*') = List.replicate k '*' :=
    List.eq_replicate_iff.2 ⟨hk, fun c hc => by simpa using List.all_eq_true.1 List.all_takeWhile c hc⟩
  rw [← hstars, ← hafter, List.takeWhile_append_dropWhile]

theorem cons_eq_ok {ε α : Type} {x : Except ε (List α)} {a : α} {bs : List α}
    (h : (do return a :: (← x)) = .ok bs) : ∃ as, x = .ok as ∧ bs = a :: as := by
  obtain ⟨as, hx, h⟩ := FileTree.bind_eq_ok.1 h
  cases h
  exact ⟨as, hx, rfl⟩

/-! ## What is read of a text -/

/-- How tokens come from a text: a star from one star, `**` from two that nothing or a slash stands
behind, a class from what stands in brackets, and every other character from itself. -/
inductive Reads : List Char → List Include → Prop
  | nil : Reads [] []
  | any {rest : List Char} {ts : List Include} : Reads rest ts → Reads ('?' :: rest) (.any :: ts)
  | many {rest : List Char} {ts : List Include} : Reads rest ts → Reads ('*' :: rest) (.many :: ts)
  | last : Reads ['*', '*'] [.recursive]
  | recursive {rest : List Char} {ts : List Include} : Reads rest ts →
      Reads ('*' :: '*' :: '/' :: rest) (.recursive :: ts)
  | cls (negated : Bool) (ranges : List (Char × Char)) {body rest : List Char} {ts : List Include} :
      body ≠ [] → Reads rest ts → Reads ('[' :: (body ++ ']' :: rest)) (.cls negated ranges :: ts)
  | char {c : Char} {rest : List Char} {ts : List Include} : Plain c → Reads rest ts →
      Reads (c :: rest) (.char c :: ts)

theorem reads_of_readTokens {fuel pos : Nat} {before : Option Char} {cs : List Char}
    {ts : List Include} (hfuel : cs.length ≤ fuel) (h : readTokens fuel pos before cs = .ok ts) :
    Reads cs ts := by
  fun_induction readTokens fuel pos before cs generalizing ts with
  | case1 =>
    cases h
    rw [List.length_eq_zero_iff.1 (Nat.le_zero.1 hfuel)]
    exact .nil
  | case2 =>
    cases h
    exact .nil
  | case3 fuel pos before rest ih =>
    obtain ⟨us, hus, rfl⟩ := cons_eq_ok h
    exact .any (ih (Nat.le_of_succ_le_succ hfuel) hus)
  | case4 fuel pos before rest more after stop hmore =>
    rename_i ih
    obtain ⟨us, hus, rfl⟩ := cons_eq_ok h
    rw [stars_append hmore rfl] at hfuel ⊢
    exact .many (ih (Nat.le_of_succ_le_succ hfuel) hus)
  | case6 fuel pos before rest more after hmore =>
    rename_i hafter
    cases h
    rw [stars_append hmore hafter]
    exact .last
  | case7 fuel pos before rest more after' stop hmore hbefore after hafter =>
    rename_i ih
    obtain ⟨us, hus, rfl⟩ := cons_eq_ok h
    rw [stars_append hmore hafter] at hfuel ⊢
    refine .recursive (ih ?_ hus)
    exact Nat.le_trans (Nat.le_add_right _ 2) (Nat.le_of_succ_le_succ hfuel)
  | case11 fuel pos before rest token after hclass =>
    rename_i ih
    obtain ⟨us, hus, rfl⟩ := cons_eq_ok h
    obtain ⟨negated, ranges, body, rfl, hbody, rfl⟩ := exists_of_readClass hclass
    refine .cls negated ranges hbody (ih ?_ hus)
    simp only [List.length_cons, List.length_append] at hfuel
    omega
  | case12 fuel pos before rest c h₁ h₂ h₃ ih =>
    obtain ⟨us, hus, rfl⟩ := cons_eq_ok h
    exact .char (plain_of_ne h₁ h₂ h₃) (ih (Nat.le_of_succ_le_succ hfuel) hus)
  | case5 | case8 | case9 | case10 => cases h

theorem reads_of_read {text : String} {ts : List Include} (h : read text = .ok ts) :
    Reads text.toList ts := reads_of_readTokens (Nat.le_succ _) h

section
variable {cs : List Char} {ts : List Include}

/-- A text that is read as characters is these characters. -/
theorem Reads.text (h : Reads cs ts) {ds : List Char} (hl : literal? ts = some ds) : ds = cs := by
  induction h generalizing ds with
  | nil =>
    cases hl
    rfl
  | char _ _ ih =>
    rw [literal?, Option.map_eq_some_iff] at hl
    obtain ⟨es, hes, rfl⟩ := hl
    rw [ih hes]
  | any | many | last | recursive | cls => cases hl

/-- The first token is a character only if the text begins with it. -/
theorem Reads.head? (h : Reads cs ts) {c : Char} (hc : ts.head? = some (.char c)) :
    cs.head? = some c := by
  cases h with
  | char =>
    cases hc
    rfl
  | nil | any | many | last | recursive | cls => cases hc

/-- The characters of tokens are some of those that are read. -/
theorem Reads.mem (h : Reads cs ts) {c : Char} (hc : .char c ∈ ts) : c ∈ cs := by
  induction h with
  | nil => cases hc
  | last => simp at hc
  | any _ ih | many _ ih => exact List.mem_cons_of_mem _ (ih (by simpa using hc))
  | recursive _ ih =>
    have hrest := ih (by simpa using hc)
    exact List.mem_cons_of_mem _ (List.mem_cons_of_mem _ (List.mem_cons_of_mem _ hrest))
  | cls _ _ _ _ ih =>
    have hrest := ih (by simpa using hc)
    exact List.mem_cons_of_mem _ (List.mem_append_right _ (List.mem_cons_of_mem _ hrest))
  | char _ _ ih =>
    rcases List.mem_cons.1 hc with heq | hc
    · cases heq
      exact List.mem_cons_self
    · exact List.mem_cons_of_mem _ (ih hc)

/-- Tokens that match one character each, but not just any. -/
def isChosen : Include → Bool
  | .char _ | .cls _ _ => true
  | _ => false

theorem countP_chosen {t : Include} {ts : List Include} (h : isChosen t = true) :
    (t :: ts).countP isChosen = ts.countP isChosen + 1 := List.countP_cons_of_pos h

/-- A token for an operator, before tokens that take no more characters than those that are left. -/
theorem countP_operator {t : Include} {left : Nat} (ht : ∀ c, t ≠ .char c)
    (hts : ts.countP isChosen ≤ left) (hn : left + [t].countP isChosen < cs.length) :
    (t :: ts).countP isChosen ≤ cs.length ∧ ((∃ c ∈ cs, ¬ Plain c) →
      (t :: ts).countP isChosen < cs.length ∧ literal? (t :: ts) = none) := by
  have hlt : (t :: ts).countP isChosen < cs.length := by
    rw [← List.singleton_append, List.countP_append]
    omega
  refine ⟨Nat.le_of_lt hlt, fun _ => ⟨hlt, ?_⟩⟩
  cases t with
  | char c => exact absurd rfl (ht c)
  | _ => rfl

/-- A text with an operator has a token for it, and fewer tokens that need a character than it has
characters. -/
theorem Reads.operator (h : Reads cs ts) : ts.countP isChosen ≤ cs.length ∧
    ((∃ c ∈ cs, ¬ Plain c) → ts.countP isChosen < cs.length ∧ literal? ts = none) := by
  induction h with
  | nil => exact ⟨Nat.le_refl _, fun ⟨c, hc, _⟩ => absurd hc List.not_mem_nil⟩
  | any _ ih => exact countP_operator (by simp) ih.1 (by simp [isChosen])
  | many _ ih => exact countP_operator (by simp) ih.1 (by simp [isChosen])
  | last => exact countP_operator (by simp) (Nat.le_refl _) (by simp [isChosen])
  | @recursive rest ts _ ih =>
    exact countP_operator (by simp) ih.1 (show rest.length < rest.length + 3 by omega)
  | @cls negated ranges body rest ts hbody _ ih =>
    have hlen := List.length_pos_iff.2 hbody
    have hone : [Include.cls negated ranges].countP isChosen = 1 := rfl
    refine countP_operator (by simp) ih.1 ?_
    rw [hone, List.length_cons, List.length_append, List.length_cons]
    omega
  | @char c rest ts hplain _ ih =>
    rw [countP_chosen rfl]
    refine ⟨Nat.succ_le_succ ih.1, fun ⟨d, hd, hop⟩ => ?_⟩
    have hd : d ∈ rest := (List.mem_cons.1 hd).resolve_left fun heq => hop (heq ▸ hplain)
    obtain ⟨hlt, hnone⟩ := ih.2 ⟨d, hd, hop⟩
    exact ⟨Nat.succ_lt_succ hlt, by rw [literal?, hnone]; rfl⟩

end

/-! ## What else is matched -/

/-- A star may match nothing. -/
theorem accepts_star {star : Include} (hstar : star = .many ∨ star = .recursive) {ts : List Include}
    {cs : List Char} (h : accepts ts cs = true) : accepts (star :: ts) cs = true := by
  rcases hstar with rfl | rfl <;> cases cs <;> simp [accepts, h]

/-- Tokens match a text character by character, or one of its characters might as well be another. -/
theorem accepts_cases {ts : List Include} {cs : List Char} (h : accepts ts cs = true) :
    cs.length = ts.countP isChosen ∨
      ∃ front c back, cs = front ++ c :: back ∧ ∀ d, accepts ts (front ++ d :: back) = true := by
  fun_induction accepts ts cs with
  | case1 cs => exact .inl (by simpa using h)
  | case2 ts ih | case4 ts ih =>
    rcases ih h with hlen | ⟨front, c, back, hcs, -⟩
    · exact .inl hlen
    · simp at hcs
  | case3 ts c cs ih | case5 ts c cs ih =>
    rcases Bool.or_eq_true_iff.1 h with h | h
    · rcases ih h with hlen | ⟨front, d, back, hcs, hall⟩
      · exact .inl hlen
      · exact .inr ⟨front, d, back, hcs, fun e => accepts_star (by simp) (hall e)⟩
    · -- What the star takes next is the character.
      exact .inr ⟨[], c, cs, rfl, fun d => by rw [List.nil_append, accepts, h, Bool.or_true]⟩
  | case6 ts c cs => exact .inr ⟨[], c, cs, rfl, fun d => by rw [List.nil_append, accepts, h]⟩
  | case7 e ts c cs ih =>
    obtain ⟨hc, h⟩ := Bool.and_eq_true_iff.1 h
    rcases ih h with hlen | ⟨front, d, back, rfl, hall⟩
    · exact .inl (by rw [countP_chosen rfl, List.length_cons, hlen])
    · refine .inr ⟨c :: front, d, back, rfl, fun d => ?_⟩
      rw [List.cons_append, accepts, hc, hall d, Bool.and_self]
  | case8 negated ranges ts c cs ih =>
    obtain ⟨hc, h⟩ := Bool.and_eq_true_iff.1 h
    rcases ih h with hlen | ⟨front, d, back, rfl, hall⟩
    · exact .inl (by rw [countP_chosen rfl, List.length_cons, hlen])
    · refine .inr ⟨c :: front, d, back, rfl, fun d => ?_⟩
      rw [List.cons_append, accepts, hc, hall d, Bool.and_self]
  | case9 => cases h

/-- A name with an operator that is matched by its own pattern is not the only one that is. -/
theorem exists_other_name {name : String} {ts : List Include} (h : read name = .ok ts)
    (hop : ∃ c ∈ name.toList, ¬ Plain c) (hn : IsName name) (ha : accepts ts name.toList = true) :
    ∃ m, m ≠ name ∧ IsName m ∧ m.utf8ByteSize ≤ name.utf8ByteSize ∧
      accepts ts m.toList = true := by
  have hlt := ((reads_of_read h).operator.2 hop).1
  rcases accepts_cases ha with hlen | ⟨front, c, back, hcs, hall⟩
  · omega
  obtain ⟨d, hd, hdc⟩ : ∃ d ∈ ['x', 'y'], d ≠ c := by
    by_cases hx : 'x' = c
    · exact ⟨'y', by simp, by rw [← hx]; decide⟩
    · exact ⟨'x', by simp, hx⟩
  have hsafe : d ≠ '.' ∧ d ≠ '/' ∧ d ≠ '\x00' ∧ d.utf8Size = 1 := by
    rcases List.mem_cons.1 hd with rfl | hd
    · decide
    · rw [List.mem_singleton.1 hd]
      decide
  obtain ⟨hdot, hslash, hnul, hone⟩ := hsafe
  have hname : name = String.ofList front ++ String.singleton c ++ String.ofList back :=
    String.toList_injective (by simp [hcs])
  have hm : (String.ofList front ++ String.singleton d ++ String.ofList back).toList =
      front ++ d :: back := by simp
  -- Whatever is replaced, none of the special names has an `x` or a `y`.
  have hspecial : ∀ s : String, d ∉ s.toList →
      String.ofList front ++ String.singleton d ++ String.ofList back ≠ s := by
    rintro s hs rfl
    exact hs (by simp)
  have hrest : ∀ e, e ∉ name.toList → e ≠ d → e ∉ front ++ d :: back := by
    intro e he hed hmem
    rw [hcs] at he
    simp only [List.mem_append, List.mem_cons, not_or] at he hmem
    rcases hmem with h | h | h
    · exact he.1 h
    · exact hed h
    · exact he.2.2 h
  refine ⟨String.ofList front ++ String.singleton d ++ String.ofList back, ?_, ⟨⟨?_, ?_, ?_, ?_⟩, ?_⟩,
    ?_, by rw [hm]; exact hall d⟩
  · intro heq
    have := congrArg String.toList heq
    rw [hm, hcs, List.append_cancel_left_eq, List.cons.injEq] at this
    exact hdc this.1
  · exact hspecial "" (by simp)
  · exact hspecial "." (by simp [hdot])
  · exact hspecial ".." (by simp [hdot])
  · rw [hm]; exact hrest '/' hn.no_slash (Ne.symm hslash)
  · rw [hm]; exact hrest '\x00' hn.no_nul (Ne.symm hnul)
  · rw [hname]
    simp only [String.utf8ByteSize_append, String.utf8ByteSize_singleton, hone]
    have := c.utf8Size_pos
    omega

end BuildGate.Glob.Include
