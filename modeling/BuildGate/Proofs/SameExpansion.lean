import BuildGate.Proofs.StayingEntries

/-!
# Expansions of one content

Two expansions go side by side through the same content below two roots. Each place that the one comes
to the other one comes to as well, behind its own root and in the same order, since what they ask of it
has the same answer. They may differ in their fuel, as long as both have more than the directory is
deep.

**Results.**
* `Together`: what two expansions have still to look at.
* `together_below`: what comes next stays together.
* `samePlace_visit`: so does everything that comes of it.
* `samePlace_pathsFrom`: the paths that components lead to behind two roots.
-/
namespace BuildGate

open FileTree Glob.Include

/-- Paths behind two roots that lead to one place of the content, or at which no file is. -/
def SamePlace (p q : Placed) (limit : Nat) (x y : String) : Prop :=
  (∃ segs rel, segs ≠ [] ∧ x = p.path segs ∧ y = q.path segs ∧ Abreast p q limit segs rel 0) ∨
    p.tree.isFile x = false ∧ q.tree.isFile y = false

/-- What two expansions have still to look at: a place that is known to match, or a name below a
certain depth with the components that are left for it. -/
inductive Together (p q : Placed) (limit depth : Nat) : Pending → Pending → Prop
  | found {x y : String} (h : SamePlace p q limit x y)
      (hd : depth ≤ p.tree.entries.length ∧ depth ≤ q.tree.entries.length) :
      Together p q limit depth (Place.at p.tree x, none) (Place.at q.tree y, none)
  | named {segs : List String} {rel : Location} {name : String} {comps : List (List Glob.Include)}
      (hname : IsName name) (h : Abreast p q limit (segs ++ [name]) rel (lookedUp comps))
      (hd : depth < rel.length) (hcomps : Staying false comps) :
      Together p q limit depth (Place.at p.tree (p.path (segs ++ [name])), some comps)
        (Place.at q.tree (q.path (segs ++ [name])), some comps)

theorem Abreast.length_le {p q : Placed} {limit left : Nat} {segs : List String} {rel : Location}
    (h : Abreast p q limit segs rel left) :
    rel.length ≤ p.tree.entries.length ∧ rel.length ≤ q.tree.entries.length := by
  obtain ⟨e, he, -⟩ := resolve_stands p.wf h.first
  obtain ⟨e', he', -⟩ := resolve_stands q.wf h.second
  have hp := FileTree.length_le p.wf he
  have hq := FileTree.length_le q.wf he'
  rw [List.length_append] at hp hq
  omega

theorem Together.depth_le {p q : Placed} {limit depth : Nat} {a b : Pending}
    (h : Together p q limit depth a b) :
    depth ≤ p.tree.entries.length ∧ depth ≤ q.tree.entries.length := by
  cases h with
  | found h hd => exact hd
  | named hname h hd hcomps => exact ⟨hd.le.trans h.length_le.1, hd.le.trans h.length_le.2⟩

section
variable {p q : Placed} {limit depth : Nat}

/-- Where `.` and `..` match and come last, no file is found. -/
theorem together_specials {ts : List Glob.Include} {more : List (List Glob.Include)}
    (h : more = [] ∨ specialsOf ts = [])
    (hdepth : depth ≤ p.tree.entries.length ∧ depth ≤ q.tree.entries.length) (segs : List String) :
    List.Forall₂ (Together p q limit depth)
      ((specialsOf ts).flatMap fun name => leadOn p.tree more (Path.join (p.path segs) name))
      ((specialsOf ts).flatMap fun name => leadOn q.tree more (Path.join (q.path segs) name)) := by
  rcases h with rfl | hnone
  · have hsame : List.Forall₂ (fun a b => a ∈ ["..", "."] ∧ a = b) (specialsOf ts) (specialsOf ts) :=
      List.forall₂_same.2 fun name hname => ⟨specialsOf_subset ts hname, rfl⟩
    refine List.rel_flatMap hsame ?_
    rintro name _ ⟨hname, rfl⟩
    exact .cons (.found (.inr ⟨not_isFile_special p.wf (p.isAbsolute_path segs) hname,
      not_isFile_special q.wf (q.isAbsolute_path segs) hname⟩) hdepth) .nil
  · rw [hnone]
    exact .nil

variable (hsame : p.content = q.content) (hp : p.HasRoom limit) (hq : q.HasRoom limit)
include hsame hp hq

/-- A text is looked up behind both roots, and leads on from there or is found behind neither. -/
theorem together_literal {ts : List Glob.Include} {more : List (List Glob.Include)} {cs : List Char}
    (hl : literal? ts = some cs) (hts : IsDown ts) {segs : List String} {rel : Location} {left : Nat}
    (h : Abreast p q limit segs rel (textRoom ts + left))
    (hlead : ∀ {seg : String} {rel' : Location}, rel.length ≤ rel'.length →
      Abreast p q limit (segs ++ [seg]) rel' left → List.Forall₂ (Together p q limit depth)
        (leadOn p.tree more (p.path (segs ++ [seg]))) (leadOn q.tree more (q.path (segs ++ [seg])))) :
    List.Forall₂ (Together p q limit depth) (below p.tree (ts :: more) (Place.at p.tree (p.path segs)))
      (below q.tree (ts :: more) (Place.at q.tree (q.path segs))) := by
  have hroom : textRoom ts = (String.ofList cs).utf8ByteSize + 1 := by rw [textRoom, hl]
  have hup := hts.not_up cs hl
  have hslash : '/' ∉ (String.ofList cs).toList := by
    rw [String.toList_ofList]
    exact no_slash_of_literal? hl hts.no_slash
  have hisDir := h.isDir_eq hsame
  rw [hroom] at h
  rw [below_literal hl, below_literal hl, Place.path_at, Place.path_at, Place.isDir_at,
    Place.isDir_at, inDir_absolute (p.isAbsolute_path segs), inDir_absolute (q.isAbsolute_path segs),
    ← Placed.path_concat, ← Placed.path_concat, ← hisDir]
  generalize String.ofList cs = seg at hup hslash h
  by_cases hhere : seg = "."
  · -- The current directory is led on from without being looked up.
    subst hhere
    cases hdir : p.tree.isDir (p.path segs) with
    | false =>
      rw [if_neg (by simp), if_neg (by simp)]
      exact .nil
    | true =>
      rw [if_pos (by simp), if_pos (by simp)]
      exact hlead le_rfl (h.here hsame hp hq hdir)
  · have hspecial : ¬ (seg = "." ∨ seg = "..") := not_or.2 ⟨hhere, hup⟩
    rcases h.lookUp hsame hp hq hslash hup with ⟨hfirst, hsecond, more', h'⟩ | ⟨hfirst, hsecond⟩
    · rw [if_pos (.inr ⟨hspecial, hfirst⟩), if_pos (.inr ⟨hspecial, hsecond⟩)]
      exact hlead (by simp) h'
    · rw [if_neg (by simp [hspecial, hfirst]), if_neg (by simp [hspecial, hsecond])]
      exact .nil

/-- A component with operators is matched against the same names behind both roots. -/
theorem together_wild {ts : List Glob.Include} {more : List (List Glob.Include)}
    (hl : literal? ts = none) (hcomps : Staying false (ts :: more)) {segs : List String} {rel : Location}
    (h : Abreast p q limit segs rel (lookedUp (ts :: more))) (hd : depth ≤ rel.length) :
    List.Forall₂ (Together p q limit depth) (below p.tree (ts :: more) (Place.at p.tree (p.path segs)))
      (below q.tree (ts :: more) (Place.at q.tree (q.path segs))) := by
  have hlast : more = [] ∨ specialsOf ts = [] := (hcomps.2.1 hl).resolve_left Bool.false_ne_true
  have hdepth : depth ≤ p.tree.entries.length ∧ depth ≤ q.tree.entries.length :=
    ⟨hd.trans h.length_le.1, hd.trans h.length_le.2⟩
  rw [below_wild hl, below_wild hl, Place.path_at, Place.path_at, Place.isDir_at, Place.isDir_at,
    ← h.isDir_eq hsame, ← h.namesIn_eq hsame]
  split
  · refine List.rel_append (together_specials hlast hdepth segs) ?_
    rw [List.forall₂_map_left_iff, List.forall₂_map_right_iff, List.forall₂_same]
    intro name hname
    obtain ⟨hisName, h'⟩ := h.name hsame hp hq hname
    rw [inDir_absolute (p.isAbsolute_path segs), inDir_absolute (q.isAbsolute_path segs),
      ← Placed.path_concat, ← Placed.path_concat]
    refine .named hisName h' ?_ hcomps
    rw [List.length_append, List.length_singleton]
    omega
  · exact .nil

/-- What comes next at a place stays together. -/
theorem together_below {comps : List (List Glob.Include)} (hcomps : Staying false comps)
    {segs : List String} {rel : Location} (h : Abreast p q limit segs rel (lookedUp comps))
    (hd : depth ≤ rel.length) :
    List.Forall₂ (Together p q limit depth) (below p.tree comps (Place.at p.tree (p.path segs)))
      (below q.tree comps (Place.at q.tree (q.path segs))) := by
  induction comps generalizing segs rel with
  | nil =>
    rw [below, below]
    exact .nil
  | cons ts more ih =>
    cases hl : literal? ts with
    | none => exact together_wild hsame hp hq hl hcomps h hd
    | some cs =>
      have hmore : Staying false more := by
        have hword : isRecursive ts = false := by
          rw [isRecursive, beq_eq_false_iff_ne]
          rintro rfl
          cases hl
        rw [← hword]
        exact hcomps.2.2
      have hdepth : depth ≤ p.tree.entries.length ∧ depth ≤ q.tree.entries.length :=
        ⟨hd.trans h.length_le.1, hd.trans h.length_le.2⟩
      rw [lookedUp_cons] at h
      refine together_literal hsame hp hq hl hcomps.1 h fun {seg rel'} hle h' => ?_
      unfold leadOn
      split
      next hnil =>
        rw [List.isEmpty_iff.1 hnil] at h'
        exact .cons (.found (.inl ⟨_, rel', by simp, rfl, rfl, h'⟩) hdepth) .nil
      next => exact ih hmore h' (hd.trans hle)

end

/-! ## Everything that comes of it -/

namespace Glob.Include

/-- What a place is visited with when the first component has to match its name. -/
def onward (t : FileTree) (onlyDirs : Bool) (fuel : Nat) (p : Place) : List (List Include) → List String
  | [] => []
  | ts :: more =>
    match Path.fileName? p.path with
    | none => []
    | some name =>
      if accepts ts name.toList then
        if more.isEmpty then if onlyDirs ∧ !p.isDir then [] else [p.path]
        else (below t more p).flatMap (visit t onlyDirs fuel)
      else []

theorem visit_some (t : FileTree) (onlyDirs : Bool) (fuel : Nat) (p : Place)
    (comps : List (List Include)) : visit t onlyDirs (fuel + 1) (p, some comps) =
      if comps.head?.any isRecursive then
        if p.isDir then
          if ((lastRecursive comps).drop 1).isEmpty then
            p.path :: (below t (lastRecursive comps) p).flatMap (visit t onlyDirs fuel)
          else onward t onlyDirs fuel p ((lastRecursive comps).drop 1) ++
            (below t (lastRecursive comps) p).flatMap (visit t onlyDirs fuel)
        else onward t onlyDirs fuel p ((lastRecursive comps).drop 1)
      else onward t onlyDirs fuel p comps := by
  rw [visit]
  rfl

end Glob.Include

section
variable {p q : Placed} {limit depth : Nat}

/-- A component that has to match the name of a place matches it behind both roots. -/
theorem samePlace_onward {fuel fuel' : Nat} {segs : List String} {rel : Location} {name : String}
    (hname : IsName name) {left : Nat} (h : Abreast p q limit (segs ++ [name]) rel left)
    {comps : List (List Glob.Include)} (hcomps : Staying true comps)
    (hword : comps.head?.any isRecursive = false)
    (hdeeper : ∀ {more : List (List Glob.Include)}, Staying false more → more <:+ comps →
      List.Forall₂ (SamePlace p q limit)
        ((below p.tree more (Place.at p.tree (p.path (segs ++ [name])))).flatMap
          (visit p.tree false fuel))
        ((below q.tree more (Place.at q.tree (q.path (segs ++ [name])))).flatMap
          (visit q.tree false fuel'))) :
    List.Forall₂ (SamePlace p q limit)
      (onward p.tree false fuel (Place.at p.tree (p.path (segs ++ [name]))) comps)
      (onward q.tree false fuel' (Place.at q.tree (q.path (segs ++ [name]))) comps) := by
  cases comps with
  | nil => exact .nil
  | cons ts more =>
    have hmore : Staying false more := by
      rw [List.head?_cons, Option.any_some] at hword
      rw [← hword]
      exact hcomps.2.2
    have hfile : ∀ r : Placed, Path.fileName? (r.path (segs ++ [name])) = some name := fun r => by
      rw [Placed.path_concat]
      exact Path.fileName?_join hname.toIsPart _
    rw [onward, onward, Place.path_at, Place.path_at, hfile, hfile]
    dsimp only
    split
    · split
      · exact .cons (.inl ⟨_, rel, by simp, rfl, rfl, h.mono (Nat.zero_le _)⟩) .nil
      · exact hdeeper hmore (List.suffix_cons ts more)
    · exact .nil

variable (hsame : p.content = q.content) (hp : p.HasRoom limit) (hq : q.HasRoom limit)
include hsame hp hq

/-- Everything that comes of two places stays together, if their fuel is enough for the depth. -/
theorem samePlace_visit {a b : Pending} (h : Together p q limit depth a b) {fuel fuel' : Nat}
    (hfuel : p.tree.entries.length < fuel + depth) (hfuel' : q.tree.entries.length < fuel' + depth) :
    List.Forall₂ (SamePlace p q limit) (visit p.tree false fuel a) (visit q.tree false fuel' b) := by
  induction fuel generalizing fuel' depth a b with
  | zero =>
    have := h.depth_le
    omega
  | succ fuel ih =>
    obtain ⟨fuel', rfl⟩ : ∃ k, fuel' = k + 1 := by
      have := h.depth_le
      exact ⟨fuel' - 1, by omega⟩
    cases h with
    | found h hd => exact .cons h .nil
    | @named segs rel name comps hname h hd hcomps =>
      have hdeeper : ∀ {more : List (List Glob.Include)}, Staying false more → more <:+ comps →
          List.Forall₂ (SamePlace p q limit)
            ((below p.tree more (Place.at p.tree (p.path (segs ++ [name])))).flatMap
              (visit p.tree false fuel))
            ((below q.tree more (Place.at q.tree (q.path (segs ++ [name])))).flatMap
              (visit q.tree false fuel')) := fun hstays hsuffix =>
        List.rel_flatMap (together_below hsame hp hq hstays
          (h.mono (lookedUp_le_of_suffix hsuffix)) (Nat.le_refl _))
          fun a b hab => ih hab (by omega) (by omega)
      rw [visit_some, visit_some, Place.isDir_at, Place.isDir_at, ← h.isDir_eq hsame]
      split
      next hrec =>
        -- Any number of directories may lie in between, or none.
        have hlast := lastRecursive_suffix comps
        have hstays := hcomps.lastRecursive
        have hnext := samePlace_onward hname h hstays.tail (lastRecursive_next comps)
          fun hmore hsuffix => hdeeper hmore (hsuffix.trans ((List.drop_suffix 1 _).trans hlast))
        split
        · split
          · exact .cons (.inl ⟨_, rel, by simp, rfl, rfl, h.mono (Nat.zero_le _)⟩)
              (hdeeper hstays hlast)
          · exact List.rel_append hnext (hdeeper hstays hlast)
        · exact hnext
      next hword =>
        exact samePlace_onward hname h (hcomps.mono true) (by simpa using hword) hdeeper

/-- So the components of an entry lead to the same places behind two roots. -/
theorem samePlace_pathsFrom {comps : List (List Glob.Include)} (hcomps : Staying false comps)
    (hlooked : lookedUp comps ≤ limit) {fuel fuel' : Nat} (hfuel : p.tree.entries.length < fuel)
    (hfuel' : q.tree.entries.length < fuel') :
    List.Forall₂ (SamePlace p q limit) (pathsFrom p.tree fuel comps (rootPath p.root))
      (pathsFrom q.tree fuel' comps (rootPath q.root)) := by
  have hroot : Abreast p q limit [] [] (lookedUp comps) := by
    refine ⟨nofun, ?_, ?_, by simpa using hlooked⟩
    · rw [List.append_nil]
      exact p.resolve_rootPath
    · rw [List.append_nil]
      exact q.resolve_rootPath
  exact List.rel_flatMap (together_below hsame hp hq hcomps hroot (Nat.le_refl 0))
    fun a b hab => samePlace_visit hsame hp hq hab hfuel hfuel'

end

end BuildGate
