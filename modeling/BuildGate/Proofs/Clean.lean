import BuildGate.Pipeline
import BuildGate.Proofs.BoundedWalk
import BuildGate.Proofs.Steps

/-!
# What a cleaning removes

Before a coverage run the directory of its output is removed. Settings decide which directory that
is, and a path in them may climb, be absolute or lead through links, so the decision is made on
canonical paths: what is removed has to lie below the root, compared name by name.

A cleaning either finds nothing to remove, or takes away one directory below the root with what is in
it, or fails and leaves every entry as it is.

**Results.**
* `below_iff`: the test on canonical paths is the one on locations.
* `clean_end`: every way in which a cleaning ends, with what leads to it.
* `clean_again`: after a cleaning that succeeded there is nothing to clean.
* `clean_effects`: what a cleaning does to a file system, whatever the settings are.
-/
namespace BuildGate

namespace FileTree

/-- `loc` lies strictly below `root`. -/
def IsBelow (loc root : Location) : Prop := root <+: loc ∧ loc ≠ root

theorem IsBelow.ne_nil {loc root : Location} (h : IsBelow loc root) : loc ≠ [] := by
  intro hnil
  subst hnil
  exact h.2 (List.prefix_nil.1 h.1).symm

instance (loc root : Location) : Decidable (IsBelow loc root) := by
  unfold IsBelow; infer_instance

/-- Paths without links are compared name by name. -/
theorem below_iff {loc root : Location} (hl : ∀ n ∈ loc, IsName n) (hr : ∀ n ∈ root, IsName n) :
    (Path.same (pathOf loc) (pathOf root) || !Path.startsWith (pathOf loc) (pathOf root)) = true ↔
      ¬ IsBelow loc root := by
  have hinj : Function.Injective Path.Component.name := fun a b h => by cases h; rfl
  have hsame : Path.same (pathOf loc) (pathOf root) = true ↔ loc = root := by
    rw [Path.same, beq_iff_eq, components_pathOf hl, components_pathOf hr, List.cons.injEq]
    simp [List.map_inj_right hinj]
  have hstarts : Path.startsWith (pathOf loc) (pathOf root) = true ↔ root <+: loc := by
    rw [Path.startsWith, List.isPrefixOf_iff_prefix, components_pathOf hl, components_pathOf hr,
      List.cons_prefix_cons, List.prefix_map_iff_of_injective hinj]
    simp
  rw [Bool.or_eq_true, Bool.not_eq_true', hsame, ← Bool.not_eq_true, hstarts, IsBelow]
  constructor
  · rintro (rfl | hn) ⟨h1, h2⟩
    · exact h2 rfl
    · exact hn h1
  · intro h
    by_cases he : loc = root
    · exact .inl he
    · exact .inr fun hp => h ⟨hp, he⟩

theorem canonical_eq {t : FileTree} {path : String} {loc : Location} (h : t.resolve path = .ok loc) :
    t.canonical path = .ok (pathOf loc) := by
  simp only [canonical, h]
  rfl

theorem canonical_error {t : FileTree} {path : String} {cause : IoFault}
    (h : t.resolve path = .error cause) : t.canonical path = .error cause := by
  simp only [canonical, h]
  rfl

/-- What becomes of a location whose path is given for removal. -/
theorem removeDirAll_pathOf {t : FileTree} (wf : t.WellFormed) {loc : Location} {e : Entry}
    (h : t.get? loc = some e) (hp : Entry.IsPlace e) :
    t.removeDirAll (pathOf loc) =
      if maxPath < (pathOf loc).utf8ByteSize then .error .nameTooLong
      else if e = .dir then .ok (t.remove loc) else .error .notADirectory := by
  simp only [removeDirAll, resolveWith_pathOf wf false h hp]
  split
  · rfl
  · simp only [bind, Except.bind, h]
    cases e with
    | link s => exact hp.elim
    | dir => rfl
    | file bytes => rfl

end FileTree

open FileTree World

namespace Pipeline

variable (p : Pipeline) {w : World}

/-- The `coverage.outputDir` of the settings, from the root. -/
def outputPath : String := Path.join p.root p.settings.coverage.outputDir

theorem clean_absent (h : w.tree.exists p.outputPath = false) : p.clean w = (.ok (), w) := by
  unfold clean
  rw [Step.bind_ok (Step.tree_run w)]
  unfold outputPath at h
  simp only [h, Bool.false_eq_true, if_false]
  rfl

section
variable (hex : w.tree.exists p.outputPath = true)
include hex

theorem clean_rootless {cause : IoFault} (hr : w.tree.resolve p.root = .error cause) :
    p.clean w = (.error (.io p.root cause), w) := by
  unfold clean
  rw [Step.bind_ok (Step.tree_run w)]
  unfold outputPath at hex
  simp only [hex, if_true]
  exact Step.ofExcept_bind_error (by rw [canonical_error hr]; rfl) _ w

variable (wf : w.tree.WellFormed) {root loc : Location} (hr : w.tree.resolve p.root = .ok root)
  (hd : w.tree.resolve p.outputPath = .ok loc)
include wf hr hd

/-- With both paths resolved the two locations decide. -/
theorem clean_resolved : ∃ w', Reports w [] w' ∧
    p.clean w =
      if IsBelow loc root then
        match w.tree.removeDirAll (pathOf loc) with
        | .ok t => (.ok (), { w' with tree := t })
        | .error cause => (.error (.io (pathOf loc) cause), w')
      else (.error (.unsafeClean (pathOf loc) (pathOf root)), w') := by
  obtain ⟨_, hre, -⟩ := resolve_stands wf hr
  obtain ⟨_, hde, -⟩ := resolve_stands wf hd
  have hbelow := below_iff (fun n hn => (wf.isName hde n hn).1) (fun n hn => (wf.isName hre n hn).1)
  unfold outputPath at hex hd
  unfold clean
  rw [Step.bind_ok (Step.tree_run w)]
  simp only [hex, if_true]
  rw [Step.ofExcept_bind_ok (a := pathOf root) (by rw [canonical_eq hr]; rfl),
    Step.ofExcept_bind_ok (a := pathOf loc) (by rw [canonical_eq hd]; rfl)]
  by_cases hb : IsBelow loc root
  · obtain ⟨w₁, h₁, hr₁⟩ := Step.log_run .info .pipeline "removing coverage output"
      [("dir", pathOf loc)] w
    refine ⟨w₁, hr₁, ?_⟩
    rw [if_neg (by rw [hbelow]; exact not_not_intro hb), if_pos hb]
    rw [Step.bind_ok h₁]
    cases w.tree.removeDirAll (pathOf loc) with
    | ok t => rfl
    | error cause => rfl
  · obtain ⟨w₁, h₁, hr₁⟩ := Step.log_run .warn .pipeline "coverage output is not inside the project"
      [("dir", pathOf loc), ("root", pathOf root)] w
    refine ⟨w₁, hr₁, ?_⟩
    rw [if_pos (hbelow.2 hb), if_neg hb]
    rw [Step.bind_ok h₁]
    rfl

end

/-! ## All ways in which a cleaning ends -/

/-- The ends of a `clean` from `w`, each with what leads to it and what it leaves. -/
inductive CleanEnd (p : Pipeline) (w : World) : Except Failure Unit × World → Prop where
  | absent (hex : w.tree.exists p.outputPath = false) : CleanEnd p w (.ok (), w)
  | rootless {cause : IoFault} (hex : w.tree.exists p.outputPath = true)
      (hr : w.tree.resolve p.root = .error cause) : CleanEnd p w (.error (.io p.root cause), w)
  | outside {root loc : Location} {w' : World} (hr : w.tree.resolve p.root = .ok root)
      (hd : w.tree.resolve p.outputPath = .ok loc) (hb : ¬ IsBelow loc root)
      (hw : Reports w [] w') :
      CleanEnd p w (.error (.unsafeClean (pathOf loc) (pathOf root)), w')
  | refused {root loc : Location} {cause : IoFault} {w' : World}
      (hr : w.tree.resolve p.root = .ok root) (hd : w.tree.resolve p.outputPath = .ok loc)
      (hb : IsBelow loc root)
      (hc : maxPath < (pathOf loc).utf8ByteSize ∧ cause = .nameTooLong ∨
        w.tree.get? loc ≠ some .dir ∧ cause = .notADirectory)
      (hw : Reports w [] w') : CleanEnd p w (.error (.io (pathOf loc) cause), w')
  | removed {root loc : Location} {w' : World} (hr : w.tree.resolve p.root = .ok root)
      (hd : w.tree.resolve p.outputPath = .ok loc) (hb : IsBelow loc root)
      (hdir : w.tree.get? loc = some .dir) (hw : Reports w [] w') :
      CleanEnd p w (.ok (), { w' with tree := w.tree.remove loc })

theorem clean_end (wf : w.tree.WellFormed) : CleanEnd p w (p.clean w) := by
  cases hex : w.tree.exists p.outputPath with
  | false => rw [clean_absent p hex]; exact .absent hex
  | true =>
    cases hr : w.tree.resolve p.root with
    | error cause => rw [clean_rootless p hex hr]; exact .rootless hex hr
    | ok root =>
      obtain ⟨loc, e, hd, he⟩ := (exists_iff _ _).1 hex
      obtain ⟨w', hw, h⟩ := clean_resolved p hex wf hr hd
      rw [h]
      by_cases hb : IsBelow loc root
      · obtain ⟨e', he', hp⟩ := resolve_stands wf hd
        have hee : e = e' := Option.some.inj (he.symm.trans he')
        rw [if_pos hb, removeDirAll_pathOf wf he (hee ▸ hp)]
        by_cases hlong : maxPath < (pathOf loc).utf8ByteSize
        · rw [if_pos hlong]
          exact .refused hr hd hb (.inl ⟨hlong, rfl⟩) hw
        · rw [if_neg hlong]
          by_cases hdir : e = .dir
          · rw [if_pos hdir]
            exact .removed hr hd hb (hdir ▸ he) hw
          · rw [if_neg hdir]
            exact .refused hr hd hb (.inr ⟨by rw [he]; simpa using hdir, rfl⟩) hw
      · rw [if_neg hb]
        exact .outside hr hd hb hw

/-- `t'` is `t` without what stands at and below `loc`. -/
def Removed (t : FileTree) (loc : Location) (t' : FileTree) : Prop :=
  t'.workingDir = t.workingDir ∧
    ∀ at_, t'.get? at_ = if loc <+: at_ then none else t.get? at_

theorem removed_remove {t : FileTree} {loc : Location} (h : loc ≠ []) :
    Removed t loc (t.remove loc) := by
  refine ⟨rfl, fun at_ => ?_⟩
  by_cases hat : at_ = []
  · subst hat
    rw [if_neg (by rwa [List.prefix_nil])]
    rfl
  · rw [get?_remove t loc at_ hat]
    simp only [List.isPrefixOf_iff_prefix]

/-- A cleaning that succeeded leaves nothing for the next one. -/
theorem clean_again (wf : w.tree.WellFormed) (h : (p.clean w).1 = .ok ()) :
    p.clean (p.clean w).2 = (.ok (), (p.clean w).2) := by
  have hend := clean_end p wf
  generalize p.clean w = out at h hend
  cases hend with
  | absent hex => exact clean_absent p hex
  | rootless hex hr => cases h
  | outside hr hd hb hw => cases h
  | refused hr hd hb hc hw => cases h
  | removed hr hd hb hdir hw => exact clean_absent p (exists_remove hb.ne_nil hd)

/-! ## What cleaning does to a file system -/

section
variable {p} {out : Except Failure Unit × World}

theorem CleanEnd.effect (h : CleanEnd p w out) (wf : w.tree.WellFormed) :
    (w.tree.exists p.outputPath = false ∧ out.1 = .ok () ∧ out.2.tree = w.tree) ∨
    (∃ root loc, w.tree.resolve p.root = .ok root ∧ w.tree.resolve p.outputPath = .ok loc ∧
      w.tree.get? loc = some .dir ∧ IsBelow loc root ∧ out.1 = .ok () ∧
      Removed w.tree loc out.2.tree) ∨
    (w.tree.exists p.outputPath = true ∧ out.2.tree = w.tree ∧
      ((∃ target root, out.1 = .error (.unsafeClean target root)) ∨
        ∃ path cause, out.1 = .error (.io path cause))) := by
  cases h with
  | absent hex => exact .inl ⟨hex, rfl, rfl⟩
  | rootless hex hr => exact .inr (.inr ⟨hex, rfl, .inr ⟨_, _, rfl⟩⟩)
  | outside hr hd hb hw =>
    obtain ⟨e, he, -⟩ := resolve_stands wf hd
    exact .inr (.inr ⟨(exists_iff _ _).2 ⟨_, e, hd, he⟩, hw.tree, .inl ⟨_, _, rfl⟩⟩)
  | refused hr hd hb hc hw =>
    obtain ⟨e, he, -⟩ := resolve_stands wf hd
    exact .inr (.inr ⟨(exists_iff _ _).2 ⟨_, e, hd, he⟩, hw.tree, .inr ⟨_, _, rfl⟩⟩)
  | removed hr hd hb hdir hw =>
    exact .inr (.inl ⟨_, _, hr, hd, hdir, hb, rfl, removed_remove hb.ne_nil⟩)

/-- A directory that is not below the root is refused by its name, and nothing else is. -/
theorem CleanEnd.unsafe_iff (h : CleanEnd p w out) (wf : w.tree.WellFormed) (a b : String) :
    out.1 = .error (.unsafeClean a b) ↔
      ∃ root loc, w.tree.resolve p.root = .ok root ∧ w.tree.resolve p.outputPath = .ok loc ∧
        ¬ IsBelow loc root ∧ a = pathOf loc ∧ b = pathOf root := by
  constructor
  · intro hout
    cases h with
    | absent hex => cases hout
    | rootless hex hr => cases hout
    | outside hr hd hb hw =>
      cases hout
      exact ⟨_, _, hr, hd, hb, rfl, rfl⟩
    | refused hr hd hb hc hw => cases hout
    | removed hr hd hb hdir hw => cases hout
  · rintro ⟨root, loc, hroot, hloc, hnot, rfl, rfl⟩
    have hex : w.tree.exists p.outputPath = true := by
      obtain ⟨e, he, -⟩ := resolve_stands wf hloc
      exact (exists_iff _ _).2 ⟨loc, e, hloc, he⟩
    cases h with
    | absent hno => rw [hno] at hex; cases hex
    | rootless _ hr => rw [hr] at hroot; cases hroot
    | outside hr hd hb hw =>
      obtain rfl := Except.ok.inj (hr.symm.trans hroot)
      obtain rfl := Except.ok.inj (hd.symm.trans hloc)
      rfl
    | refused hr hd hb hc hw =>
      obtain rfl := Except.ok.inj (hr.symm.trans hroot)
      obtain rfl := Except.ok.inj (hd.symm.trans hloc)
      exact (hnot hb).elim
    | removed hr hd hb hdir hw =>
      obtain rfl := Except.ok.inj (hr.symm.trans hroot)
      obtain rfl := Except.ok.inj (hd.symm.trans hloc)
      exact (hnot hb).elim

/-- Whatever changes lies below the root. -/
theorem CleanEnd.changed (h : CleanEnd p w out) {at_ : Location}
    (hat : out.2.tree.get? at_ ≠ w.tree.get? at_) :
    ∃ root, w.tree.resolve p.root = .ok root ∧ IsBelow at_ root := by
  cases h with
  | absent hex => exact (hat rfl).elim
  | rootless hex hr => exact (hat rfl).elim
  | outside hr hd hb hw => exact (hat (by rw [hw.tree])).elim
  | refused hr hd hb hc hw => exact (hat (by rw [hw.tree])).elim
  | @removed root loc w' hr hd hb hdir hw =>
    refine ⟨root, hr, ?_⟩
    by_cases hp : loc <+: at_
    · refine ⟨hb.1.trans hp, ?_⟩
      rintro rfl
      exact hb.2 (hp.eq_of_length_le hb.1.length_le)
    · rw [(removed_remove hb.ne_nil).2 at_, if_neg hp] at hat
      exact (hat rfl).elim

end

/-- A project whose output directory is a link to a directory outside. -/
def linkedOutput : FileTree where
  entries :=
    [(["src"], .dir), (["src", "main.js"], .file ⟨#[]⟩), (["proj"], .dir),
      (["proj", "coverage"], .link "../src")]

end Pipeline

end BuildGate
