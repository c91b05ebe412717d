import ProbeTrace.Proofs.Probe.Checks

/-!
# Accepted descriptions

What a description that passed the checks can be trusted for. Only the provider
may be named afterwards, and nothing hangs on it.
-/

set_option autoImplicit false

namespace ProbeTrace.ProbeSpec

open RecordLayout

/-- A description that passed the checks, whichever provider it was given since. -/
def Accepted (spec : ProbeSpec) : Prop :=
  ∃ decls, build spec.name decls spec.tuning = .ok { spec with provider := none }

theorem accepted_of_build {name : String} {decls : List ArgDecl} {tuning : Tuning}
    {spec : ProbeSpec} (h : build name decls tuning = .ok spec) : spec.Accepted := by
  obtain ⟨-, -, -, -, -, rfl⟩ := build_eq_ok_iff.1 h
  exact ⟨decls, h⟩

theorem Accepted.withProvider {spec : ProbeSpec} (h : spec.Accepted) (provider : String) :
    (spec.withProvider provider).Accepted :=
  h

theorem Accepted.placed {spec : ProbeSpec} (h : spec.Accepted) :
    ∃ decls, spec.args = ArgDecl.placedFrom [] 0 decls := by
  obtain ⟨decls, h⟩ := h
  obtain ⟨-, -, -, -, -, hspec⟩ := build_eq_ok_iff.1 h
  exact ⟨decls, congrArg ProbeSpec.args hspec⟩

theorem Accepted.checkTop {spec : ProbeSpec} (h : spec.Accepted) :
    checkTop spec.name spec.args [] reserved spec.args = .ok () := by
  obtain ⟨decls, h⟩ := h
  obtain ⟨-, -, -, -, htop, hspec⟩ := build_eq_ok_iff.1 h
  have hargs : spec.args = ArgDecl.placedFrom [] 0 decls := congrArg ProbeSpec.args hspec
  rw [hargs]
  exact htop

theorem Accepted.names_nodup {spec : ProbeSpec} (h : spec.Accepted) :
    (spec.args.map Arg.name).Nodup :=
  (checkTop_eq_ok_iff.1 h.checkTop).1

theorem Accepted.wellFormed {spec : ProbeSpec} (h : spec.Accepted) :
    Arg.AllWellFormed spec.args :=
  (checkTop_eq_ok_iff.1 h.checkTop).2.2.2.1

theorem Accepted.fields_nodup {spec : ProbeSpec} (h : spec.Accepted) :
    (fieldsOf (Arg.leavesOf spec.args)).Nodup := by
  obtain ⟨-, -, -, -, after, hclaims⟩ := checkTop_eq_ok_iff.1 h.checkTop
  exact hclaims.1

theorem Accepted.fields_unreserved {spec : ProbeSpec} (h : spec.Accepted) :
    ∀ field ∈ fieldsOf (Arg.leavesOf spec.args), field ∉ reserved := by
  obtain ⟨-, -, -, -, after, hclaims⟩ := checkTop_eq_ok_iff.1 h.checkTop
  exact hclaims.2.1

theorem longTexts_length (args : List Arg) :
    (longTexts args).length = args.countP Arg.isLongText :=
  List.countP_eq_length_filter.symm

/-- There is one long text, if there is any. -/
theorem longTexts_length_eq_one_iff {args : List Arg} (h : (longTexts args).length ≤ 1) :
    (longTexts args).length = 1 ↔ ∃ arg ∈ args, arg.isLongText := by
  have hpos : 0 < (longTexts args).length ↔ ∃ arg ∈ args, arg.isLongText := by
    rw [longTexts_length, List.countP_pos_iff]
  rw [← hpos]
  omega

theorem Accepted.single {spec : ProbeSpec} (h : spec.Accepted) :
    (longTexts spec.args).length ≤ 1 := by
  obtain ⟨decls, h⟩ := h
  obtain ⟨-, -, hsingle, -, -, hspec⟩ := build_eq_ok_iff.1 h
  have hargs : spec.args = ArgDecl.placedFrom [] 0 decls := congrArg ProbeSpec.args hspec
  exact hargs ▸ hsingle

theorem Accepted.longTexts_length {spec : ProbeSpec} (h : spec.Accepted) :
    (longTexts spec.args).length = spec.longText?.isSome.toNat := by
  have hone := longTexts_length_eq_one_iff h.single
  rw [← List.find?_isSome] at hone
  change _ ↔ spec.longText?.isSome = true at hone
  have hsingle := h.single
  cases hsome : spec.longText?.isSome with
  | true => exact hone.2 hsome
  | false =>
    rw [hsome] at hone
    have hnot : (longTexts spec.args).length ≠ 1 := fun heq => nomatch hone.1 heq
    rw [Bool.toNat_false]
    omega

/-- With a long text there is a ring, and it is not empty. -/
theorem Accepted.chunked {spec : ProbeSpec} (h : spec.Accepted) {place : Place}
    {lengthArg : Option Nat} (harg : Arg.leaf place (.longText lengthArg) ∈ spec.args) :
    spec.tuning.chunkSize ≠ 0 ∧ spec.tuning.chunkCount ≠ 0 := by
  obtain ⟨decls, h⟩ := h
  obtain ⟨-, -, hsingle, hchunks, -, hspec⟩ := build_eq_ok_iff.1 h
  have hargs : spec.args = ArgDecl.placedFrom [] 0 decls := congrArg ProbeSpec.args hspec
  have hlong : Arg.leaf place (.longText lengthArg) ∈ longTexts (ArgDecl.placedFrom [] 0 decls) :=
    List.mem_filter.2 ⟨hargs ▸ harg, rfl⟩
  have hpos := List.length_pos_of_mem hlong
  exact hchunks (by omega)

end ProbeTrace.ProbeSpec
