import ProbeTrace.Probe.Spec
import ProbeTrace.Proofs.Outcome

/-!
# What the checks check

Each check of a description succeeds exactly when a plain condition on it holds.
The names in use are threaded through the whole tree of arguments, and yet what
they come to is one condition: the field names of all leaves differ.
-/

set_option autoImplicit false

namespace ProbeTrace

open Outcome

namespace RecordLayout

def fieldsOf (leaves : List (Place × Leaf)) : List String :=
  leaves.flatMap fun leaf => (leafSlots leaf.1 leaf.2).map Prod.fst

theorem fieldsOf_append (a b : List (Place × Leaf)) :
    fieldsOf (a ++ b) = fieldsOf a ++ fieldsOf b :=
  List.flatMap_append

theorem slotsOf_names (args : List Arg) :
    (slotsOf args).map Prod.fst = fieldsOf (Arg.leavesOf args) := by
  rw [slotsOf, fieldsOf, List.map_flatMap]

end RecordLayout

open RecordLayout

mutual
/-- The conditions on an argument that no other argument has a part in. -/
def Arg.WellFormed : Arg → Prop
  | .leaf place kind => ProbeSpec.isIdentifier place.name ∧ kind ≠ .text 0
  | .struct place members =>
    ProbeSpec.isIdentifier place.name ∧ members ≠ [] ∧ Arg.anyLongText members = false ∧
      Arg.AllWellFormed members

def Arg.AllWellFormed : List Arg → Prop
  | [] => True
  | arg :: rest => Arg.WellFormed arg ∧ Arg.AllWellFormed rest
end

namespace ProbeSpec

/-- Some names differ from each other and from those in use, and are in use afterwards. -/
def Claims (used names after : List String) : Prop :=
  names.Nodup ∧ (∀ name ∈ names, name ∉ used) ∧ after = names.reverse ++ used

theorem claims_append {used a b after : List String} :
    Claims used (a ++ b) after ↔ ∃ between, Claims used a between ∧ Claims between b after := by
  constructor
  · rintro ⟨hnodup, hfresh, rfl⟩
    obtain ⟨ha, hb, hab⟩ := List.nodup_append.1 hnodup
    refine ⟨_, ⟨ha, fun name h => hfresh name (List.mem_append_left b h), rfl⟩, hb, ?_, by simp⟩
    intro name h
    simp only [List.mem_append, List.mem_reverse, not_or]
    exact ⟨fun hname => hab name hname name h rfl, hfresh name (List.mem_append_right a h)⟩
  · rintro ⟨between, ⟨ha, hafresh, rfl⟩, hb, hbfresh, rfl⟩
    simp only [List.mem_append, List.mem_reverse, not_or] at hbfresh
    refine ⟨List.nodup_append.2 ⟨ha, hb, ?_⟩, ?_, by simp⟩
    · rintro name h _ h' rfl
      exact (hbfresh name h').1 h
    · intro name h
      rcases List.mem_append.1 h with h | h
      · exact hafresh name h
      · exact (hbfresh name h).2

theorem checkIdentifier_eq_ok_iff {name : String} {u : Unit} :
    checkIdentifier name = .ok u ↔ isIdentifier name := by
  unfold checkIdentifier
  split <;> simp_all

theorem claimFields_eq_ok_iff {probe : String} {used names after : List String} :
    claimFields probe used names = .ok after ↔ Claims used names after := by
  induction names generalizing used with
  | nil => simp [claimFields, Claims, eq_comm]
  | cons name rest ih =>
    have hname : ∀ between, Claims used [name] between ↔
        name ∉ used ∧ between = name :: used := by simp [Claims]
    rw [claimFields, guard_eq_ok_iff, ih, show name :: rest = [name] ++ rest from rfl,
      claims_append]
    simp only [hname, and_assoc, exists_and_left, exists_eq_left]

theorem checkLeaf_eq_ok_iff {probe : String} {used after : List String} {place : Place}
    {kind : Leaf} :
    checkLeaf probe used place kind = .ok after ↔
      (Arg.leaf place kind).WellFormed ∧ Claims used (fieldsOf [(place, kind)]) after := by
  simp [checkLeaf, bind_eq_ok_iff, error_bind, guard_eq_ok_iff, checkIdentifier_eq_ok_iff,
    claimFields_eq_ok_iff, Arg.WellFormed, fieldsOf, and_assoc]

mutual
theorem checkArg_eq_ok_iff (probe : String) (used after : List String) :
    (arg : Arg) → (checkArg probe used arg = .ok after ↔
      arg.WellFormed ∧ Claims used (fieldsOf arg.leaves) after)
  | .leaf place kind => checkLeaf_eq_ok_iff
  | .struct place members => by
    simp [checkArg, bind_eq_ok_iff, error_bind, guard_eq_ok_iff, checkIdentifier_eq_ok_iff,
      checkArgs_eq_ok_iff probe used after members, Arg.WellFormed, Arg.leaves, and_assoc]

theorem checkArgs_eq_ok_iff (probe : String) (used after : List String) :
    (args : List Arg) → (checkArgs probe used args = .ok after ↔
      Arg.AllWellFormed args ∧ Claims used (fieldsOf (Arg.leavesOf args)) after)
  | [] => by simp [checkArgs, Arg.AllWellFormed, Arg.leavesOf, fieldsOf, Claims, eq_comm]
  | arg :: rest => by
    simp only [checkArgs, bind_eq_ok_iff, checkArg_eq_ok_iff probe used _ arg,
      checkArgs_eq_ok_iff probe _ after rest, Arg.AllWellFormed, Arg.leavesOf, fieldsOf_append,
      claims_append]
    constructor
    · rintro ⟨between, ⟨harg, hbetween⟩, hrest, hafter⟩
      exact ⟨⟨harg, hrest⟩, between, hbetween, hafter⟩
    · rintro ⟨⟨harg, hrest⟩, between, hbetween, hafter⟩
      exact ⟨between, ⟨harg, hbetween⟩, hrest, hafter⟩
end

/-- The walk over the top level: names that differ, lengths that are integers, and
arguments whose fields all differ. -/
theorem checkTop_eq_ok_iff {probe : String} {args : List Arg} {names used : List String}
    {rest : List Arg} :
    checkTop probe args names used rest = .ok () ↔
      (rest.map Arg.name).Nodup ∧ (∀ arg ∈ rest, arg.name ∉ names) ∧
      (∀ arg ∈ rest, checkLengthArg probe args arg = .ok ()) ∧ Arg.AllWellFormed rest ∧
      ∃ after, Claims used (fieldsOf (Arg.leavesOf rest)) after := by
  induction rest generalizing names used with
  | nil => simp [checkTop, Arg.AllWellFormed, Arg.leavesOf, fieldsOf, Claims]
  | cons arg rest ih =>
    simp only [checkTop, bind_eq_ok_iff, error_bind, guard_eq_ok_iff, checkArg_eq_ok_iff, ih,
      Arg.AllWellFormed, Arg.leavesOf, fieldsOf_append, claims_append, List.map_cons,
      List.nodup_cons, List.forall_mem_cons, List.mem_map, not_exists, not_and]
    constructor
    · rintro ⟨hname, _, hlength, between, ⟨harg, hbetween⟩, hnodup, hfresh, hlengths, hrest,
        after, hafter⟩
      exact ⟨⟨fun other hother => List.ne_of_not_mem_cons (hfresh other hother), hnodup⟩,
        ⟨hname, fun other hother => List.not_mem_of_not_mem_cons (hfresh other hother)⟩,
        ⟨hlength, hlengths⟩, ⟨harg, hrest⟩, after, between, hbetween, hafter⟩
    · rintro ⟨⟨hother, hnodup⟩, ⟨hname, hfresh⟩, ⟨hlength, hlengths⟩, ⟨harg, hrest⟩, after,
        between, hbetween, hafter⟩
      exact ⟨hname, (), hlength, between, ⟨harg, hbetween⟩, hnodup,
        fun other h => List.not_mem_cons_of_ne_of_not_mem (hother other h) (hfresh other h),
        hlengths, hrest, after, hafter⟩

theorem build_eq_ok_iff {name : String} {decls : List ArgDecl} {tuning : Tuning}
    {spec : ProbeSpec} :
    build name decls tuning = .ok spec ↔
      isIdentifier name ∧ isSamplingFraction tuning.sampling ∧
      (longTexts (ArgDecl.placedFrom [] 0 decls)).length ≤ 1 ∧
      ((longTexts (ArgDecl.placedFrom [] 0 decls)).length = 1 →
        tuning.chunkSize ≠ 0 ∧ tuning.chunkCount ≠ 0) ∧
      checkTop name (ArgDecl.placedFrom [] 0 decls) [] reserved
        (ArgDecl.placedFrom [] 0 decls) = .ok () ∧
      spec = ⟨name, none, ArgDecl.placedFrom [] 0 decls, tuning⟩ := by
  simp [build, bind_eq_ok_iff, error_bind, guard_eq_ok_iff, checkIdentifier_eq_ok_iff,
    pure, Except.pure, @eq_comm _ spec, exists_eq_ok_unit]

end ProbeSpec
end ProbeTrace
