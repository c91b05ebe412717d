import Mathlib.Data.List.Infix
import Mathlib.Data.List.Nodup
import ProbeTrace.Probe.Arg

/-!
# The tree of arguments

Arguments at every depth, as a list and by the indices that lead to them. The
place that placing gives to an argument says which indices these are.
-/

set_option autoImplicit false

namespace ProbeTrace.Arg

mutual
/-- An argument and everything below it. -/
def all : Arg → List Arg
  | .leaf place kind => [.leaf place kind]
  | .struct place members => .struct place members :: allOf members

/-- The arguments at every depth. -/
def allOf : List Arg → List Arg
  | [] => []
  | arg :: rest => all arg ++ allOf rest
end

theorem all_eq (arg : Arg) : arg.all = arg :: allOf arg.members := by
  cases arg with
  | leaf place kind => rfl
  | struct place members => rw [all, Arg.members]

theorem mem_allOf {args : List Arg} {inner : Arg} :
    inner ∈ allOf args ↔ ∃ arg ∈ args, inner ∈ arg.all := by
  induction args with
  | nil => simp [allOf]
  | cons arg rest ih => simp [allOf, ih]

theorem mem_allOf_self {args : List Arg} {arg : Arg} (h : arg ∈ args) : arg ∈ allOf args :=
  mem_allOf.2 ⟨arg, h, all_eq arg ▸ List.mem_cons_self⟩

theorem mem_allOf_of_member {args : List Arg} {arg inner : Arg} (h : arg ∈ args)
    (hinner : inner ∈ allOf arg.members) : inner ∈ allOf args :=
  mem_allOf.2 ⟨arg, h, all_eq arg ▸ List.mem_cons_of_mem _ hinner⟩

/-- The argument that some indices lead to, the outermost first. -/
def at? : List Arg → List Nat → Option Arg
  | _, [] => none
  | args, [i] => args[i]?
  | args, i :: path => args[i]?.bind fun arg => at? arg.members path

theorem at?_cons {args : List Arg} {i : Nat} {path : List Nat} (h : path ≠ []) :
    at? args (i :: path) = args[i]?.bind fun arg => at? arg.members path := by
  cases path with
  | nil => exact absurd rfl h
  | cons j path => rfl

theorem mem_allOf_of_at? {args : List Arg} {path : List Nat} {arg : Arg}
    (h : at? args path = some arg) : arg ∈ allOf args := by
  induction path generalizing args with
  | nil => cases h
  | cons i path ih =>
    by_cases hlast : path = []
    · subst hlast
      exact mem_allOf_self (List.mem_of_getElem? h)
    · rw [at?_cons hlast] at h
      obtain ⟨outer, houter, hinner⟩ := Option.bind_eq_some_iff.1 h
      exact mem_allOf_of_member (List.mem_of_getElem? houter) (ih hinner)

mutual
/-- The long texts at any depth are the leaves of that kind. -/
theorem anyLongText_all : (arg : Arg) →
    (arg.leaves.any (fun leaf => leaf.2.isLongText) = false ↔
      ∀ inner ∈ arg.all, inner.isLongText = false)
  | .leaf place kind => by simp [leaves, all, isLongText]
  | .struct place members => by
    have hmembers := anyLongText_eq_false_iff members
    rw [anyLongText] at hmembers
    rw [leaves, hmembers, all, List.forall_mem_cons]
    exact (and_iff_right rfl).symm

theorem anyLongText_eq_false_iff : (args : List Arg) →
    (anyLongText args = false ↔ ∀ inner ∈ allOf args, inner.isLongText = false)
  | [] => by simp [anyLongText, leavesOf, allOf]
  | arg :: rest => by
    have hrest := anyLongText_eq_false_iff rest
    rw [anyLongText] at hrest
    rw [anyLongText, leavesOf, List.any_append, Bool.or_eq_false_iff, anyLongText_all arg, hrest,
      allOf, List.forall_mem_append]
end

end Arg

open Arg

theorem ArgDecl.placedFrom_getElem? (enclosing : List Nat) (start : Nat) (decls : List ArgDecl)
    (i : Nat) :
    (placedFrom enclosing start decls)[i]? =
      decls[i]?.map fun decl => decl.placed enclosing (start + i) := by
  induction decls generalizing start i with
  | nil => simp [placedFrom]
  | cons decl rest ih =>
    rw [placedFrom]
    cases i with
    | zero => simp
    | succ i => simp [ih, Nat.add_assoc, Nat.add_comm 1]

theorem ArgDecl.placed_place (enclosing : List Nat) (index : Nat) (decl : ArgDecl) :
    (decl.placed enclosing index).place.index = index ∧
      (decl.placed enclosing index).place.enclosing = enclosing := by
  cases decl <;> exact ⟨rfl, rfl⟩

/-- Some indices lead to the argument whose place they are. -/
theorem ArgDecl.placedFrom_at? {decls : List ArgDecl} {enclosing path : List Nat} {i : Nat}
    {arg : Arg} (h : at? (placedFrom enclosing 0 decls) (path ++ [i]) = some arg) :
    arg.place.index = i ∧ arg.place.enclosing = path.reverse ++ enclosing := by
  induction path generalizing decls enclosing with
  | nil =>
    rw [List.nil_append, at?, placedFrom_getElem?, Option.map_eq_some_iff] at h
    obtain ⟨decl, -, rfl⟩ := h
    rw [Nat.zero_add]
    exact placed_place enclosing i decl
  | cons j path ih =>
    rw [List.cons_append, at?_cons (by simp), placedFrom_getElem?, Nat.zero_add] at h
    obtain ⟨outer, houter, hinner⟩ := Option.bind_eq_some_iff.1 h
    obtain ⟨decl, -, rfl⟩ := Option.map_eq_some_iff.1 houter
    cases decl with
    | leaf name kind =>
      -- nothing lies below a leaf
      cases path <;> simp [placed, members, at?] at hinner
    | struct name members =>
      obtain ⟨hindex, henclosing⟩ := ih hinner
      exact ⟨hindex, by rw [henclosing, List.reverse_cons, List.append_assoc]; rfl⟩

/-- The indices that lead to a place, the innermost first. -/
def Place.indices (place : Place) : List Nat :=
  place.index :: place.enclosing

/-- The indices of a place are those that lead to it, read from the other end. -/
theorem ArgDecl.at?_indices {decls : List ArgDecl} {path : List Nat} {arg : Arg}
    (h : Arg.at? (placedFrom [] 0 decls) path = some arg) :
    arg.place.indices = path.reverse := by
  rcases List.eq_nil_or_concat path with rfl | ⟨outer, i, rfl⟩
  · cases h
  · rw [List.concat_eq_append] at h ⊢
    obtain ⟨hindex, henclosing⟩ := placedFrom_at? h
    rw [Place.indices, hindex, henclosing, List.append_nil, List.reverse_append]
    rfl

namespace ArgDecl

mutual
/-- No two arguments at and below one have the same indices, and all begin with its own. -/
theorem placed_indices (enclosing : List Nat) (index : Nat) : (decl : ArgDecl) →
    ((decl.placed enclosing index).all.map fun arg => arg.place.indices).Nodup ∧
      ∀ arg ∈ (decl.placed enclosing index).all, index :: enclosing <:+ arg.place.indices
  | .leaf name kind => by
    simp [placed, all, Arg.place, Place.indices]
  | .struct name members => by
    obtain ⟨hnodup, hbelow⟩ := placedFrom_indices (index :: enclosing) 0 members
    rw [placed, all, List.map_cons, List.nodup_cons, List.forall_mem_cons]
    refine ⟨⟨?_, hnodup⟩, List.suffix_refl _, ?_⟩
    · intro hmem
      obtain ⟨arg, harg, heq⟩ := List.mem_map.1 hmem
      obtain ⟨k, -, hsuffix⟩ := hbelow arg harg
      have hlength := hsuffix.length_le
      rw [heq] at hlength
      exact Nat.not_succ_le_self _ hlength
    · intro arg harg
      obtain ⟨k, -, hsuffix⟩ := hbelow arg harg
      exact (List.suffix_cons k _).trans hsuffix

theorem placedFrom_indices (enclosing : List Nat) (start : Nat) : (decls : List ArgDecl) →
    ((allOf (placedFrom enclosing start decls)).map fun arg => arg.place.indices).Nodup ∧
      ∀ arg ∈ allOf (placedFrom enclosing start decls),
        ∃ k, start ≤ k ∧ k :: enclosing <:+ arg.place.indices
  | [] => by simp [placedFrom, allOf]
  | decl :: rest => by
    obtain ⟨hfirst, hown⟩ := placed_indices enclosing start decl
    obtain ⟨hrest, hlater⟩ := placedFrom_indices enclosing (start + 1) rest
    rw [placedFrom, allOf, List.map_append, List.forall_mem_append]
    refine ⟨hfirst.append hrest ?_, fun arg harg => ⟨start, Nat.le_refl _, hown arg harg⟩, ?_⟩
    · intro indices hin hout
      obtain ⟨arg, harg, rfl⟩ := List.mem_map.1 hin
      obtain ⟨other, hother, heq⟩ := List.mem_map.1 hout
      obtain ⟨k, hk, hsuffix⟩ := hlater other hother
      rw [heq] at hsuffix
      -- both have the place among the siblings at the same distance from the end
      have hsame : k :: enclosing = start :: enclosing :=
        (List.suffix_of_suffix_length_le hsuffix (hown arg harg) (Nat.le_refl _)).eq_of_length rfl
      have hindex : k = start := (List.cons.inj hsame).1
      omega
    · intro arg harg
      obtain ⟨k, hk, hsuffix⟩ := hlater arg harg
      exact ⟨k, by omega, hsuffix⟩
end

end ArgDecl
end ProbeTrace
