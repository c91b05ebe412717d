import Mathlib.Data.List.Nodup
import ProbeTrace.Probe.Arg

/-!
# Paths of names

An argument is looked up in a hit by its name and those of the structures around
it, the outermost first. No two arguments share such a path exactly when siblings
have different names in every structure.
-/

set_option autoImplicit false

namespace ProbeTrace.Arg

mutual
/-- The paths of an argument and of everything below it. -/
def paths : Arg → List (List String)
  | .leaf place _ => [[place.name]]
  | .struct place members => [place.name] :: (pathsOf members).map (place.name :: ·)

def pathsOf : List Arg → List (List String)
  | [] => []
  | arg :: rest => paths arg ++ pathsOf rest
end

theorem paths_eq (arg : Arg) :
    arg.paths = [arg.name] :: (pathsOf arg.members).map (arg.name :: ·) := by
  cases arg with
  | leaf place kind => rfl
  | struct place members => rw [paths]; rfl

theorem head?_of_mem_paths {arg : Arg} {path : List String} (h : path ∈ arg.paths) :
    path.head? = some arg.name := by
  rw [paths_eq] at h
  rcases List.mem_cons.1 h with rfl | h
  · rfl
  · obtain ⟨below, -, rfl⟩ := List.mem_map.1 h
    rfl

theorem name_mem_paths (arg : Arg) : [arg.name] ∈ arg.paths := by
  rw [paths_eq]
  exact List.mem_cons_self

theorem mem_pathsOf {args : List Arg} {path : List String} :
    path ∈ pathsOf args ↔ ∃ arg ∈ args, path ∈ arg.paths := by
  induction args with
  | nil => simp [pathsOf]
  | cons arg rest ih => simp [pathsOf, ih]

theorem paths_nodup_iff (arg : Arg) : arg.paths.Nodup ↔ (pathsOf arg.members).Nodup := by
  have hself : [arg.name] ∉ (pathsOf arg.members).map (arg.name :: ·) := by
    intro h
    obtain ⟨path, hpath, heq⟩ := List.mem_map.1 h
    obtain ⟨member, -, hmember⟩ := mem_pathsOf.1 hpath
    -- A path below the argument names a member, so it is not empty.
    have hhead := head?_of_mem_paths hmember
    rw [(List.cons.inj heq).2] at hhead
    cases hhead
  rw [paths_eq, List.nodup_cons, List.nodup_map_iff List.cons_injective]
  exact and_iff_right hself

/-- The paths of two arguments meet only if the arguments have one name. -/
theorem paths_disjoint_iff (arg : Arg) (rest : List Arg) :
    arg.paths.Disjoint (pathsOf rest) ↔ arg.name ∉ rest.map name := by
  constructor
  · intro hdisjoint hname
    obtain ⟨other, hother, heq⟩ := List.mem_map.1 hname
    refine hdisjoint (name_mem_paths arg) (mem_pathsOf.2 ⟨other, hother, ?_⟩)
    rw [← heq]
    exact name_mem_paths other
  · intro hname path harg hrest
    obtain ⟨other, hother, hpath⟩ := mem_pathsOf.1 hrest
    have heq := (head?_of_mem_paths hpath).symm.trans (head?_of_mem_paths harg)
    exact hname (List.mem_map.2 ⟨other, hother, Option.some.inj heq⟩)

theorem pathsOf_nodup_iff (args : List Arg) :
    (pathsOf args).Nodup ↔
      (args.map name).Nodup ∧ ∀ arg ∈ args, (pathsOf arg.members).Nodup := by
  induction args with
  | nil => simp [pathsOf]
  | cons arg rest ih =>
    rw [pathsOf, List.nodup_append', paths_nodup_iff, ih, paths_disjoint_iff, List.map_cons,
      List.nodup_cons, List.forall_mem_cons]
    tauto

end ProbeTrace.Arg
