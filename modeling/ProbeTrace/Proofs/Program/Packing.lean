import Mathlib.Algebra.Ring.Nat
import Mathlib.Data.List.Infix
import ProbeTrace.Program.Plan

/-!
# Packing probes into programs

A packing cuts a list into consecutive groups, of which only a group of one may be
over the budget. The groups that are closed as late as possible are a packing, and
there is none with fewer groups: whatever the others, the group that is open here
never began before theirs.
-/

set_option autoImplicit false

namespace ProbeTrace.Plan

variable {α : Type} {cost : α → Nat} {budget : Nat}

/-- The cost of a group. -/
def total (cost : α → Nat) (group : List α) : Nat :=
  (group.map cost).sum

theorem total_append (a b : List α) : total cost (a ++ b) = total cost a + total cost b := by
  rw [total, List.map_append, List.sum_append]
  rfl

theorem total_le_of_infix (cost : α → Nat) {a b : List α} (h : a <:+: b) :
    total cost a ≤ total cost b := by
  obtain ⟨front, back, rfl⟩ := h
  rw [total_append, total_append]
  omega

/-- A group keeps to the budget, or nothing can be taken out of it. -/
def Fits (cost : α → Nat) (budget : Nat) (group : List α) : Prop :=
  2 ≤ group.length → total cost group ≤ budget

structure Packing (cost : α → Nat) (budget : Nat) (list : List α) (groups : List (List α)) :
    Prop where
  whole : groups.flatten = list
  filled : ∀ group ∈ groups, group ≠ []
  fits : ∀ group ∈ groups, Fits cost budget group

theorem fits_singleton (a : α) : Fits cost budget [a] := by
  intro hlength
  simp at hlength

theorem packFrom_fits {group list : List α} (h : Fits cost budget group) :
    ∀ g ∈ packFrom cost budget group (total cost group) list, Fits cost budget g := by
  induction list generalizing group with
  | nil =>
    intro g hg
    rw [packFrom, List.mem_singleton] at hg
    exact hg ▸ h
  | cons a rest ih =>
    have hlonger : total cost (group ++ [a]) = total cost group + cost a := total_append group [a]
    rw [packFrom]
    split
    case isTrue hroom =>
      rw [← hlonger] at hroom ⊢
      exact ih fun _ => hroom
    case isFalse =>
      rw [List.forall_mem_cons]
      exact ⟨h, ih (fits_singleton a)⟩

theorem pack_packing (list : List α) : Packing cost budget list (pack cost budget list) where
  whole := pack_flatten cost budget list
  filled := pack_ne_nil cost budget list
  fits := by
    cases list with
    | nil => exact nofun
    | cons a rest => exact packFrom_fits (fits_singleton a)

/-- Where the next element does not fit into a group any more, a packing that has the
group behind some other elements closes one of its groups before that element. -/
theorem Packing.closes {front group rest : List α} {a : α} {groups : List (List α)}
    (h : Packing cost budget (front ++ group ++ a :: rest) groups) (hgroup : group ≠ [])
    (hfull : budget < total cost group + cost a) :
    ∃ first later done, groups = first :: later ∧
      Packing cost budget (done ++ [a] ++ rest) later := by
  obtain ⟨hwhole, hfilled, hfits⟩ := h
  cases groups with
  | nil =>
    rw [List.flatten_nil] at hwhole
    exact absurd hwhole.symm (by simp)
  | cons first later =>
    rw [List.forall_mem_cons] at hfilled hfits
    rw [List.flatten_cons] at hwhole
    rcases List.append_eq_append_iff.1 hwhole with ⟨done, hdone, hlater⟩ | ⟨more, hmore, hlater⟩
    · refine ⟨first, later, done, rfl, ?_, hfilled.2, hfits.2⟩
      rw [hlater, List.append_assoc]
      rfl
    · -- otherwise the first group holds the element and the full group in front of it
      cases more with
      | nil =>
        refine ⟨first, later, [], rfl, ?_, hfilled.2, hfits.2⟩
        exact hlater.symm
      | cons b more =>
        obtain ⟨rfl, -⟩ := List.cons.inj hlater
        have hinfix : group ++ [a] <:+: first := ⟨front, more, by simp [hmore]⟩
        have hlength : 2 ≤ first.length := by
          have hpos := List.length_pos_of_ne_nil hgroup
          have hle := hinfix.length_le
          rw [List.length_append, List.length_singleton] at hle
          omega
        have hover := total_le_of_infix cost hinfix
        have hsum : total cost (group ++ [a]) = total cost group + cost a := total_append group [a]
        have hbudget := hfits.1 hlength
        omega

/-- The open group never began before that of another packing, so the others close
their groups no later. -/
theorem packFrom_length_le {front group list : List α} {groups : List (List α)}
    (hgroup : group ≠ []) (h : Packing cost budget (front ++ group ++ list) groups) :
    (packFrom cost budget group (total cost group) list).length ≤ groups.length := by
  induction list generalizing front group groups with
  | nil =>
    rw [packFrom, List.length_singleton]
    cases groups with
    | nil => exact absurd h.whole.symm (by simp [hgroup])
    | cons first later => exact Nat.le_add_left 1 _
  | cons a rest ih =>
    have hlonger : total cost (group ++ [a]) = total cost group + cost a := total_append group [a]
    rw [packFrom]
    split
    case isTrue hroom =>
      have hnext : Packing cost budget (front ++ (group ++ [a]) ++ rest) groups := by simpa using h
      rw [← hlonger]
      exact ih (by simp) hnext
    case isFalse hfull =>
      obtain ⟨first, later, done, rfl, hlater⟩ := h.closes hgroup (by omega)
      have hrest := ih (List.cons_ne_nil a []) hlater
      rw [List.length_cons, List.length_cons]
      exact Nat.succ_le_succ hrest

theorem pack_length_le {list : List α} {groups : List (List α)}
    (h : Packing cost budget list groups) : (pack cost budget list).length ≤ groups.length := by
  cases list with
  | nil => exact Nat.zero_le _
  | cons a rest =>
    have hfirst : Packing cost budget ([] ++ [a] ++ rest) groups := h
    exact packFrom_length_le (List.cons_ne_nil a []) hfirst

/-- The programs of a list of probes take the probes in order, none is empty, those with
two probes or more keep to the budget, and no way to cut the list so has fewer. -/
theorem programs_fewest (specs : List ProbeSpec) (budget : Nat) :
    Packing estimate budget specs (programs specs budget) ∧
      ∀ groups, Packing estimate budget specs groups →
        (programs specs budget).length ≤ groups.length :=
  ⟨pack_packing specs, fun _ h => pack_length_le h⟩

/-- A probe of so many numbers. -/
def numbers (name : String) (n : Nat) : ProbeSpec :=
  ⟨name, none, (List.range n).map fun i => .leaf ⟨none, i, []⟩ .int, .standard⟩

/-- With one probe over the budget three programs are needed: four are a packing too, and
each of the probes alone would be one more. -/
theorem programs_around_large :
    Packing estimate 120 [numbers "a" 1, numbers "b" 2, numbers "c" 20, numbers "d" 0]
        [[numbers "a" 1], [numbers "b" 2], [numbers "c" 20], [numbers "d" 0]] ∧
      (programs [numbers "a" 1, numbers "b" 2, numbers "c" 20, numbers "d" 0] 120).map
        (List.map ProbeSpec.name) = [["a", "b"], ["c"], ["d"]] ∧
      (programs [numbers "a" 1, numbers "b" 2, numbers "c" 20, numbers "d" 0] 120).length ≤ 4 := by
  have halone : Packing estimate 120
      [numbers "a" 1, numbers "b" 2, numbers "c" 20, numbers "d" 0]
      [[numbers "a" 1], [numbers "b" 2], [numbers "c" 20], [numbers "d" 0]] :=
    ⟨rfl, by simp, by simp [Fits]⟩
  exact ⟨halone, by decide, (programs_fewest _ _).2 _ halone⟩

end ProbeTrace.Plan
