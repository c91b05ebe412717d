import ProbeTrace.Program.Emit

/-!
# Planning programs

Probes are packed in order into programs whose estimated cost keeps within a
budget. A program is closed when the next probe would not fit any more; a probe
that is over the budget by itself gets a program of its own.
-/

set_option autoImplicit false

namespace ProbeTrace.Plan

def baseCost : Nat := 48
def scalarCost : Nat := 8
def textCost : Nat := 16
def structCost : Nat := 12
def longTextCost : Nat := 40
def chunkStepCost : Nat := 16

/-- The budget of one program unless another is asked for. -/
def defaultBudget : Nat := 4096

def leafCost : Leaf → Nat
  | .text _ => textCost
  | _ => scalarCost

mutual
def argCost : Arg → Nat
  | .leaf _ kind => leafCost kind
  | .struct _ members => structCost + argsCost members

def argsCost : List Arg → Nat
  | [] => 0
  | arg :: rest => argCost arg + argsCost rest
end

/-- A rough count of the instructions that a probe takes. -/
def estimate (spec : ProbeSpec) : Nat :=
  baseCost + argsCost spec.args +
    (if spec.longText?.isSome then
      longTextCost + chunkStepCost * spec.tuning.chunkCount.toNat
    else 0)

/-- Adds probes to an open group, which is not empty, for as long as they fit. -/
def packFrom {α : Type} (cost : α → Nat) (budget : Nat) :
    List α → Nat → List α → List (List α)
  | group, _, [] => [group]
  | group, total, a :: rest =>
    if total + cost a ≤ budget then packFrom cost budget (group ++ [a]) (total + cost a) rest
    else group :: packFrom cost budget [a] (cost a) rest

/-- Packs a list into consecutive groups, each as long as the budget allows. -/
def pack {α : Type} (cost : α → Nat) (budget : Nat) : List α → List (List α)
  | [] => []
  | a :: rest => packFrom cost budget [a] (cost a) rest

def programs (specs : List ProbeSpec) (budget : Nat) : List (List ProbeSpec) :=
  pack estimate budget specs

theorem packFrom_flatten {α : Type} (cost : α → Nat) (budget : Nat) (group : List α) (total : Nat)
    (list : List α) : (packFrom cost budget group total list).flatten = group ++ list := by
  induction list generalizing group total with
  | nil => simp [packFrom]
  | cons a rest ih =>
    simp only [packFrom]
    split <;> simp [ih]

theorem pack_flatten {α : Type} (cost : α → Nat) (budget : Nat) (list : List α) :
    (pack cost budget list).flatten = list := by
  cases list with
  | nil => rfl
  | cons a rest => simp [pack, packFrom_flatten]

theorem packFrom_ne_nil {α : Type} (cost : α → Nat) (budget : Nat) (group : List α) (total : Nat)
    (list : List α) (h : group ≠ []) : ∀ g ∈ packFrom cost budget group total list, g ≠ [] := by
  induction list generalizing group total with
  | nil => simpa [packFrom] using h
  | cons a rest ih =>
    simp only [packFrom]
    split
    · exact ih _ _ (by simp)
    · intro g hg
      rcases List.mem_cons.1 hg with hg | hg
      · exact hg ▸ h
      · exact ih _ _ (by simp) g hg

theorem pack_ne_nil {α : Type} (cost : α → Nat) (budget : Nat) (list : List α) :
    ∀ g ∈ pack cost budget list, g ≠ [] := by
  cases list with
  | nil => simp [pack]
  | cons a rest => exact packFrom_ne_nil cost budget [a] (cost a) rest (by simp)

end ProbeTrace.Plan
