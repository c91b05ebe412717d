import Mathlib.Data.List.Induction
import ProbeTrace.Span.Reconstruct

/-!
# Moves of a reconstruction

A hit first ends the spans that are too old and then does one of three things:
it opens a span, closes the innermost one, or becomes a leaf. Whatever holds at
the start and survives these moves holds after every sequence of hits.
-/

set_option autoImplicit false

namespace ProbeTrace

/-- A hit of a probe at a time, with a counter or without. -/
def countedHit (probe : String) (ns : Nat) : Option Int64 → Hit
  | some count => ⟨probe, 1, 1, "c", ns, 0, 32, [("count", .int count)]⟩
  | none => ⟨probe, 1, 1, "c", ns, 0, 32, []⟩

namespace Reconstruction

/-- The span that a hit opens. -/
def opened (options : SpanOptions) (root : String) (hit : Hit) : OpenSpan :=
  ⟨⟨root, hit.argInt64? options.counterArg, hit⟩, []⟩

/-- The whole effect of a hit once the stale spans are gone. -/
theorem take_cases (options : SpanOptions) (hit : Hit) (state : Reconstruction) :
    (∃ root, Delimiter.startRoot? hit.probe = some root ∧
      take options hit state = ⟨opened options root hit :: state.stack, state.forest⟩) ∨
    (Delimiter.startRoot? hit.probe = none ∧
      ∃ top rest, state.stack = top :: rest ∧
        Delimiter.endRoot? hit.probe = some top.opening.root ∧
        top.opening.counter = hit.argInt64? options.counterArg ∧
        take options hit state = pop (.closed hit) state) ∨
    (Delimiter.startRoot? hit.probe = none ∧
      (∀ top rest, state.stack = top :: rest →
        Delimiter.endRoot? hit.probe = some top.opening.root →
        top.opening.counter ≠ hit.argInt64? options.counterArg) ∧
      take options hit state = addLeaf hit state) := by
  cases hstart : Delimiter.startRoot? hit.probe with
  | some root => exact .inl ⟨root, rfl, by simp [take, hstart, opened]⟩
  | none =>
    cases hend : Delimiter.endRoot? hit.probe with
    | none => exact .inr (.inr ⟨rfl, by simp, by simp [take, hstart, hend]⟩)
    | some root =>
      by_cases hcloses : closes root (hit.argInt64? options.counterArg) state
      · obtain ⟨top, hhead, hroot, hcounter⟩ :
            ∃ top, state.stack.head? = some top ∧ top.opening.root = root ∧
              top.opening.counter = hit.argInt64? options.counterArg := by
          simpa [closes, Option.any_eq_true] using hcloses
        obtain ⟨rest, hstack⟩ := List.head?_eq_some_iff.1 hhead
        exact .inr (.inl ⟨rfl, top, rest, hstack, by rw [hroot], hcounter,
          by simp [take, hstart, hend, hcloses]⟩)
      · refine .inr (.inr ⟨rfl, ?_, by simp [take, hstart, hend, hcloses]⟩)
        intro top rest hstack hroot hcounter
        apply hcloses
        simp [closes, hstack, hcounter, (Option.some.inj hroot).symm]

@[simp]
theorem pop_stack (ending : Ending) (state : Reconstruction) :
    (pop ending state).stack.length = state.stack.length - 1 := by
  obtain ⟨stack, forest⟩ := state
  cases stack with
  | nil => rfl
  | cons span rest => cases rest <;> rfl

theorem popMany_stack (ending : Ending) (n : Nat) (state : Reconstruction) :
    (popMany ending n state).stack.length = state.stack.length - n := by
  induction n generalizing state with
  | zero => rfl
  | succ n ih =>
    rw [popMany, ih, pop_stack]
    omega

theorem popMany_all (ending : Ending) (state : Reconstruction) :
    (popMany ending state.stack.length state).stack = [] := by
  rw [← List.length_eq_zero_iff, popMany_stack, Nat.sub_self]

/-- What every pop keeps is kept by any number of them. -/
theorem popMany_keeps {P : Reconstruction → Prop} {ending : Ending}
    (step : ∀ state, P state → P (pop ending state)) (n : Nat) (state : Reconstruction)
    (h : P state) : P (popMany ending n state) := by
  induction n generalizing state with
  | zero => exact h
  | succ n ih => exact ih _ (step state h)

def run (options : SpanOptions) (hits : List Hit) : Reconstruction :=
  hits.foldl (push options) empty

theorem run_append_singleton (options : SpanOptions) (hits : List Hit) (hit : Hit) :
    run options (hits ++ [hit]) = push options (run options hits) hit := by
  simp [run]

/-- What holds at the start and is kept by every hit holds after all hits. -/
theorem run_induction {options : SpanOptions} {P : List Hit → Reconstruction → Prop}
    (start : P [] empty)
    (step : ∀ hits state hit, P hits state → P (hits ++ [hit]) (push options state hit))
    (hits : List Hit) : P hits (run options hits) := by
  induction hits using List.reverseRecOn with
  | nil => exact start
  | append_singleton hits hit ih =>
    rw [run_append_singleton]
    exact step hits _ hit ih

end Reconstruction
end ProbeTrace
