import Mathlib.Algebra.Ring.Nat
import ProbeTrace.Proofs.Span.Moves

/-!
# Conservation of hits

The forest and the open spans, read from the outside in, hold exactly the hits
taken in so far, in order. Opening, closing, expiring and collecting loose hits
only draw the boundaries anew.
-/

set_option autoImplicit false

namespace ProbeTrace

/-- The hits of a span that is still open: its start and what came after it. -/
def OpenSpan.flatten (span : OpenSpan) : List Hit :=
  span.opening.start :: Node.flattenAll span.children

namespace Reconstruction

/-- The hits below the open spans, the outermost span first. -/
def flattenStack : List OpenSpan → List Hit
  | [] => []
  | span :: outer => flattenStack outer ++ span.flatten

/-- All hits a state holds, in the order in which a report would show them. -/
def flatten (state : Reconstruction) : List Hit :=
  state.forest.flatMap Bundle.flatten ++ flattenStack state.stack

theorem addLoose_flatten (hit : Hit) (forest : List Bundle) :
    (addLoose hit forest).flatMap Bundle.flatten = forest.flatMap Bundle.flatten ++ [hit] := by
  fun_induction addLoose hit forest with
  | case1 => rfl
  | case2 hits => simp [Bundle.flatten]
  | case3 bundle rest _ ih => simp [ih]

theorem addLeaf_flatten (hit : Hit) (state : Reconstruction) :
    (addLeaf hit state).flatten = state.flatten ++ [hit] := by
  obtain ⟨stack, forest⟩ := state
  cases stack with
  | nil => simp [addLeaf, flatten, flattenStack, addLoose_flatten]
  | cons top rest =>
    simp [addLeaf, flatten, flattenStack, OpenSpan.flatten, Node.flattenAll_append,
      Node.flattenAll, Node.flatten]

/-- Ending a span adds the hit that ends it, if there is one, and moves nothing. -/
theorem pop_flatten (ending : Ending) (state : Reconstruction) (h : state.stack ≠ []) :
    (pop ending state).flatten = state.flatten ++ ending.hit?.toList := by
  obtain ⟨stack, forest⟩ := state
  cases stack with
  | nil => exact absurd rfl h
  | cons span outer =>
    cases outer with
    | nil => simp [pop, flatten, flattenStack, OpenSpan.flatten, Bundle.flatten, Node.flatten]
    | cons parent rest =>
      simp [pop, flatten, flattenStack, OpenSpan.flatten, Node.flattenAll_append,
        Node.flattenAll, Node.flatten]

theorem pop_flatten_silent (ending : Ending) (silent : ending.hit? = none)
    (state : Reconstruction) : (pop ending state).flatten = state.flatten := by
  by_cases h : state.stack = []
  · obtain ⟨stack, forest⟩ := state
    subst h
    rfl
  · rw [pop_flatten ending state h, silent]
    simp

theorem popMany_flatten (ending : Ending) (silent : ending.hit? = none) (n : Nat)
    (state : Reconstruction) : (popMany ending n state).flatten = state.flatten :=
  popMany_keeps (P := fun s => s.flatten = state.flatten)
    (fun s hs => (pop_flatten_silent ending silent s).trans hs) n state rfl

theorem expire_flatten (options : SpanOptions) (now : Nat) (state : Reconstruction) :
    (expire options now state).flatten = state.flatten :=
  popMany_flatten .expired rfl _ state

theorem take_flatten (options : SpanOptions) (hit : Hit) (state : Reconstruction) :
    (take options hit state).flatten = state.flatten ++ [hit] := by
  rcases take_cases options hit state with ⟨root, -, h⟩ | ⟨-, top, rest, hstack, -, -, h⟩ | ⟨-, -, h⟩
  · simp [h, flatten, flattenStack, OpenSpan.flatten, opened, Node.flattenAll]
  · rw [h, pop_flatten (.closed hit) state (by simp [hstack])]
    rfl
  · rw [h, addLeaf_flatten]

theorem push_flatten (options : SpanOptions) (state : Reconstruction) (hit : Hit) :
    (push options state hit).flatten = state.flatten ++ [hit] := by
  rw [push, take_flatten, expire_flatten]

theorem run_flatten (options : SpanOptions) (hits : List Hit) :
    (run options hits).flatten = hits :=
  run_induction (P := fun hits state => state.flatten = hits) rfl
    (fun hits state hit h => by rw [push_flatten, h]) hits

theorem finish_flatten (state : Reconstruction) :
    state.finish.flatMap Bundle.flatten = state.flatten := by
  have h := popMany_flatten .unclosed rfl state.stack.length state
  rw [← h, flatten, popMany_all]
  simp [flattenStack, finish]

end Reconstruction

/-- Reading a forest back gives the hits it was made of, none lost, none twice and
none moved; so its bundles count as many hits as there were. -/
theorem reconstruct_conserves (hits : List Hit) (options : SpanOptions) :
    (reconstruct hits options).flatMap Bundle.flatten = hits ∧
      ((reconstruct hits options).map Bundle.hitCount).sum = hits.length := by
  have hflat : (reconstruct hits options).flatMap Bundle.flatten = hits :=
    (Reconstruction.finish_flatten _).trans (Reconstruction.run_flatten options hits)
  refine ⟨hflat, ?_⟩
  calc ((reconstruct hits options).map Bundle.hitCount).sum
      = ((reconstruct hits options).map fun bundle => bundle.flatten.length).sum := by
        rw [List.map_congr_left fun bundle _ => bundle.hitCount_eq]
    _ = ((reconstruct hits options).flatMap Bundle.flatten).length := by
        rw [List.length_flatMap]
    _ = hits.length := by rw [hflat]

end ProbeTrace
