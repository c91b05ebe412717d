import ProbeTrace.Proofs.Span.Conservation
import ProbeTrace.Proofs.Span.WellFormed
import ProbeTrace.Proofs.Stats.Families

/-!
# Completed spans and counted pairs

A reconstruction pairs an end with the innermost span, if root and counter agree; a
start/stop timer pairs it with the last start of its root, whatever lies between. Both
go through the same hits, and the timer is never behind: each span that was closed has
been counted, and each that is open is a start the timer has seen.
-/

set_option autoImplicit false

namespace ProbeTrace

open Delimiter

/-! ## Spans and leaves of a forest -/

namespace Node

mutual
/-- The spans at and below a node, with the ways in which they ended. -/
def spans : Node → List (Opening × Ending)
  | .leaf _ => []
  | .span opening ending children => (opening, ending) :: spansAll children

def spansAll : List Node → List (Opening × Ending)
  | [] => []
  | node :: rest => spans node ++ spansAll rest
end

mutual
/-- The hits at and below a node that delimit no span. -/
def leaves : Node → List Hit
  | .leaf hit => [hit]
  | .span _ _ children => leavesAll children

def leavesAll : List Node → List Hit
  | [] => []
  | node :: rest => leaves node ++ leavesAll rest
end

theorem spansAll_append (a b : List Node) : spansAll (a ++ b) = spansAll a ++ spansAll b := by
  induction a with
  | nil => rfl
  | cons node rest ih => simp [spansAll, ih]

end Node

namespace Bundle

def spans : Bundle → List (Opening × Ending)
  | .loose _ => []
  | .span opening ending children => (Node.span opening ending children).spans

def leaves : Bundle → List Hit
  | .loose hits => hits
  | .span opening ending children => (Node.span opening ending children).leaves

end Bundle

/-- How many of some spans have a root and were closed. -/
def completed (root : String) (spans : List (Opening × Ending)) : Nat :=
  spans.countP fun span => span.1.root = root ∧ span.2.name = "Closed"

theorem completed_append (root : String) (a b : List (Opening × Ending)) :
    completed root (a ++ b) = completed root a + completed root b :=
  List.countP_append

/-- How many of some hits end a root by their name, whether they close a span or not. -/
def endCount (root : String) (hits : List Hit) : Nat :=
  hits.countP fun hit => hit.probe = root ++ endSuffix

theorem endCount_append (root : String) (a b : List Hit) :
    endCount root (a ++ b) = endCount root a + endCount root b :=
  List.countP_append

theorem endCount_cons (root : String) (hit : Hit) (rest : List Hit) :
    endCount root (hit :: rest) =
      endCount root rest + if hit.probe = root ++ endSuffix then 1 else 0 := by
  simp [endCount, List.countP_cons]

/-! ## Starts and ends at a timer -/

namespace StartStopTimer

/-- The starts that a timer has seen: those that have an end and those that wait for one. -/
def starts (timer : StartStopTimer) : Nat :=
  timer.timer.count + timer.pending.length

variable {timer : StartStopTimer} {hit : Hit}

theorem tick_start (h : hit.probe = timer.root ++ startSuffix) :
    timer.tick hit = ⟨timer.root, hit.ns :: timer.pending, timer.timer⟩ := by
  rw [tick, if_pos h]

theorem tick_end (h : hit.probe = timer.root ++ endSuffix) :
    timer.tick hit = match timer.pending with
      | [] => timer
      | start :: rest => ⟨timer.root, rest, timer.timer.tick start hit.ns⟩ := by
  have hstart : hit.probe ≠ timer.root ++ startSuffix := by
    rw [h]
    exact append_endSuffix_ne timer.root timer.root
  rw [tick, if_neg hstart]
  exact if_pos h

theorem tick_starts (timer : StartStopTimer) (hit : Hit) :
    (timer.tick hit).starts =
      timer.starts + if hit.probe = timer.root ++ startSuffix then 1 else 0 := by
  by_cases hstart : hit.probe = timer.root ++ startSuffix
  · rw [tick_start hstart, if_pos hstart]
    rfl
  · rw [if_neg hstart]
    by_cases hend : hit.probe = timer.root ++ endSuffix
    · rw [tick_end hend]
      cases hpending : timer.pending with
      | nil => rfl
      | cons start rest =>
        simp only [starts, IntervalTimer.tick, hpending, List.length_cons]
        omega
    · rw [tick_other hstart hend, Nat.add_zero]

/-- An end is counted if some start has none yet. -/
theorem tick_count (timer : StartStopTimer) (hit : Hit) :
    (timer.tick hit).timer.count = timer.timer.count +
      if hit.probe = timer.root ++ endSuffix ∧ timer.timer.count < timer.starts then 1 else 0 := by
  by_cases hend : hit.probe = timer.root ++ endSuffix
  · rw [tick_end hend]
    cases hpending : timer.pending <;> simp [hend, starts, hpending, IntervalTimer.tick]
  · rw [if_neg (not_and_of_not_left _ hend)]
    by_cases hstart : hit.probe = timer.root ++ startSuffix
    · rw [tick_start hstart, Nat.add_zero]
    · rw [tick_other hstart hend, Nat.add_zero]

/-- No more pairs are counted than there were ends. -/
theorem foldl_tick_count (timer : StartStopTimer) (hits : List Hit) :
    (hits.foldl tick timer).timer.count ≤ timer.timer.count + endCount timer.root hits := by
  induction hits generalizing timer with
  | nil => exact Nat.le_refl _
  | cons hit rest ih =>
    have hrest := ih (timer.tick hit)
    rw [tick_root, tick_count] at hrest
    rw [List.foldl_cons, endCount_cons]
    by_cases hend : hit.probe = timer.root ++ endSuffix
    · simp only [hend, true_and, if_true] at hrest ⊢
      split at hrest <;> omega
    · simp only [hend, false_and, if_false] at hrest ⊢
      exact hrest

end StartStopTimer

/-! ## The timer is never behind -/

namespace Reconstruction

/-- The spans that have ended, inside of open ones too. -/
def spans (state : Reconstruction) : List (Opening × Ending) :=
  state.forest.flatMap Bundle.spans ++
    state.stack.flatMap fun span => Node.spansAll span.children

/-- How many of the open spans have a root. -/
def openCount (root : String) (state : Reconstruction) : Nat :=
  (state.stack.map OpenSpan.opening).countP fun opening => opening.root = root

variable {root : String} {state : Reconstruction}

theorem addLoose_spans (hit : Hit) (forest : List Bundle) :
    (addLoose hit forest).flatMap Bundle.spans = forest.flatMap Bundle.spans := by
  fun_induction addLoose hit forest with
  | case1 => rfl
  | case2 hits => rfl
  | case3 bundle rest _ ih => simp [ih]

theorem addLeaf_spans (hit : Hit) (state : Reconstruction) :
    (addLeaf hit state).spans = state.spans := by
  obtain ⟨stack, forest⟩ := state
  cases stack with
  | nil => simp [addLeaf, spans, addLoose_spans]
  | cons top rest => simp [addLeaf, spans, Node.spansAll_append, Node.spansAll, Node.spans]

theorem addLeaf_openCount (hit : Hit) (state : Reconstruction) :
    (addLeaf hit state).openCount root = state.openCount root := by
  obtain ⟨stack, forest⟩ := state
  cases stack <;> rfl

theorem bundle_spans (node : Node) : node.bundle.spans = node.spans := by
  cases node <;> rfl

theorem attach_completed (root : String) (node : Node) (state : Reconstruction) :
    completed root (attach node state).spans =
      completed root state.spans + completed root node.spans := by
  obtain ⟨stack, forest⟩ := state
  cases stack with
  | nil => simp [attach, spans, bundle_spans, completed_append]
  | cons top rest =>
    simp [attach, spans, Node.spansAll_append, Node.spansAll, completed_append]
    omega

/-- A span that ends is completed if it was closed and has the root. -/
theorem pop_completed (root : String) (ending : Ending) (span : OpenSpan)
    (outer : List OpenSpan) (forest : List Bundle) :
    completed root (pop ending ⟨span :: outer, forest⟩).spans =
      completed root (spans ⟨span :: outer, forest⟩) +
        if span.opening.root = root ∧ ending.name = "Closed" then 1 else 0 := by
  rw [pop_cons, attach_completed, Node.spans]
  simp [spans, completed, List.countP_cons]
  omega

theorem popMany_completed (root : String) {ending : Ending} (h : ending.name ≠ "Closed") (n : Nat)
    (state : Reconstruction) :
    completed root (popMany ending n state).spans = completed root state.spans := by
  apply popMany_keeps (P := fun after => completed root after.spans = completed root state.spans)
    _ n state rfl
  intro after hafter
  obtain ⟨stack, forest⟩ := after
  cases stack with
  | nil => exact hafter
  | cons span outer => simp [pop_completed, h, hafter]

theorem expire_completed (root : String) (options : SpanOptions) (now : Nat)
    (state : Reconstruction) :
    completed root (expire options now state).spans = completed root state.spans :=
  popMany_completed root (by decide) _ state

/-- What is still open at the end adds nothing. -/
theorem finish_completed (root : String) (state : Reconstruction) :
    completed root (state.finish.flatMap Bundle.spans) = completed root state.spans := by
  have hunclosed : Ending.unclosed.name ≠ "Closed" := by decide
  have hkept := popMany_completed root hunclosed state.stack.length state
  rw [← hkept, spans, popMany_all]
  simp [finish]

theorem popMany_openCount (root : String) (ending : Ending) (n : Nat) (state : Reconstruction) :
    (popMany ending n state).openCount root ≤ state.openCount root := by
  rw [openCount, popMany_openings]
  exact (List.drop_sublist ..).countP_le

/-- A timer of a root is not behind: it has counted every span that was closed, and seen the
start of every one that is open. -/
structure Covered (root : String) (state : Reconstruction) (timer : StartStopTimer) : Prop where
  root_eq : timer.root = root
  counted : completed root state.spans ≤ timer.timer.count
  started : completed root state.spans + state.openCount root ≤ timer.starts

theorem covered_empty (root : String) : Covered root empty (.new root) where
  root_eq := rfl
  counted := Nat.le_refl 0
  started := Nat.le_refl 0

variable {timer : StartStopTimer}

theorem Covered.expire (h : Covered root state timer) (options : SpanOptions) (now : Nat) :
    Covered root (expire options now state) timer where
  root_eq := h.root_eq
  counted := by
    rw [expire_completed]
    exact h.counted
  started := by
    have hopen : (Reconstruction.expire options now state).openCount root ≤ state.openCount root :=
      popMany_openCount ..
    have hstarted := h.started
    rw [expire_completed]
    omega

/-- A start of the root opens a span and is seen by the timer; one of another root is neither. -/
theorem Covered.start (h : Covered root state timer) (options : SpanOptions) {hit : Hit}
    {opening : String} (hprobe : hit.probe = opening ++ startSuffix) :
    Covered root ⟨opened options opening hit :: state.stack, state.forest⟩ (timer.tick hit) := by
  obtain ⟨rfl, hclosed, hstarted⟩ := h
  have hcount := timer.tick_count hit
  have hstarts := timer.tick_starts hit
  have hspans : (⟨Reconstruction.opened options opening hit :: state.stack, state.forest⟩ :
      Reconstruction).spans = state.spans := by
    simp [spans, Reconstruction.opened, Node.spansAll]
  have hopen : (⟨Reconstruction.opened options opening hit :: state.stack, state.forest⟩ :
      Reconstruction).openCount timer.root =
        state.openCount timer.root + if opening = timer.root then 1 else 0 := by
    simp [openCount, Reconstruction.opened, List.countP_cons]
  refine ⟨timer.tick_root hit, ?_, ?_⟩
  · rw [hspans]
    omega
  · rw [hspans, hopen, hstarts, hprobe]
    by_cases hroot : opening = timer.root <;> simp [hroot] <;> omega

/-- A span that is closed is counted. While a span of the root is open some start has no end
yet, unless more pairs were counted than spans closed. -/
theorem Covered.close {top : OpenSpan} {rest : List OpenSpan} {forest : List Bundle} {hit : Hit}
    (h : Covered root ⟨top :: rest, forest⟩ timer)
    (hprobe : hit.probe = top.opening.root ++ endSuffix) :
    Covered root (pop (.closed hit) ⟨top :: rest, forest⟩) (timer.tick hit) := by
  obtain ⟨rfl, hclosed, hstarted⟩ := h
  have hcount := timer.tick_count hit
  have hstarts := timer.tick_starts hit
  have hspans := pop_completed timer.root (.closed hit) top rest forest
  have hopen : (⟨top :: rest, forest⟩ : Reconstruction).openCount timer.root =
      (pop (.closed hit) ⟨top :: rest, forest⟩).openCount timer.root +
        if top.opening.root = timer.root then 1 else 0 := by
    simp [openCount, pop_openings, List.countP_cons]
  by_cases hroot : top.opening.root = timer.root
  · simp only [hroot, Ending.name, and_self, if_true] at hspans hopen
    rw [hroot] at hprobe
    simp only [hprobe, true_and] at hcount
    refine ⟨timer.tick_root hit, ?_, ?_⟩
    · rw [hspans, hcount]
      split <;> omega
    · omega
  · simp only [hroot, false_and, if_false] at hspans hopen
    refine ⟨timer.tick_root hit, ?_, ?_⟩
    · omega
    · omega

theorem Covered.addLeaf (h : Covered root state timer) (hit : Hit) :
    Covered root (addLeaf hit state) (timer.tick hit) := by
  obtain ⟨rfl, hclosed, hstarted⟩ := h
  have hcount := timer.tick_count hit
  have hstarts := timer.tick_starts hit
  refine ⟨timer.tick_root hit, ?_, ?_⟩
  · rw [addLeaf_spans]
    omega
  · rw [addLeaf_spans, addLeaf_openCount]
    omega

theorem Covered.push (h : Covered root state timer) (options : SpanOptions) (hit : Hit) :
    Covered root (push options state hit) (timer.tick hit) := by
  have hexpired := h.expire options hit.ns
  rw [Reconstruction.push]
  rcases take_cases options hit (Reconstruction.expire options hit.ns state) with
    ⟨opening, hopening, htake⟩ | ⟨-, top, rest, hstack, hending, -, htake⟩ | ⟨-, -, htake⟩
  · rw [htake]
    exact hexpired.start options ((stem?_eq_some_iff ..).1 hopening)
  · rw [htake]
    generalize Reconstruction.expire options hit.ns state = after at hexpired hstack
    obtain ⟨stack, forest⟩ := after
    obtain rfl : stack = top :: rest := hstack
    exact hexpired.close ((stem?_eq_some_iff ..).1 hending)
  · rw [htake]
    exact hexpired.addLeaf hit

theorem run_covered (options : SpanOptions) (root : String) (hits : List Hit) :
    Covered root (run options hits) (hits.foldl StartStopTimer.tick (.new root)) := by
  apply run_induction (P := fun hits state =>
    Covered root state (hits.foldl StartStopTimer.tick (.new root))) (covered_empty root)
  intro hits state hit h
  rw [List.foldl_append]
  exact h.push options hit

end Reconstruction

/-! ## Every end is in one place -/

variable {options : SpanOptions}

/-- An end closes a span or is a leaf. -/
theorem SpanSound.endCount_flatten {opening : Opening} {ending : Ending} {children : List Node}
    (h : SpanSound options opening ending children) (root : String) :
    endCount root (Node.span opening ending children).flatten =
      endCount root (Node.flattenAll children) + completed root [(opening, ending)] := by
  have hstart : opening.start.probe ≠ root ++ endSuffix := by
    rw [h.starts.probe]
    exact (append_endSuffix_ne root opening.root).symm
  rw [Node.flatten, List.cons_append, endCount_cons, if_neg hstart, endCount_append]
  cases ending with
  | closed last =>
    have hlast := (h.ends last rfl).probe
    simp [Ending.hit?, endCount, completed, hlast, Ending.name]
  | unclosed => simp [Ending.hit?, endCount, completed, Ending.name]
  | expired => simp [Ending.hit?, endCount, completed, Ending.name]

namespace Node

mutual
theorem endCount_flatten (root : String) : (node : Node) → node.WellFormed options →
    endCount root node.flatten = completed root node.spans + endCount root node.leaves
  | .leaf hit, _ => (Nat.zero_add _).symm
  | .span opening ending children, h => by
    have hspans : completed root (spans (.span opening ending children)) =
        completed root [(opening, ending)] + completed root (spansAll children) :=
      completed_append root [(opening, ending)] (spansAll children)
    rw [h.1.endCount_flatten, endCount_flattenAll root children h.2, hspans, leaves]
    omega

theorem endCount_flattenAll (root : String) : (nodes : List Node) → AllWellFormed options nodes →
    endCount root (flattenAll nodes) =
      completed root (spansAll nodes) + endCount root (leavesAll nodes)
  | [], _ => rfl
  | node :: rest, h => by
    rw [flattenAll, spansAll, leavesAll, endCount_append, endCount_append, completed_append,
      endCount_flatten root node h.1, endCount_flattenAll root rest h.2]
    omega
end

end Node

theorem Bundle.endCount_flatten (root : String) {bundle : Bundle}
    (h : bundle.WellFormed options) :
    endCount root bundle.flatten = completed root bundle.spans + endCount root bundle.leaves := by
  cases bundle with
  | loose hits => exact (Nat.zero_add _).symm
  | span opening ending children => exact Node.endCount_flatten root _ h

/-- The ends among the hits of a forest are those of the closed spans and the leaves. -/
theorem endCount_forest (root : String) {forest : List Bundle}
    (h : ∀ bundle ∈ forest, bundle.WellFormed options) :
    endCount root (forest.flatMap Bundle.flatten) =
      completed root (forest.flatMap Bundle.spans) +
        endCount root (forest.flatMap Bundle.leaves) := by
  induction forest with
  | nil => rfl
  | cons bundle rest ih =>
    rw [List.forall_mem_cons] at h
    simp only [List.flatMap_cons, endCount_append, completed_append, ih h.2,
      Bundle.endCount_flatten root h.1]
    omega

open Reconstruction in
/-- A forest never shows more completed spans of a root, at any depth, than the start/stop
timer of the same hits has counted pairs; and just as many if no end of the root is left as a
leaf. -/
theorem completed_le_ticks (hits : List Hit) (options : SpanOptions) (root : String)
    (tid : Nat) (order : ThreadOrder) :
    let forest := reconstruct hits options
    let ticks := ((Stats.empty.absorb tid hits).startStop? root order).elim 0 IntervalTimer.count
    completed root (forest.flatMap Bundle.spans) ≤ ticks ∧
      ((∀ leaf ∈ forest.flatMap Bundle.leaves, leaf.probe ≠ root ++ "_end") →
        completed root (forest.flatMap Bundle.spans) = ticks) := by
  intro forest ticks
  have hticks : ticks = (hits.foldl StartStopTimer.tick (.new root)).timer.count :=
    Stats.startStop?_absorb_count tid hits root order
  have hle : completed root (forest.flatMap Bundle.spans) ≤ ticks := by
    rw [hticks]
    exact (finish_completed root (run options hits)).trans_le
      (run_covered options root hits).counted
  refine ⟨hle, ?_⟩
  intro hleaves
  apply Nat.le_antisymm hle
  have hwell : ∀ bundle ∈ forest, bundle.WellFormed options :=
    (finish_wellFormed (run_invariant options hits)).1.bundles
  have hflat : forest.flatMap Bundle.flatten = hits :=
    (finish_flatten _).trans (run_flatten options hits)
  have hnone : endCount root (forest.flatMap Bundle.leaves) = 0 := by
    rw [endCount, List.countP_eq_zero]
    intro leaf hleaf
    exact ne_true_of_eq_false (decide_eq_false (hleaves leaf hleaf))
  calc ticks = (hits.foldl StartStopTimer.tick (.new root)).timer.count := hticks
    _ ≤ 0 + endCount root hits := StartStopTimer.foldl_tick_count (.new root) hits
    _ = endCount root (forest.flatMap Bundle.flatten) := by rw [hflat, Nat.zero_add]
    _ = completed root (forest.flatMap Bundle.spans) := by
        rw [endCount_forest root hwell, hnone, Nat.add_zero]

/-- The end of the outer span comes while the inner one is open: it is a leaf of the forest and
a pair to the timer. -/
def crossed : List Hit :=
  [countedHit "a_start" 0 (some 1), countedHit "b_start" 1 none, countedHit "a_end" 2 (some 1),
    countedHit "b_end" 3 none, countedHit "a_end" 4 (some 1)]

theorem completed_crossed :
    let forest := reconstruct crossed .standard
    (∀ leaf ∈ forest.flatMap Bundle.leaves, leaf.probe ≠ "b" ++ "_end") ∧
      completed "b" (forest.flatMap Bundle.spans) = 1 ∧
      ((Stats.empty.absorb 1 crossed).startStop? "b").elim 0 IntervalTimer.count = 1 ∧
      completed "a" (forest.flatMap Bundle.spans) ≤
        ((Stats.empty.absorb 1 crossed).startStop? "a").elim 0 IntervalTimer.count := by
  intro forest
  have hleaves : ∀ leaf ∈ forest.flatMap Bundle.leaves, leaf.probe ≠ "b" ++ "_end" := by decide
  have hcount : completed "b" (forest.flatMap Bundle.spans) = 1 := by decide
  have hequal := (completed_le_ticks crossed .standard "b" 1 .ascending).2 hleaves
  have hle := (completed_le_ticks crossed .standard "a" 1 .ascending).1
  exact ⟨hleaves, hcount, hequal.symm.trans hcount, hle⟩

end ProbeTrace
