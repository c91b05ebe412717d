import ProbeTrace.Proofs.Span.Conservation
import ProbeTrace.Proofs.Span.Nesting

/-!
# Depth

The depth of a span is read off the finished tree. While hits are taken in there is only
the number of open spans, and the children that each of them has so far. Together they
tell the deepest level that was reached below the outermost open span, and this never
changes but when one more span is opened on top of all others.
-/

set_option autoImplicit false

namespace ProbeTrace

theorem Node.depthAll_append (a b : List Node) :
    depthAll (a ++ b) = max (depthAll a) (depthAll b) := by
  induction a with
  | nil => simp [depthAll]
  | cons node rest ih => simp [depthAll, ih, Nat.max_assoc]

namespace Reconstruction

theorem phase_depth (state : Reconstruction) : state.phase.depth = state.stack.length := by
  rw [phase]
  split
  case h_1 h => exact h.symm
  case h_2 => rfl

/-- How many spans are open after each of some hits, up to the first hit that finds no span
open any more. -/
def reported (options : SpanOptions) : Reconstruction → List Hit → List Nat
  | _, [] => []
  | state, hit :: rest =>
    if (expire options hit.ns state).stack = [] then []
    else (push options state hit).phase.depth :: reported options (push options state hit) rest

/-- The deepest level that open spans have reached, with what is complete inside them. -/
def reach : List OpenSpan → Nat
  | [] => 0
  | span :: outer => max (reach outer) (outer.length + 1 + Node.depthAll span.children)

theorem length_le_reach (stack : List OpenSpan) : stack.length ≤ reach stack := by
  cases stack with
  | nil => exact Nat.le_refl 0
  | cons span outer =>
    rw [reach, List.length_cons]
    omega

/-! ## The span behind a forest -/

/-- Behind a forest comes a span of a depth: it is open still, or complete. -/
inductive Follows (front : List Bundle) (depth : Nat) : Reconstruction → Prop
  | going (span : OpenSpan) (outer : List OpenSpan) (reached : reach (span :: outer) = depth) :
    Follows front depth ⟨span :: outer, front⟩
  | complete (opening : Opening) (ending : Ending) (children : List Node)
    (reached : (Bundle.span opening ending children).depth = depth) :
    Follows front depth ⟨[], front ++ [.span opening ending children]⟩

variable {options : SpanOptions} {front : List Bundle} {depth : Nat} {state : Reconstruction}

theorem Follows.pop (h : Follows front depth state) (ending : Ending) :
    Follows front depth (pop ending state) := by
  cases h with
  | complete opening ending children reached => exact .complete opening ending children reached
  | going span outer reached =>
    cases outer with
    | nil =>
      apply Follows.complete
      rw [← reached, reach, reach, Bundle.depth, Node.depth]
      simp
    | cons parent rest =>
      apply Follows.going
      rw [← reached]
      simp only [reach, Node.depthAll_append, Node.depthAll, Node.depth, List.length_cons]
      omega

theorem Follows.popMany (h : Follows front depth state) (ending : Ending) (n : Nat) :
    Follows front depth (popMany ending n state) :=
  popMany_keeps (fun _ h => h.pop ending) n state h

/-- A hit takes the span to the number of open spans after it, if none was as deep before. -/
theorem Follows.take (options : SpanOptions) (h : Follows front depth state)
    (hopen : state.stack ≠ []) (hit : Hit) :
    Follows front (max depth (take options hit state).stack.length) (take options hit state) := by
  cases h with
  | complete opening ending children reached => exact absurd rfl hopen
  | going span outer reached =>
    have hlength := length_le_reach (span :: outer)
    rw [reached, List.length_cons] at hlength
    rcases take_cases options hit ⟨span :: outer, front⟩ with
      ⟨root, -, htake⟩ | ⟨-, top, rest, -, -, -, htake⟩ | ⟨-, -, htake⟩
    · rw [htake]
      apply Follows.going
      rw [reach, reached]
      simp [opened, Node.depthAll]
    · rw [htake, pop_stack]
      have hmax : max depth ((span :: outer).length - 1) = depth := by
        rw [List.length_cons]
        omega
      rw [hmax]
      exact (Follows.going span outer reached).pop _
    · rw [htake]
      have hmax : max depth (addLeaf hit ⟨span :: outer, front⟩).stack.length = depth := by
        simp only [addLeaf, List.length_cons]
        omega
      rw [hmax]
      apply Follows.going
      rw [← reached]
      simp [reach, Node.depthAll_append, Node.depthAll, Node.depth]

/-- When no more hits come the span is the last bundle. -/
theorem Follows.finish (h : Follows front depth state) :
    ∃ opening ending children, state.finish = front ++ [.span opening ending children] ∧
      (Bundle.span opening ending children).depth = depth := by
  have hall := h.popMany .unclosed state.stack.length
  have hstack := popMany_all .unclosed state
  rw [Reconstruction.finish]
  generalize Reconstruction.popMany .unclosed state.stack.length state = after at hall hstack ⊢
  cases hall with
  | going span outer reached => cases hstack
  | complete opening ending children reached => exact ⟨opening, ending, children, rfl, reached⟩

theorem expire_idle (options : SpanOptions) (now : Nat) (h : state.stack = []) :
    expire options now state = state := by
  obtain ⟨stack, forest⟩ := state
  obtain rfl : stack = [] := h
  rw [expire, expiring]
  cases options.staleAfter <;> rfl

/-- Hits behind a forest that ends in a span do not touch it. -/
theorem pushAll_behind (options : SpanOptions) (hits : List Hit) (h : Sealed front)
    (state : Reconstruction) :
    hits.foldl (push options) (state.behind front) =
      (hits.foldl (push options) state).behind front := by
  induction hits generalizing state with
  | nil => rfl
  | cons hit rest ih =>
    have hexpire : expire options hit.ns (state.behind front) =
        (expire options hit.ns state).behind front := popMany_behind ..
    rw [List.foldl_cons, List.foldl_cons, ← ih, push, push, hexpire, take_behind options hit h]

/-- Once the outermost span is complete the rest of the hits comes behind it. -/
theorem Follows.finish_behind (h : Follows front depth state) (hclosed : state.stack = [])
    (rest : List Hit) :
    ∃ bundle back, (rest.foldl (push options) state).finish = front ++ bundle :: back ∧
      bundle.depth = depth := by
  cases h with
  | going span outer reached => cases hclosed
  | complete opening ending children reached =>
    have hsealed : Sealed (front ++ [.span opening ending children]) := by
      simp [Sealed, Bundle.isLoose]
    have hempty : (⟨[], front ++ [.span opening ending children]⟩ : Reconstruction) =
        empty.behind (front ++ [.span opening ending children]) := by
      simp [behind, empty]
    rw [hempty, pushAll_behind options rest hsealed, Reconstruction.finish_behind]
    exact ⟨_, _, List.append_cons .. |>.symm, reached⟩

/-- The depth of the span behind a forest is the most that has been reached and will be reported
before it is complete. -/
theorem Follows.depth_eq (options : SpanOptions) (h : Follows front depth state)
    (hits : List Hit) :
    ∃ bundle back, (hits.foldl (push options) state).finish = front ++ bundle :: back ∧
      bundle.depth = (reported options state hits).foldl max depth := by
  induction hits generalizing depth state with
  | nil =>
    obtain ⟨opening, ending, children, hfinish, hdepth⟩ := h.finish
    exact ⟨_, [], hfinish, hdepth⟩
  | cons hit rest ih =>
    have hexpired : Follows front depth (expire options hit.ns state) := h.popMany ..
    rw [reported]
    split
    case isTrue hclosed =>
      have hpush : push options (expire options hit.ns state) hit = push options state hit := by
        rw [push, expire_idle options hit.ns hclosed, push]
      rw [List.foldl_cons, ← hpush]
      exact hexpired.finish_behind hclosed (hit :: rest)
    case isFalse hopen =>
      have hnext := hexpired.take options hopen hit
      rw [List.foldl_cons, phase_depth]
      exact ih hnext

/-! ## Where a span begins -/

/-- The start of a span that lies in no other: when it came, the bundles in front were complete
and no span was open. -/
def Begins (options : SpanOptions) (hits : List Hit) (front : List Bundle) (opening : Opening) :
    Prop :=
  ∃ after, hits = front.flatMap Bundle.flatten ++ opening.start :: after ∧
    expire options opening.start.ns (run options (front.flatMap Bundle.flatten)) = ⟨[], front⟩ ∧
    Delimiter.startRoot? opening.start.probe = some opening.root

/-- The spans that lie in no other all have their start where they stand. -/
structure Placed (options : SpanOptions) (hits : List Hit) (state : Reconstruction) : Prop where
  complete : ∀ front opening ending children back,
    state.forest = front ++ .span opening ending children :: back →
      Begins options hits front opening
  going : ∀ opening ∈ (state.stack.map OpenSpan.opening).getLast?,
    Begins options hits state.forest opening

variable {hits : List Hit}

theorem Begins.concat {opening : Opening} (h : Begins options hits front opening) (hit : Hit) :
    Begins options (hits ++ [hit]) front opening := by
  obtain ⟨after, hhits, hstart⟩ := h
  refine ⟨after ++ [hit], ?_, hstart⟩
  rw [hhits]
  simp

theorem Placed.concat (h : Placed options hits state) (hit : Hit) :
    Placed options (hits ++ [hit]) state where
  complete front opening ending children back hforest :=
    (h.complete front opening ending children back hforest).concat hit
  going opening hopening := (h.going opening hopening).concat hit

theorem placed_empty : Placed options [] empty where
  complete := by simp [empty]
  going := by simp [empty]

theorem Placed.pop (h : Placed options hits state) (ending : Ending) :
    Placed options hits (pop ending state) := by
  obtain ⟨stack, forest⟩ := state
  cases stack with
  | nil => exact h
  | cons span outer =>
    cases outer with
    | cons parent rest => exact ⟨h.complete, h.going⟩
    | nil =>
      refine ⟨?_, by simp [Reconstruction.pop]⟩
      intro front opening ending' children back hforest
      obtain rfl | ⟨between, last, rfl⟩ := back.eq_nil_or_concat'
      · obtain ⟨rfl, hspan⟩ := List.append_inj' hforest rfl
        cases hspan
        exact h.going span.opening rfl
      · rw [← List.cons_append, ← List.append_assoc] at hforest
        exact h.complete front opening ending' children between (List.append_inj' hforest rfl).1

theorem Placed.popMany (h : Placed options hits state) (ending : Ending) (n : Nat) :
    Placed options hits (popMany ending n state) :=
  popMany_keeps (fun _ h => h.pop ending) n state h

/-- A loose hit leaves the spans of a forest where they are. -/
theorem addLoose_span {hit : Hit} {forest front back : List Bundle} {opening : Opening}
    {ending : Ending} {children : List Node}
    (h : addLoose hit forest = front ++ .span opening ending children :: back) :
    ∃ rest, forest = front ++ .span opening ending children :: rest := by
  fun_induction addLoose hit forest generalizing front with
  | case1 => cases front <;> simp at h
  | case2 hits => cases front <;> simp at h
  | case3 bundle rest _ ih =>
    cases front with
    | nil =>
      obtain ⟨rfl, -⟩ := List.cons.inj h
      exact ⟨rest, rfl⟩
    | cons first front =>
      obtain ⟨rfl, htail⟩ := List.cons.inj h
      obtain ⟨after, rfl⟩ := ih htail
      exact ⟨after, rfl⟩

theorem Placed.addLeaf (h : Placed options hits state) (hit : Hit) :
    Placed options hits (addLeaf hit state) := by
  obtain ⟨stack, forest⟩ := state
  cases stack with
  | cons top rest => exact ⟨h.complete, h.going⟩
  | nil =>
    refine ⟨?_, by simp [Reconstruction.addLeaf]⟩
    intro front opening ending children back hforest
    obtain ⟨rest, hbefore⟩ := addLoose_span hforest
    exact h.complete front opening ending children rest hbefore

/-- When no span is open all hits are in the forest. -/
theorem flatten_idle (h : state.stack = []) :
    state.forest.flatMap Bundle.flatten = state.flatten := by
  rw [flatten, h, flattenStack, List.append_nil]

/-- A start that finds no span open begins one that lies in no other. -/
theorem Placed.start {hit : Hit} {root : String}
    (h : Placed options (hits ++ [hit]) (expire options hit.ns (run options hits)))
    (hroot : Delimiter.startRoot? hit.probe = some root) :
    Placed options (hits ++ [hit])
      ⟨opened options root hit :: (expire options hit.ns (run options hits)).stack,
        (expire options hit.ns (run options hits)).forest⟩ := by
  refine ⟨h.complete, ?_⟩
  intro opening hopening
  have hflat := expire_flatten options hit.ns (run options hits)
  rw [run_flatten] at hflat
  rcases hstate : expire options hit.ns (run options hits) with ⟨stack, forest⟩
  rw [hstate] at h hopening hflat
  cases stack with
  | nil =>
    cases hopening
    rw [← flatten_idle rfl] at hflat
    refine ⟨[], ?_, ?_, hroot⟩
    · rw [hflat]
      rfl
    · rw [hflat]
      exact hstate
  | cons outer rest =>
    rw [List.map_cons, List.map_cons, List.getLast?_cons_cons] at hopening
    exact h.going opening hopening

theorem run_placed (options : SpanOptions) (hits : List Hit) :
    Placed options hits (run options hits) := by
  induction hits using List.reverseRecOn with
  | nil => exact placed_empty
  | append_singleton hits hit ih =>
    have hexpired : Placed options (hits ++ [hit]) (expire options hit.ns (run options hits)) :=
      (ih.concat hit).popMany ..
    rw [run_append_singleton, push]
    rcases take_cases options hit (expire options hit.ns (run options hits)) with
      ⟨root, hroot, htake⟩ | ⟨-, top, rest, -, -, -, htake⟩ | ⟨-, -, htake⟩
    · rw [htake]
      exact hexpired.start hroot
    · rw [htake]
      exact hexpired.pop _
    · rw [htake]
      exact hexpired.addLeaf hit

theorem Begins.push_eq {opening : Opening} (h : Begins options hits front opening) :
    push options (run options (front.flatMap Bundle.flatten)) opening.start =
      ⟨[opened options opening.root opening.start], front⟩ := by
  obtain ⟨after, -, hidle, hroot⟩ := h
  rw [push, hidle, take, hroot]
  rfl

end Reconstruction

open Reconstruction in
/-- The depth of a span that lies in no other is the largest number of open spans that is
reported from its start on, until none is open any more. -/
theorem span_depth {hits : List Hit} {options : SpanOptions} {front back : List Bundle}
    {opening : Opening} {ending : Ending} {children : List Node}
    (h : reconstruct hits options = front ++ .span opening ending children :: back) :
    ∃ after, hits = front.flatMap Bundle.flatten ++ opening.start :: after ∧
      let before := run options (front.flatMap Bundle.flatten)
      let started := push options before opening.start
      (expire options opening.start.ns before).stack = [] ∧
      (started.phase.depth :: reported options started after).max? =
        some (Bundle.span opening ending children).depth := by
  have hplaced := (run_placed options hits).popMany .unclosed (run options hits).stack.length
  have hbegins := hplaced.complete front opening ending children back h
  have hstart := hbegins.push_eq
  obtain ⟨after, hhits, hidle, -⟩ := hbegins
  refine ⟨after, hhits, congrArg stack hidle, ?_⟩
  have hfollows : Follows front 1 ⟨[opened options opening.root opening.start], front⟩ :=
    .going _ [] (by simp [reach, opened, Node.depthAll])
  obtain ⟨bundle, rest, hfinish, hdepth⟩ := hfollows.depth_eq options after
  have hresult : reconstruct hits options = front ++ bundle :: rest := by
    rw [← hfinish, ← hstart, reconstruct, hhits, List.foldl_append]
    rfl
  have hbundle : bundle :: rest = .span opening ending children :: back :=
    List.append_cancel_left (hresult.symm.trans h)
  rw [hstart, List.max?_cons', ← (List.cons.inj hbundle).1, hdepth]
  rfl

/-- Two spans that expire together, a loose hit after them, and three more levels of which the
innermost is closed and the others are still open at the end. -/
def terraced : List Hit :=
  [countedHit "a_start" 0 none, countedHit "b_start" 5 none, countedHit "tick" 200 none,
    countedHit "c_start" 210 none, countedHit "d_start" 220 none, countedHit "e_start" 230 none,
    countedHit "e_end" 240 none]

theorem span_depth_terraced :
    ∃ front opening ending children,
      reconstruct terraced ⟨"count", some 100⟩ = front ++ [.span opening ending children] ∧
      front.flatMap Bundle.flatten = terraced.take 3 ∧
      (Bundle.span opening ending children).depth = 3 := by
  refine ⟨[_, _], _, _, _, rfl, rfl, ?_⟩
  obtain ⟨after, hhits, -, hdepth⟩ := @span_depth terraced ⟨"count", some 100⟩ [_, _] []
    _ _ _ rfl
  obtain rfl : terraced.drop 4 = after := congrArg (List.drop 4) hhits
  exact (Option.some.inj hdepth).symm

end ProbeTrace
