import Mathlib.Data.List.Chain
import ProbeTrace.Proofs.Span.Nesting

/-!
# Reconstruction inverts flattening

A forest whose spans are properly delimited is found again from its hits alone. The
hits of a closed span, taken in on whatever is open, add that span as one node; those
of an open one leave its spans on the stack, from where they become nodes at the end.
-/

set_option autoImplicit false

namespace ProbeTrace

def Hit.Starts (hit : Hit) : Prop :=
  ∃ root, hit.probe = root ++ Delimiter.startSuffix

/-- A hit inside a span that neither opens another one nor ends this one. -/
structure Opening.Keeps (counterArg : String) (opening : Opening) (hit : Hit) : Prop where
  silent : ¬ hit.Starts
  stray : ¬ opening.ClosedBy counterArg hit

/-- A span that ended, with nothing but such spans and ordinary hits inside. -/
inductive ClosedSpan (counterArg : String) : Node → Prop
  | mk {opening : Opening} {last : Hit} {children : List Node}
      (starts : opening.Sound counterArg) (ends : opening.ClosedBy counterArg last)
      (leaves : ∀ hit, .leaf hit ∈ children → opening.Keeps counterArg hit)
      (spans : ∀ node ∈ children, node.isLeaf = false → ClosedSpan counterArg node) :
      ClosedSpan counterArg (.span opening (.closed last) children)

/-- A span that did not end. Only its last child may be another such span. -/
inductive UnclosedSpan (counterArg : String) : Node → Prop
  | innermost {opening : Opening} {children : List Node}
      (starts : opening.Sound counterArg)
      (leaves : ∀ hit, .leaf hit ∈ children → opening.Keeps counterArg hit)
      (spans : ∀ node ∈ children, node.isLeaf = false → ClosedSpan counterArg node) :
      UnclosedSpan counterArg (.span opening .unclosed children)
  | around {opening : Opening} {children : List Node} {inner : Node}
      (starts : opening.Sound counterArg)
      (leaves : ∀ hit, .leaf hit ∈ children → opening.Keeps counterArg hit)
      (spans : ∀ node ∈ children, node.isLeaf = false → ClosedSpan counterArg node)
      (last : UnclosedSpan counterArg inner) :
      UnclosedSpan counterArg (.span opening .unclosed (children ++ [inner]))

/-- A forest that a well-nested execution leaves behind. -/
structure Admissible (counterArg : String) (forest : List Bundle) : Prop where
  apart : forest.IsChain Bundle.Apart
  loose : ∀ hits, .loose hits ∈ forest → hits ≠ [] ∧ ∀ hit ∈ hits, ¬ hit.Starts
  closed : ∀ opening ending children, .span opening ending children ∈ forest.dropLast →
    ClosedSpan counterArg (.span opening ending children)
  last : ∀ opening ending children, .span opening ending children ∈ forest.getLast? →
    ClosedSpan counterArg (.span opening ending children) ∨
      UnclosedSpan counterArg (.span opening ending children)

theorem Hit.not_starts_iff (hit : Hit) :
    ¬ hit.Starts ↔ Delimiter.startRoot? hit.probe = none := by
  rw [Option.eq_none_iff_forall_ne_some, Hit.Starts, not_exists]
  simp only [Delimiter.startRoot?, ne_eq, Delimiter.stem?_eq_some_iff]

namespace Reconstruction

variable {counterArg : String}

theorem push_unlimited (state : Reconstruction) (hit : Hit) :
    push ⟨counterArg, none⟩ state hit = take ⟨counterArg, none⟩ hit state := rfl

theorem push_start {opening : Opening} (h : opening.Sound counterArg) (stack : List OpenSpan)
    (forest : List Bundle) :
    push ⟨counterArg, none⟩ ⟨stack, forest⟩ opening.start =
      ⟨⟨opening, []⟩ :: stack, forest⟩ := by
  have hroot : Delimiter.startRoot? opening.start.probe = some opening.root :=
    (Delimiter.stem?_eq_some_iff ..).2 h.probe
  rw [push_unlimited, take, hroot]
  simp only [← h.counter]

theorem push_end {opening : Opening} {last : Hit} (h : opening.ClosedBy counterArg last)
    (children : List Node) (outer : List OpenSpan) (forest : List Bundle) :
    push ⟨counterArg, none⟩ ⟨⟨opening, children⟩ :: outer, forest⟩ last =
      attach (.span opening (.closed last) children) ⟨outer, forest⟩ := by
  have hstart : Delimiter.startRoot? last.probe = none := by
    rw [← Hit.not_starts_iff]
    rintro ⟨root, hroot⟩
    exact Delimiter.append_endSuffix_ne _ _ (h.probe.symm.trans hroot)
  have hroot : Delimiter.endRoot? last.probe = some opening.root :=
    (Delimiter.stem?_eq_some_iff ..).2 h.probe
  rw [push_unlimited, take, hstart, hroot]
  simp [closes, h.counter, pop_cons]

theorem push_leaf {opening : Opening} {hit : Hit} (h : opening.Keeps counterArg hit)
    (children : List Node) (outer : List OpenSpan) (forest : List Bundle) :
    push ⟨counterArg, none⟩ ⟨⟨opening, children⟩ :: outer, forest⟩ hit =
      ⟨⟨opening, children ++ [.leaf hit]⟩ :: outer, forest⟩ := by
  rw [push_unlimited]
  rcases take_cases ⟨counterArg, none⟩ hit ⟨⟨opening, children⟩ :: outer, forest⟩ with
    ⟨root, hroot, -⟩ | ⟨-, top, rest, hstack, hroot, hcounter, -⟩ | ⟨-, -, htake⟩
  · exact absurd ⟨root, (Delimiter.stem?_eq_some_iff ..).1 hroot⟩ h.silent
  · cases hstack
    exact absurd ⟨(Delimiter.stem?_eq_some_iff ..).1 hroot, hcounter.symm⟩ h.stray
  · exact htake

theorem push_loose {hit : Hit} (h : ¬ hit.Starts) (forest : List Bundle) :
    push ⟨counterArg, none⟩ ⟨[], forest⟩ hit = ⟨[], addLoose hit forest⟩ := by
  rw [push_unlimited]
  rcases take_cases ⟨counterArg, none⟩ hit ⟨[], forest⟩ with
    ⟨root, hroot, -⟩ | ⟨-, top, rest, hstack, -⟩ | ⟨-, -, htake⟩
  · exact absurd ⟨root, (Delimiter.stem?_eq_some_iff ..).1 hroot⟩ h
  · cases hstack
  · exact htake

/-- The hits of a node, taken in anywhere, add that node and change nothing else. -/
def Absorbed (counterArg : String) (node : Node) : Prop :=
  ∀ state : Reconstruction,
    node.flatten.foldl (push ⟨counterArg, none⟩) state = attach node state

/-- What lies in a span comes back child by child, behind those it has already. -/
theorem children_absorbed {opening : Opening} {children : List Node}
    (leaves : ∀ hit, .leaf hit ∈ children → opening.Keeps counterArg hit)
    (spans : ∀ node ∈ children, node.isLeaf = false → Absorbed counterArg node)
    (done : List Node) (outer : List OpenSpan) (forest : List Bundle) :
    (Node.flattenAll children).foldl (push ⟨counterArg, none⟩)
        ⟨⟨opening, done⟩ :: outer, forest⟩ =
      ⟨⟨opening, done ++ children⟩ :: outer, forest⟩ := by
  induction children generalizing done with
  | nil => simp [Node.flattenAll]
  | cons node rest ih =>
    have hnode : node.flatten.foldl (push ⟨counterArg, none⟩)
        ⟨⟨opening, done⟩ :: outer, forest⟩ = ⟨⟨opening, done ++ [node]⟩ :: outer, forest⟩ := by
      cases node with
      | leaf hit => exact push_leaf (leaves hit (List.mem_cons_self ..)) done outer forest
      | span inner ending nodes => exact spans _ (List.mem_cons_self ..) rfl _
    rw [Node.flattenAll, List.foldl_append, hnode,
      ih (fun hit hhit => leaves hit (List.mem_cons_of_mem _ hhit))
        (fun child hchild => spans child (List.mem_cons_of_mem _ hchild)),
      List.append_assoc, List.singleton_append]

theorem closedSpan_absorbed {node : Node} (h : ClosedSpan counterArg node) :
    Absorbed counterArg node := by
  induction h with
  | @mk opening last children starts ends leaves _ ih =>
    -- The spans inside are absorbed wherever they stand, so also below this one.
    rintro ⟨stack, forest⟩
    rw [Node.flatten, List.cons_append, List.foldl_cons, List.foldl_append, push_start starts,
      children_absorbed leaves ih]
    exact push_end ends ..

/-- The hits of an open span leave a chain of open spans on the stack, which are that
span again once they are nested. -/
theorem unclosedSpan_stacked {node : Node} (h : UnclosedSpan counterArg node) :
    ∃ chain, nested chain = [node] ∧ ∀ stack forest,
      node.flatten.foldl (push ⟨counterArg, none⟩) ⟨stack, forest⟩ =
        ⟨chain.reverse ++ stack, forest⟩ := by
  induction h with
  | @innermost opening children starts leaves spans =>
    refine ⟨[⟨opening, children⟩], by simp [nested], ?_⟩
    intro stack forest
    have habsorbed := children_absorbed leaves
      (fun child hchild hleaf => closedSpan_absorbed (spans child hchild hleaf)) [] stack forest
    simpa [Node.flatten, Ending.hit?, push_start starts] using habsorbed
  | @around opening children inner starts leaves spans _ ih =>
    -- The chain of the last child goes on top of this span and its other children.
    obtain ⟨chain, hnested, hinner⟩ := ih
    refine ⟨⟨opening, children⟩ :: chain, by simp [nested, hnested], ?_⟩
    intro stack forest
    have habsorbed := children_absorbed leaves
      (fun child hchild hleaf => closedSpan_absorbed (spans child hchild hleaf)) [] stack forest
    simp [Node.flatten, Ending.hit?, push_start starts, Node.flattenAll_append,
      Node.flattenAll, habsorbed, hinner]

/-! ## The top level -/

theorem loose_continued {hits : List Hit} (silent : ∀ hit ∈ hits, ¬ hit.Starts)
    (front : List Bundle) (done : List Hit) :
    hits.foldl (push ⟨counterArg, none⟩) ⟨[], front ++ [.loose done]⟩ =
      ⟨[], front ++ [.loose (done ++ hits)]⟩ := by
  induction hits generalizing done with
  | nil => simp
  | cons hit rest ih =>
    rw [List.forall_mem_cons] at silent
    rw [List.foldl_cons, push_loose silent.1, addLoose_loose, ih silent.2, List.append_assoc,
      List.singleton_append]

theorem loose_absorbed {hits : List Hit} (filled : hits ≠ [])
    (silent : ∀ hit ∈ hits, ¬ hit.Starts) {front : List Bundle}
    (apart : ∀ last ∈ front.getLast?, last.isLoose = false) :
    hits.foldl (push ⟨counterArg, none⟩) ⟨[], front⟩ = ⟨[], front ++ [.loose hits]⟩ := by
  cases hits with
  | nil => exact absurd rfl filled
  | cons hit rest =>
    rw [List.forall_mem_cons] at silent
    rw [List.foldl_cons, push_loose silent.1, addLoose_apart hit apart,
      loose_continued silent.2, List.singleton_append]

/-- A forest in which nothing is open is complete as soon as its hits are taken in. -/
theorem closed_absorbed {forest : List Bundle} (apart : forest.IsChain Bundle.Apart)
    (loose : ∀ hits, .loose hits ∈ forest → hits ≠ [] ∧ ∀ hit ∈ hits, ¬ hit.Starts)
    (spans : ∀ opening ending children, .span opening ending children ∈ forest →
      ClosedSpan counterArg (.span opening ending children)) :
    (forest.flatMap Bundle.flatten).foldl (push ⟨counterArg, none⟩) empty = ⟨[], forest⟩ := by
  induction forest using List.reverseRecOn with
  | nil => rfl
  | append_singleton front last ih =>
    have hfront := ih apart.left_of_append
      (fun hits hhits => loose hits (List.mem_append_left _ hhits))
      (fun opening ending children hspan => spans _ _ _ (List.mem_append_left _ hspan))
    rw [List.flatMap_append, List.foldl_append, hfront, List.flatMap_singleton]
    cases last with
    | loose hits =>
      obtain ⟨filled, silent⟩ := loose hits (by simp)
      apply loose_absorbed filled silent
      intro before hbefore
      have hne := (List.isChain_append.1 apart).2.2 before hbefore (.loose hits) rfl
      simpa [Bundle.Apart, Bundle.isLoose] using hne
    | span opening ending children =>
      exact closedSpan_absorbed (spans opening ending children (by simp)) _

end Reconstruction

theorem Node.unclosedAll_eq_zero {nodes : List Node}
    (h : ∀ node ∈ nodes, node.unclosedCount = 0) : Node.unclosedAll nodes = 0 := by
  induction nodes with
  | nil => rfl
  | cons node rest ih =>
    rw [List.forall_mem_cons] at h
    rw [Node.unclosedAll, h.1, ih h.2]

theorem ClosedSpan.unclosedCount {counterArg : String} {node : Node}
    (h : ClosedSpan counterArg node) : node.unclosedCount = 0 := by
  induction h with
  | @mk opening last children _ _ _ _ ih =>
    have hinside : Node.unclosedAll children = 0 := by
      apply Node.unclosedAll_eq_zero
      intro node hnode
      cases node with
      | leaf hit => rfl
      | span opening ending nodes => exact ih _ hnode rfl
    rw [Node.unclosedCount, hinside]
    rfl

namespace Admissible

variable {counterArg : String} {forest : List Bundle}

/-- A span at the top level is closed, or it is the last bundle and open. -/
theorem span_cases (h : Admissible counterArg forest) {opening : Opening} {ending : Ending}
    {children : List Node} (hspan : .span opening ending children ∈ forest) :
    ClosedSpan counterArg (.span opening ending children) ∨
      (UnclosedSpan counterArg (.span opening ending children) ∧
        forest = forest.dropLast ++ [.span opening ending children]) := by
  obtain rfl | ⟨front, last, rfl⟩ := forest.eq_nil_or_concat'
  · cases hspan
  · obtain ⟨-, -, hclosed, hlast⟩ := h
    rw [List.dropLast_concat] at hclosed ⊢
    rw [List.getLast?_concat] at hlast
    rcases List.mem_append.1 hspan with hfront | hend
    · exact .inl (hclosed opening ending children hfront)
    · cases List.mem_singleton.1 hend
      rcases hlast opening ending children rfl with hc | hu
      · exact .inl hc
      · exact .inr ⟨hu, rfl⟩

open Reconstruction in
theorem reconstruct_eq (h : Admissible counterArg forest) :
    reconstruct (forest.flatMap Bundle.flatten) ⟨counterArg, none⟩ = forest := by
  by_cases hclosed : ∀ opening ending children, .span opening ending children ∈ forest →
      ClosedSpan counterArg (.span opening ending children)
  · rw [reconstruct, closed_absorbed h.apart h.loose hclosed]
    rfl
  · push Not at hclosed
    obtain ⟨opening, ending, children, hspan, hnot⟩ := hclosed
    obtain ⟨hlast, hsplit⟩ := (h.span_cases hspan).resolve_left hnot
    obtain ⟨chain, hnested, hstacked⟩ := unclosedSpan_stacked hlast
    have hfront : (forest.dropLast.flatMap Bundle.flatten).foldl (push ⟨counterArg, none⟩) empty =
        ⟨[], forest.dropLast⟩ := by
      apply closed_absorbed _ _ h.closed
      · rw [hsplit] at h
        exact h.apart.left_of_append
      · intro hits hhits
        exact h.loose hits (List.dropLast_subset forest hhits)
    rw [hsplit, List.flatMap_append, reconstruct, List.foldl_append, hfront,
      List.flatMap_singleton, Bundle.flatten, hstacked, finish_eq, List.append_nil,
      List.reverse_reverse, hnested]
    rfl

theorem unclosedCount_eq_zero (h : Admissible counterArg forest)
    (hended : ∀ opening children, .span opening .unclosed children ∉ forest)
    {bundle : Bundle} (hbundle : bundle ∈ forest) : bundle.unclosedCount = 0 := by
  cases bundle with
  | loose hits => rfl
  | span opening ending children =>
    rcases h.span_cases hbundle with hclosed | ⟨hopen, -⟩
    · exact hclosed.unclosedCount
    · cases hopen <;> exact absurd hbundle (hended _ _)

end Admissible

/-- The hits of an admissible forest, in the order in which they lie in it, give that
forest back. If its spans ended, none comes back open and each is as deep as before. -/
theorem reconstruct_flatten {counterArg : String} {forest : List Bundle}
    (h : Admissible counterArg forest) :
    reconstruct (forest.flatMap Bundle.flatten) ⟨counterArg, none⟩ = forest ∧
      ((∀ opening children, .span opening .unclosed children ∉ forest) →
        (∀ bundle ∈ reconstruct (forest.flatMap Bundle.flatten) ⟨counterArg, none⟩,
          bundle.unclosedCount = 0) ∧
        (reconstruct (forest.flatMap Bundle.flatten) ⟨counterArg, none⟩).map Bundle.depth =
          forest.map Bundle.depth) := by
  have hback := h.reconstruct_eq
  rw [hback]
  refine ⟨rfl, ?_⟩
  intro hended
  exact ⟨fun bundle hbundle => h.unclosedCount_eq_zero hended hbundle, rfl⟩

def countedSpan (root : String) (ns : Nat) (count : Option Int64) : Opening :=
  ⟨root, count, countedHit (root ++ Delimiter.startSuffix) ns count⟩

theorem countedSpan_sound (root : String) (ns : Nat) (count : Option Int64) :
    (countedSpan root ns count).Sound "count" := by
  cases count <;> exact ⟨rfl, rfl⟩

theorem countedSpan_keeps {probe root : String} {count other : Option Int64}
    (hsilent : Delimiter.startRoot? probe = none)
    (hstray : probe = root ++ Delimiter.endSuffix → other ≠ count) (before after : Nat) :
    (countedSpan root before count).Keeps "count" (countedHit probe after other) := by
  constructor
  · rw [Hit.not_starts_iff]
    cases other <;> exact hsilent
  · intro h
    have hprobe := h.probe
    have hcounter := h.counter
    cases other <;> exact hstray hprobe hcounter

/-- A span in one of the same name, with ends in between that fit neither. -/
def twins : Node :=
  .span (countedSpan "r" 2 (some 1)) (.closed (countedHit "r_end" 7 (some 1)))
    [.leaf (countedHit "r_end" 3 (some 5)),
      .span (countedSpan "r" 4 (some 2)) (.closed (countedHit "r_end" 6 (some 2)))
        [.leaf (countedHit "r_end" 5 none)]]

theorem twins_closed : ClosedSpan "count" twins := by
  have hinner : ClosedSpan "count"
      (.span (countedSpan "r" 4 (some 2)) (.closed (countedHit "r_end" 6 (some 2)))
        [.leaf (countedHit "r_end" 5 none)]) := by
    refine .mk (countedSpan_sound ..) ⟨rfl, rfl⟩ ?_ (by simp [Node.isLeaf])
    intro hit hhit
    cases List.mem_singleton.1 hhit
    exact countedSpan_keeps (by decide) (by decide) 4 5
  refine .mk (countedSpan_sound ..) ⟨rfl, rfl⟩ ?_ (by simp [Node.isLeaf, hinner])
  intro hit hhit
  rcases List.mem_cons.1 hhit with hfirst | hsecond
  · cases hfirst
    exact countedSpan_keeps (by decide) (by decide) 2 3
  · cases List.mem_singleton.1 hsecond

/-- Two spans without a counter that are open in each other. -/
def unended : Node :=
  .span (countedSpan "g" 8 none) .unclosed
    [.leaf (countedHit "g_end" 9 (some 1)), .span (countedSpan "g" 10 none) .unclosed []]

theorem unended_unclosed : UnclosedSpan "count" unended := by
  have hinner : UnclosedSpan "count" (.span (countedSpan "g" 10 none) .unclosed []) :=
    .innermost (countedSpan_sound ..) (by simp) (by simp)
  have hleaves : ∀ hit, Node.leaf hit ∈ [Node.leaf (countedHit "g_end" 9 (some 1))] →
      (countedSpan "g" 8 none).Keeps "count" hit := by
    intro hit hhit
    cases List.mem_singleton.1 hhit
    exact countedSpan_keeps (by decide) (by decide) 8 9
  exact .around (countedSpan_sound ..) hleaves (by simp [Node.isLeaf]) hinner

def strayEnds : List Hit :=
  [countedHit "r_end" 0 (some 1), countedHit "r_end" 1 none]

theorem strayEnds_silent : strayEnds ≠ [] ∧ ∀ hit ∈ strayEnds, ¬ hit.Starts := by
  have hsilent : ∀ hit ∈ strayEnds, Delimiter.startRoot? hit.probe = none := by decide
  exact ⟨by simp [strayEnds], fun hit hhit => hit.not_starts_iff.2 (hsilent hit hhit)⟩

theorem ended_admissible : Admissible "count" [.loose strayEnds, twins.bundle] where
  apart := by simp [Bundle.Apart, Bundle.isLoose, Node.bundle, twins]
  loose := by
    intro hits h
    rcases List.mem_cons.1 h with hstray | htwins
    · cases hstray
      exact strayEnds_silent
    · cases List.mem_singleton.1 htwins
  closed := by simp
  last := by
    intro opening ending children h
    cases h
    exact .inl twins_closed

theorem unended_admissible :
    Admissible "count" [.loose strayEnds, twins.bundle, unended.bundle] where
  apart := by simp [Bundle.Apart, Bundle.isLoose, Node.bundle, twins, unended]
  loose := by
    intro hits h
    apply ended_admissible.loose hits
    simpa [unended, Node.bundle] using h
  closed := by
    intro opening ending children h
    rcases List.mem_cons.1 h with hstray | htwins
    · cases hstray
    · cases List.mem_singleton.1 htwins
      exact twins_closed
  last := by
    intro opening ending children h
    cases h
    exact .inr unended_unclosed

/-- Stray ends, spans of one name in each other and spans that never end come back. -/
theorem reconstruct_twins :
    reconstruct ([.loose strayEnds, twins.bundle, unended.bundle].flatMap Bundle.flatten)
        ⟨"count", none⟩ = [.loose strayEnds, twins.bundle, unended.bundle] ∧
      (reconstruct ([.loose strayEnds, twins.bundle].flatMap Bundle.flatten)
        ⟨"count", none⟩).map Bundle.depth = [1, 2] :=
  ⟨(reconstruct_flatten unended_admissible).1,
    ((reconstruct_flatten ended_admissible).2 (by simp [twins, Node.bundle])).2⟩

end ProbeTrace
