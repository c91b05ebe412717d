import Mathlib.Data.List.Basic
import ProbeTrace.Proofs.Span.Moves

/-!
# Nesting

A span that ends goes to the innermost span around it, or behind the forest if there
is none. The spans that are still open at the end lie in each other, so together they
make up one more bundle: the outermost holds the next as its last child, and so on.
-/

set_option autoImplicit false

namespace ProbeTrace

namespace Opening

/-- The hit that opened the span is named for its root and carries its counter. -/
structure Sound (counterArg : String) (opening : Opening) : Prop where
  probe : opening.start.probe = opening.root ++ Delimiter.startSuffix
  counter : opening.counter = opening.start.argInt64? counterArg

/-- A hit ends the span: it is named for the same root and carries the same counter. -/
structure ClosedBy (counterArg : String) (opening : Opening) (last : Hit) : Prop where
  probe : last.probe = opening.root ++ Delimiter.endSuffix
  counter : last.argInt64? counterArg = opening.counter

end Opening

namespace Bundle

def isLoose : Bundle → Bool
  | .loose _ => true
  | .span _ _ _ => false

/-- Two neighbours in a forest: loose hits in a row are one bundle. -/
def Apart (a b : Bundle) : Prop :=
  ¬ (a.isLoose ∧ b.isLoose)

end Bundle

/-- A node without a span around it. -/
def Node.bundle : Node → Bundle
  | .leaf hit => .loose [hit]
  | .span opening ending children => .span opening ending children

namespace Reconstruction

/-- Hands a node to the innermost open span, or puts it behind the forest. -/
def attach (node : Node) : Reconstruction → Reconstruction
  | ⟨[], forest⟩ => ⟨[], forest ++ [node.bundle]⟩
  | ⟨top :: rest, forest⟩ => ⟨⟨top.opening, top.children ++ [node]⟩ :: rest, forest⟩

theorem pop_cons (ending : Ending) (span : OpenSpan) (outer : List OpenSpan)
    (forest : List Bundle) :
    pop ending ⟨span :: outer, forest⟩ =
      attach (.span span.opening ending span.children) ⟨outer, forest⟩ := by
  cases outer <;> rfl

/-- A pop takes the innermost opening away and leaves the others as they are. -/
theorem pop_openings (ending : Ending) (state : Reconstruction) :
    (pop ending state).stack.map OpenSpan.opening =
      (state.stack.map OpenSpan.opening).drop 1 := by
  obtain ⟨stack, forest⟩ := state
  cases stack with
  | nil => rfl
  | cons span outer => cases outer <;> rfl

theorem popMany_openings (ending : Ending) (n : Nat) (state : Reconstruction) :
    (popMany ending n state).stack.map OpenSpan.opening =
      (state.stack.map OpenSpan.opening).drop n := by
  induction n generalizing state with
  | zero => rfl
  | succ n ih =>
    rw [popMany, ih, pop_openings, List.drop_drop, Nat.add_comm]

/-! ## Loose hits -/

theorem addLoose_cons_cons (hit : Hit) (first next : Bundle) (rest : List Bundle) :
    addLoose hit (first :: next :: rest) = first :: addLoose hit (next :: rest) := by
  cases first <;> rfl

theorem addLoose_loose (hit : Hit) (front : List Bundle) (hits : List Hit) :
    addLoose hit (front ++ [.loose hits]) = front ++ [.loose (hits ++ [hit])] := by
  induction front with
  | nil => rfl
  | cons first rest ih =>
    cases rest with
    | nil => exact addLoose_cons_cons hit first _ []
    | cons next rest =>
      rw [List.cons_append] at ih
      rw [List.cons_append, List.cons_append, addLoose_cons_cons, ih]
      rfl

theorem addLoose_apart (hit : Hit) {forest : List Bundle}
    (h : ∀ last ∈ forest.getLast?, last.isLoose = false) :
    addLoose hit forest = forest ++ [.loose [hit]] := by
  induction forest with
  | nil => rfl
  | cons first rest ih =>
    cases rest with
    | nil =>
      cases first with
      | loose hits => exact absurd (h (.loose hits) rfl) (by simp [Bundle.isLoose])
      | span opening ending children => rfl
    | cons next rest =>
      rw [List.getLast?_cons_cons] at h
      rw [addLoose_cons_cons, ih h]
      rfl

theorem mem_addLoose {hit : Hit} {forest : List Bundle} {bundle : Bundle}
    (h : bundle ∈ addLoose hit forest) : bundle ∈ forest ∨ ∃ hits, bundle = .loose hits := by
  obtain rfl | ⟨front, last, rfl⟩ := forest.eq_nil_or_concat'
  · exact .inr ⟨[hit], List.mem_singleton.1 h⟩
  · cases last with
    | loose hits =>
      rw [addLoose_loose] at h
      rcases List.mem_append.1 h with hfront | hlast
      · exact .inl (List.mem_append_left _ hfront)
      · exact .inr ⟨_, List.mem_singleton.1 hlast⟩
    | span opening ending children =>
      rw [addLoose_apart hit (by simp [Bundle.isLoose])] at h
      rcases List.mem_append.1 h with hforest | hlast
      · exact .inl hforest
      · exact .inr ⟨_, List.mem_singleton.1 hlast⟩

/-! ## What is still open at the end -/

/-- Open spans as they lie in each other, the outermost first. -/
def nested : List OpenSpan → List Node
  | [] => []
  | span :: inner => [.span span.opening .unclosed (span.children ++ nested inner)]

/-- The innermost span may as well be a child of the one around it. -/
theorem nested_absorb (outer : List OpenSpan) (parent span : OpenSpan) :
    nested (outer ++ [parent, span]) =
      nested (outer ++ [⟨parent.opening,
        parent.children ++ [.span span.opening .unclosed span.children]⟩]) := by
  induction outer with
  | nil => simp [nested]
  | cons first rest ih => simp only [List.cons_append, nested, ih]

theorem attach_length (node : Node) (state : Reconstruction) :
    (attach node state).stack.length = state.stack.length := by
  obtain ⟨stack, forest⟩ := state
  cases stack <;> rfl

theorem finish_cons (span : OpenSpan) (outer : List OpenSpan) (forest : List Bundle) :
    finish ⟨span :: outer, forest⟩ =
      finish (attach (.span span.opening .unclosed span.children) ⟨outer, forest⟩) := by
  rw [finish, finish, attach_length, List.length_cons, popMany, pop_cons]

/-- At the end the open spans follow the forest as one bundle, if there are any. -/
theorem finish_eq (stack : List OpenSpan) (forest : List Bundle) :
    finish ⟨stack, forest⟩ = forest ++ (nested stack.reverse).map Node.bundle := by
  -- A pop changes the span around it, so the stack gets shorter but is not a part of itself.
  induction hn : stack.length generalizing stack with
  | zero =>
    rw [List.length_eq_zero_iff] at hn
    subst hn
    simp [finish, popMany, nested]
  | succ n ih =>
    obtain ⟨span, outer, rfl⟩ := List.exists_cons_of_length_eq_add_one hn
    rw [finish_cons]
    cases outer with
    | nil => simp [attach, finish, popMany, nested]
    | cons parent rest =>
      rw [attach, ih _ (by simpa using hn), List.reverse_cons, List.reverse_cons,
        List.reverse_cons, List.append_assoc, List.singleton_append, nested_absorb]

/-! ## A forest in front -/

/-- The state with some more bundles in front of its forest. -/
def behind (front : List Bundle) (state : Reconstruction) : Reconstruction :=
  ⟨state.stack, front ++ state.forest⟩

/-- No loose hits can be added to a forest that ends in a span. -/
def Sealed (front : List Bundle) : Prop :=
  ∀ last ∈ front.getLast?, last.isLoose = false

theorem addLoose_behind (hit : Hit) {front : List Bundle} (h : Sealed front)
    (forest : List Bundle) : addLoose hit (front ++ forest) = front ++ addLoose hit forest := by
  obtain rfl | ⟨before, last, rfl⟩ := forest.eq_nil_or_concat'
  · rw [List.append_nil, addLoose_apart hit h]
    rfl
  · rw [← List.append_assoc]
    cases last with
    | loose hits => rw [addLoose_loose, addLoose_loose, List.append_assoc]
    | span opening ending children =>
      rw [addLoose_apart hit (by simp [Bundle.isLoose]),
        addLoose_apart hit (by simp [Bundle.isLoose])]
      simp only [List.append_assoc]

theorem pop_behind (ending : Ending) (front : List Bundle) (state : Reconstruction) :
    pop ending (state.behind front) = (pop ending state).behind front := by
  obtain ⟨stack, forest⟩ := state
  cases stack with
  | nil => rfl
  | cons span outer =>
    cases outer with
    | nil => simp [behind, pop]
    | cons parent rest => rfl

theorem popMany_behind (ending : Ending) (front : List Bundle) (n : Nat)
    (state : Reconstruction) :
    popMany ending n (state.behind front) = (popMany ending n state).behind front := by
  induction n generalizing state with
  | zero => rfl
  | succ n ih => rw [popMany, popMany, pop_behind, ih]

theorem addLeaf_behind (hit : Hit) {front : List Bundle} (h : Sealed front)
    (state : Reconstruction) :
    addLeaf hit (state.behind front) = (addLeaf hit state).behind front := by
  obtain ⟨stack, forest⟩ := state
  cases stack with
  | nil => simp [behind, addLeaf, addLoose_behind hit h]
  | cons top rest => rfl

/-- What is in front of the forest does not matter to a hit. -/
theorem take_behind (options : SpanOptions) (hit : Hit) {front : List Bundle} (h : Sealed front)
    (state : Reconstruction) :
    take options hit (state.behind front) = (take options hit state).behind front := by
  have hcloses (root : String) (counter : Option Int64) :
      closes root counter (state.behind front) = closes root counter state := rfl
  simp only [take, hcloses]
  split
  · rfl
  · split
    · split
      · exact pop_behind ..
      · exact addLeaf_behind hit h state
    · exact addLeaf_behind hit h state

theorem finish_behind (front : List Bundle) (state : Reconstruction) :
    (state.behind front).finish = front ++ state.finish :=
  congrArg forest (popMany_behind .unclosed front state.stack.length state)

end Reconstruction
end ProbeTrace
