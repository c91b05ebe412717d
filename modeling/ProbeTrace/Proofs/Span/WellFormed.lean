import Mathlib.Algebra.Ring.Nat
import Mathlib.Data.List.Chain
import ProbeTrace.Proofs.Span.Nesting

/-!
# Well-formed forests

While hits are taken in, everything that is complete is settled: no span in it is
open. Open spans are on the stack only, and when the hits are at an end they become
one chain, which starts at the last bundle and goes from child to last child. That
loose bundles hold nothing but hits and lie in no span is a matter of their type.
-/

set_option autoImplicit false

namespace ProbeTrace

/-- What holds of every span, wherever it lies. -/
structure SpanSound (options : SpanOptions) (opening : Opening) (ending : Ending)
    (children : List Node) : Prop where
  starts : opening.Sound options.counterArg
  closed_iff : ending.name = "Closed" ↔ ending.hit?.isSome
  ends : ∀ last ∈ ending.hit?, opening.ClosedBy options.counterArg last
  settled : ending ≠ .unclosed → Node.unclosedAll children = 0
  expires : ending = .expired → options.staleAfter.isSome
  timely : ∀ limit ∈ options.staleAfter, ∀ time ∈ opening.duration? ending, time ≤ limit

namespace SpanSound

variable {options : SpanOptions} {opening : Opening} {children : List Node}

theorem unclosed (starts : opening.Sound options.counterArg) :
    SpanSound options opening .unclosed children where
  starts := starts
  closed_iff := by decide
  ends := by simp [Ending.hit?]
  settled := by simp
  expires := by simp
  timely := by simp [Opening.duration?, Ending.hit?]

theorem expired (starts : opening.Sound options.counterArg)
    (settled : Node.unclosedAll children = 0) (limited : options.staleAfter.isSome) :
    SpanSound options opening .expired children where
  starts := starts
  closed_iff := by decide
  ends := by simp [Ending.hit?]
  settled := fun _ => settled
  expires := fun _ => limited
  timely := by simp [Opening.duration?, Ending.hit?]

theorem closed {last : Hit} (starts : opening.Sound options.counterArg)
    (settled : Node.unclosedAll children = 0)
    (ends : opening.ClosedBy options.counterArg last)
    (timely : ∀ limit ∈ options.staleAfter, last.ns - opening.start.ns ≤ limit) :
    SpanSound options opening (.closed last) children where
  starts := starts
  closed_iff := by simp [Ending.name, Ending.hit?]
  ends := by simpa [Ending.hit?] using ends
  settled := fun _ => settled
  expires := by simp
  timely := by simpa [Opening.duration?, Ending.hit?] using timely

end SpanSound

namespace Node

mutual
def WellFormed (options : SpanOptions) : Node → Prop
  | .leaf _ => True
  | .span opening ending children =>
    SpanSound options opening ending children ∧ AllWellFormed options children

def AllWellFormed (options : SpanOptions) : List Node → Prop
  | [] => True
  | node :: rest => WellFormed options node ∧ AllWellFormed options rest
end

mutual
/-- The open spans on the way from a node to its last child, and on from there. -/
def openChain : Node → List Opening
  | .span opening .unclosed children => opening :: lastChain children
  | _ => []

def lastChain : List Node → List Opening
  | [] => []
  | [node] => openChain node
  | _ :: rest => lastChain rest
end

theorem allWellFormed_append (options : SpanOptions) (a b : List Node) :
    AllWellFormed options (a ++ b) ↔ AllWellFormed options a ∧ AllWellFormed options b := by
  induction a with
  | nil => simp [AllWellFormed]
  | cons node rest ih => simp [AllWellFormed, ih, and_assoc]

theorem unclosedAll_append (a b : List Node) :
    unclosedAll (a ++ b) = unclosedAll a + unclosedAll b := by
  induction a with
  | nil => simp [unclosedAll]
  | cons node rest ih => simp [unclosedAll, ih, Nat.add_assoc]

theorem lastChain_concat (nodes : List Node) (node : Node) :
    lastChain (nodes ++ [node]) = openChain node := by
  induction nodes with
  | nil => rfl
  | cons first rest ih => cases rest <;> exact ih

theorem openChain_settled {node : Node} (h : node.unclosedCount = 0) : openChain node = [] := by
  cases node with
  | leaf hit => rfl
  | span opening ending children =>
    cases ending with
    | unclosed => simp [unclosedCount, Ending.isUnclosed] at h
    | closed last => rfl
    | expired => rfl

theorem lastChain_settled {nodes : List Node} (h : unclosedAll nodes = 0) :
    lastChain nodes = [] := by
  obtain rfl | ⟨front, node, rfl⟩ := nodes.eq_nil_or_concat'
  · rfl
  · rw [lastChain_concat]
    rw [unclosedAll_append, unclosedAll] at h
    exact openChain_settled (by omega)

end Node

namespace Bundle

def WellFormed (options : SpanOptions) : Bundle → Prop
  | .loose hits => hits ≠ []
  | .span opening ending children => Node.WellFormed options (.span opening ending children)

def openChain : Bundle → List Opening
  | .loose _ => []
  | .span opening ending children => Node.openChain (.span opening ending children)

end Bundle

structure WellFormedForest (options : SpanOptions) (forest : List Bundle) : Prop where
  bundles : ∀ bundle ∈ forest, bundle.WellFormed options
  apart : forest.IsChain Bundle.Apart

/-- The chain that starts at the last bundle of a forest. -/
def openChain (forest : List Bundle) : List Opening :=
  (forest.getLast?.map Bundle.openChain).getD []

theorem wellFormedForest_concat (options : SpanOptions) (forest : List Bundle)
    (bundle : Bundle) :
    WellFormedForest options (forest ++ [bundle]) ↔
      WellFormedForest options forest ∧ bundle.WellFormed options ∧
        ∀ before ∈ forest.getLast?, before.Apart bundle := by
  constructor
  · intro ⟨hbundles, hapart⟩
    rw [List.isChain_append] at hapart
    exact ⟨⟨fun b hb => hbundles b (by simp [hb]), hapart.1⟩, hbundles bundle (by simp),
      fun before hbefore => hapart.2.2 before hbefore bundle rfl⟩
  · intro ⟨⟨hbundles, hapart⟩, hbundle, hlast⟩
    refine ⟨?_, ?_⟩
    · intro b hb
      rcases List.mem_append.1 hb with hb | hb
      · exact hbundles b hb
      · rwa [List.mem_singleton.1 hb]
    · rw [List.isChain_append]
      refine ⟨hapart, List.isChain_singleton _, ?_⟩
      rintro before hbefore b hb
      cases hb
      exact hlast before hbefore

theorem WellFormedForest.addLoose {options : SpanOptions} {forest : List Bundle}
    (h : WellFormedForest options forest) (hit : Hit) :
    WellFormedForest options (Reconstruction.addLoose hit forest) := by
  have hfresh : (Bundle.loose [hit]).WellFormed options := by simp [Bundle.WellFormed]
  obtain rfl | ⟨front, last, rfl⟩ := forest.eq_nil_or_concat'
  · exact (wellFormedForest_concat options [] _).2 ⟨h, hfresh, by simp⟩
  · cases last with
    | loose hits =>
      rw [Reconstruction.addLoose_loose]
      obtain ⟨hfront, -, hlast⟩ := (wellFormedForest_concat options front _).1 h
      exact (wellFormedForest_concat options front _).2
        ⟨hfront, by simp [Bundle.WellFormed], hlast⟩
    | span opening ending children =>
      rw [Reconstruction.addLoose_apart hit (by simp [Bundle.isLoose])]
      exact (wellFormedForest_concat options _ _).2
        ⟨h, hfresh, by simp [Bundle.Apart, Bundle.isLoose]⟩

/-- What holds of a span that is still open: nothing inside it is. -/
structure OpenSpan.Sound (options : SpanOptions) (span : OpenSpan) : Prop where
  starts : span.opening.Sound options.counterArg
  children : Node.AllWellFormed options span.children
  settled : Node.unclosedAll span.children = 0

theorem OpenSpan.Sound.child {options : SpanOptions} {span : OpenSpan} (h : span.Sound options)
    {node : Node} (hnode : node.WellFormed options) (hsettled : node.unclosedCount = 0) :
    OpenSpan.Sound options ⟨span.opening, span.children ++ [node]⟩ where
  starts := h.starts
  children := (Node.allWellFormed_append ..).2 ⟨h.children, hnode, trivial⟩
  settled := by
    rw [Node.unclosedAll_append, h.settled, Node.unclosedAll, hsettled]
    rfl

namespace Reconstruction

/-- What holds while hits are taken in: whatever is complete is settled. -/
structure Invariant (options : SpanOptions) (state : Reconstruction) : Prop where
  stack : ∀ span ∈ state.stack, span.Sound options
  forest : WellFormedForest options state.forest
  settled : ∀ bundle ∈ state.forest, bundle.unclosedCount = 0

variable {options : SpanOptions}

theorem invariant_empty : Invariant options empty where
  stack := by simp [empty]
  forest := ⟨by simp [empty], List.isChain_nil⟩
  settled := by simp [empty]

/-- A settled node may be added to the innermost open span. -/
theorem Invariant.child {top : OpenSpan} {rest : List OpenSpan} {forest : List Bundle}
    (h : Invariant options ⟨top :: rest, forest⟩) {node : Node}
    (hnode : node.WellFormed options) (hsettled : node.unclosedCount = 0) :
    Invariant options ⟨⟨top.opening, top.children ++ [node]⟩ :: rest, forest⟩ where
  stack := by
    have hstack := h.stack
    rw [List.forall_mem_cons] at hstack ⊢
    exact ⟨hstack.1.child hnode hsettled, hstack.2⟩
  forest := h.forest
  settled := h.settled

/-- A settled span may be put behind the forest. -/
theorem Invariant.bundle {forest : List Bundle} (h : Invariant options ⟨[], forest⟩)
    {opening : Opening} {ending : Ending} {children : List Node}
    (hspan : (Node.span opening ending children).WellFormed options)
    (hsettled : (Node.span opening ending children).unclosedCount = 0) :
    Invariant options ⟨[], forest ++ [.span opening ending children]⟩ where
  stack := h.stack
  forest := (wellFormedForest_concat options forest _).2
    ⟨h.forest, hspan, by simp [Bundle.Apart, Bundle.isLoose]⟩
  settled := by
    intro bundle hbundle
    rcases List.mem_append.1 hbundle with hbundle | hbundle
    · exact h.settled bundle hbundle
    · rw [List.mem_singleton.1 hbundle]
      exact hsettled

theorem addLeaf_invariant {state : Reconstruction} (h : Invariant options state) (hit : Hit) :
    Invariant options (addLeaf hit state) := by
  obtain ⟨stack, forest⟩ := state
  cases stack with
  | cons top rest =>
    have hleaf : (Node.leaf hit).WellFormed options := trivial
    exact h.child hleaf rfl
  | nil =>
    refine ⟨h.stack, h.forest.addLoose hit, ?_⟩
    intro bundle hbundle
    rcases mem_addLoose hbundle with hbundle | ⟨hits, rfl⟩
    · exact h.settled bundle hbundle
    · rfl

/-- Ending the innermost span keeps the invariant if the ending is a sound one for it. -/
theorem pop_invariant {span : OpenSpan} {outer : List OpenSpan} {forest : List Bundle}
    (h : Invariant options ⟨span :: outer, forest⟩) {ending : Ending}
    (hsound : SpanSound options span.opening ending span.children)
    (hended : ending ≠ .unclosed) :
    Invariant options (pop ending ⟨span :: outer, forest⟩) := by
  obtain ⟨hstack, hforest, hsettled⟩ := h
  rw [List.forall_mem_cons] at hstack
  have houter : Invariant options ⟨outer, forest⟩ := ⟨hstack.2, hforest, hsettled⟩
  have hnode : (Node.span span.opening ending span.children).WellFormed options :=
    ⟨hsound, hstack.1.children⟩
  have hclosed : (Node.span span.opening ending span.children).unclosedCount = 0 := by
    rw [Node.unclosedCount, hsound.settled hended]
    cases ending with
    | unclosed => exact absurd rfl hended
    | closed last => rfl
    | expired => rfl
  cases outer with
  | nil => exact houter.bundle hnode hclosed
  | cons parent rest => exact houter.child hnode hclosed

/-! ## Spans that are too old -/

theorem staleCount_drop (limit now : Nat) (stack : List OpenSpan) :
    ∀ span ∈ stack.drop (staleCount limit now stack), isStale limit now span = false := by
  induction stack with
  | nil => simp
  | cons top rest ih =>
    intro span hspan
    rw [staleCount] at hspan
    -- Whether a span outside of this one is stale decides whether this one is looked at.
    split at hspan
    case h_1 hrest =>
      rw [hrest, List.drop_zero] at ih
      split at hspan
      case isTrue => exact ih span hspan
      case isFalse hfresh =>
        rcases List.mem_cons.1 hspan with rfl | hspan
        · simpa using hfresh
        · exact ih span hspan
    case h_2 n hrest =>
      rw [hrest] at ih
      exact ih span hspan

/-- No span that stays open when a hit arrives is older than the limit. -/
theorem expire_fresh {limit : Nat} (hlimit : options.staleAfter = some limit) (now : Nat)
    (state : Reconstruction) :
    ∀ span ∈ (expire options now state).stack, now - span.opening.start.ns ≤ limit := by
  intro span hspan
  have hmem := List.mem_map_of_mem (f := OpenSpan.opening) hspan
  rw [expire, popMany_openings, ← List.map_drop, expiring, hlimit] at hmem
  obtain ⟨before, hbefore, hopening⟩ := List.mem_map.1 hmem
  have hfresh := staleCount_drop limit now state.stack before hbefore
  rw [isStale, hopening] at hfresh
  simpa using hfresh

theorem expire_invariant {state : Reconstruction} (h : Invariant options state) (now : Nat) :
    Invariant options (expire options now state) := by
  cases hlimit : options.staleAfter with
  | none =>
    rw [expire, expiring, hlimit]
    exact h
  | some limit =>
    have hlimited : options.staleAfter.isSome := by simp [hlimit]
    apply popMany_keeps _ _ state h
    -- Only the innermost span is looked at: those around it are sound as they are.
    intro state h
    obtain ⟨stack, forest⟩ := state
    cases stack with
    | nil => exact h
    | cons span outer =>
      have hspan := h.stack span List.mem_cons_self
      exact pop_invariant h (.expired hspan.starts hspan.settled hlimited) (by simp)

/-! ## The step and the run -/

theorem take_invariant {state : Reconstruction} (h : Invariant options state) (hit : Hit)
    (hfresh : ∀ limit ∈ options.staleAfter, ∀ span ∈ state.stack,
      hit.ns - span.opening.start.ns ≤ limit) :
    Invariant options (take options hit state) := by
  rcases take_cases options hit state with
    ⟨root, hroot, htake⟩ | ⟨-, top, rest, hstack, hroot, hcounter, htake⟩ | ⟨-, -, htake⟩
  · rw [htake]
    have hopened : (opened options root hit).Sound options :=
      ⟨⟨(Delimiter.stem?_eq_some_iff ..).1 hroot, rfl⟩, trivial, rfl⟩
    exact ⟨List.forall_mem_cons.2 ⟨hopened, h.stack⟩, h.forest, h.settled⟩
  · rw [htake]
    obtain ⟨stack, forest⟩ := state
    cases hstack
    have htop := h.stack top List.mem_cons_self
    have hends : top.opening.ClosedBy options.counterArg hit :=
      ⟨(Delimiter.stem?_eq_some_iff ..).1 hroot, hcounter.symm⟩
    have htimely : ∀ limit ∈ options.staleAfter, hit.ns - top.opening.start.ns ≤ limit :=
      fun limit hlimit => hfresh limit hlimit top List.mem_cons_self
    exact pop_invariant h (.closed htop.starts htop.settled hends htimely) (by simp)
  · rw [htake]
    exact addLeaf_invariant h hit

theorem push_invariant {state : Reconstruction} (h : Invariant options state) (hit : Hit) :
    Invariant options (push options state hit) :=
  take_invariant (expire_invariant h hit.ns) hit
    fun _ hlimit => expire_fresh hlimit hit.ns state

theorem run_invariant (options : SpanOptions) (hits : List Hit) :
    Invariant options (run options hits) :=
  run_induction (P := fun _ state => Invariant options state) invariant_empty
    (fun _ _ hit h => push_invariant h hit) hits

/-! ## The open spans at the end -/

theorem nested_wellFormed {chain : List OpenSpan} (h : ∀ span ∈ chain, span.Sound options) :
    Node.AllWellFormed options (nested chain) := by
  induction chain with
  | nil => trivial
  | cons span inner ih =>
    rw [List.forall_mem_cons] at h
    have hinside : Node.AllWellFormed options (span.children ++ nested inner) :=
      (Node.allWellFormed_append ..).2 ⟨h.1.children, ih h.2⟩
    exact ⟨⟨.unclosed h.1.starts, hinside⟩, trivial⟩

/-- The nested spans are the open ones, each the last child of the one before. -/
theorem nested_chain {chain : List OpenSpan} (h : ∀ span ∈ chain, span.Sound options) :
    Node.lastChain (nested chain) = chain.map OpenSpan.opening ∧
      Node.unclosedAll (nested chain) = chain.length := by
  induction chain with
  | nil => exact ⟨rfl, rfl⟩
  | cons span inner ih =>
    rw [List.forall_mem_cons] at h
    obtain ⟨hchain, hcount⟩ := ih h.2
    -- Behind settled children comes the next open span, or nothing.
    have hlast : Node.lastChain (span.children ++ nested inner) = inner.map OpenSpan.opening := by
      cases inner with
      | nil =>
        rw [nested, List.append_nil]
        exact Node.lastChain_settled h.1.settled
      | cons next rest =>
        rw [nested] at hchain ⊢
        rw [Node.lastChain_concat]
        exact hchain
    constructor
    · simp [nested, Node.lastChain, Node.openChain, hlast]
    · simp only [nested, Node.unclosedAll, Node.unclosedCount, Node.unclosedAll_append,
        h.1.settled, hcount, Ending.isUnclosed, Bool.toNat_true, List.length_cons]
      omega

theorem openChain_settled {forest : List Bundle}
    (h : ∀ bundle ∈ forest, bundle.unclosedCount = 0) : openChain forest = [] := by
  obtain rfl | ⟨front, last, rfl⟩ := forest.eq_nil_or_concat'
  · rfl
  · have hlast := h last (by simp)
    rw [openChain, List.getLast?_concat]
    cases last with
    | loose hits => rfl
    | span opening ending children => exact Node.openChain_settled hlast

theorem finish_wellFormed {state : Reconstruction} (h : Invariant options state) :
    WellFormedForest options state.finish ∧
      openChain state.finish = state.stack.reverse.map OpenSpan.opening ∧
      (state.finish.map Bundle.unclosedCount).sum = state.stack.length := by
  obtain ⟨stack, forest⟩ := state
  have hstack : ∀ span ∈ stack.reverse, span.Sound options := by
    intro span hspan
    exact h.stack span (List.mem_reverse.1 hspan)
  have hwell := nested_wellFormed hstack
  obtain ⟨hchain, hcount⟩ := nested_chain hstack
  have hsettled : (forest.map Bundle.unclosedCount).sum = 0 := by
    rw [List.sum_eq_zero_iff_forall_eq_nat, List.forall_mem_map]
    exact h.settled
  rw [List.length_reverse] at hcount
  rw [finish_eq]
  cases hspans : stack.reverse with
  | nil =>
    rw [hspans] at hcount
    simp only [nested, List.map_nil, List.append_nil]
    exact ⟨h.forest, openChain_settled h.settled, hsettled.trans hcount⟩
  | cons span inner =>
    rw [hspans, nested] at hwell hchain hcount
    simp only [nested, List.map_cons, List.map_nil]
    refine ⟨(wellFormedForest_concat ..).2 ⟨h.forest, hwell.1, ?apart⟩, ?chain, ?count⟩
    case apart => simp [Bundle.Apart, Bundle.isLoose, Node.bundle]
    case chain =>
      rw [openChain, List.getLast?_concat]
      exact hchain
    case count =>
      rw [List.map_append, List.sum_append, hsettled, ← hcount]
      simp [Node.bundle, Bundle.unclosedCount, Node.unclosedAll]

end Reconstruction

/-- A reconstructed forest is well formed at every depth. What is open in it is one
chain from the last bundle down: the spans that were on the stack after the last hit,
the outermost first. -/
theorem reconstruct_wellFormed (hits : List Hit) (options : SpanOptions) :
    WellFormedForest options (reconstruct hits options) ∧
      openChain (reconstruct hits options) =
        (Reconstruction.run options hits).stack.reverse.map OpenSpan.opening ∧
      ((reconstruct hits options).map Bundle.unclosedCount).sum =
        (Reconstruction.run options hits).stack.length :=
  Reconstruction.finish_wellFormed (Reconstruction.run_invariant options hits)

end ProbeTrace
