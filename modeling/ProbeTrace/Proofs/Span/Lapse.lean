import ProbeTrace.Proofs.Span.WellFormed

/-!
# Lapsed spans

When every open span expires at once, the forest is the one that the end of the hits
would have left, with expired in place of open. Nothing has expired where there is no
time limit, so after a lapse expired spans lie in expired spans only.
-/

set_option autoImplicit false

namespace ProbeTrace

namespace Ending

/-- An ending after the time limit: what was open has expired. -/
def lapse : Ending → Ending
  | .unclosed => .expired
  | .closed hit => .closed hit
  | .expired => .expired

def isExpired : Ending → Bool
  | .expired => true
  | .closed _ | .unclosed => false

end Ending

namespace Node

mutual
/-- The node with every open span in it expired. -/
def lapse : Node → Node
  | .leaf hit => .leaf hit
  | .span opening ending children => .span opening ending.lapse (lapseAll children)

def lapseAll : List Node → List Node
  | [] => []
  | node :: rest => lapse node :: lapseAll rest
end

mutual
/-- Spans at and below a node that have expired. -/
def expiredCount : Node → Nat
  | .leaf _ => 0
  | .span _ ending children => ending.isExpired.toNat + expiredAll children

def expiredAll : List Node → Nat
  | [] => 0
  | node :: rest => expiredCount node + expiredAll rest
end

mutual
/-- No span below one that has not expired has expired. -/
def ExpiredOutside : Node → Prop
  | .leaf _ => True
  | .span _ ending children =>
    (ending.isExpired = false → expiredAll children = 0) ∧ AllExpiredOutside children

def AllExpiredOutside : List Node → Prop
  | [] => True
  | node :: rest => ExpiredOutside node ∧ AllExpiredOutside rest
end

theorem lapseAll_append (a b : List Node) : lapseAll (a ++ b) = lapseAll a ++ lapseAll b := by
  induction a with
  | nil => rfl
  | cons node rest ih => simp only [List.cons_append, lapseAll, ih]

mutual
theorem lapse_settled : (node : Node) → node.unclosedCount = 0 → node.lapse = node
  | .leaf _, _ => rfl
  | .span opening ending children, h => by
    rw [unclosedCount] at h
    have hending : ending.lapse = ending := by
      cases ending with
      | unclosed => simp [Ending.isUnclosed] at h
      | closed last => rfl
      | expired => rfl
    rw [lapse, hending, lapseAll_settled children (by omega)]

theorem lapseAll_settled : (nodes : List Node) → unclosedAll nodes = 0 → lapseAll nodes = nodes
  | [], _ => rfl
  | node :: rest, h => by
    rw [unclosedAll] at h
    rw [lapseAll, lapse_settled node (by omega), lapseAll_settled rest (by omega)]
end

/-! ## Expired spans -/

mutual
theorem expiredCount_unlimited {counterArg : String} : (node : Node) →
    node.WellFormed ⟨counterArg, none⟩ → node.expiredCount = 0
  | .leaf _, _ => rfl
  | .span opening ending children, ⟨hspan, hchildren⟩ => by
    have hending : ending.isExpired = false := by
      cases ending with
      | expired => exact absurd (hspan.expires rfl) Bool.false_ne_true
      | closed last => rfl
      | unclosed => rfl
    rw [expiredCount, hending, expiredAll_unlimited children hchildren]
    rfl

theorem expiredAll_unlimited {counterArg : String} : (nodes : List Node) →
    AllWellFormed ⟨counterArg, none⟩ nodes → expiredAll nodes = 0
  | [], _ => rfl
  | node :: rest, ⟨hnode, hrest⟩ => by
    rw [expiredAll, expiredCount_unlimited node hnode, expiredAll_unlimited rest hrest]
end

mutual
theorem expiredOutside_of_none : (node : Node) → node.expiredCount = 0 → node.ExpiredOutside
  | .leaf _, _ => trivial
  | .span opening ending children, h => by
    rw [expiredCount] at h
    have hchildren : expiredAll children = 0 := by omega
    exact ⟨fun _ => hchildren, allExpiredOutside_of_none children hchildren⟩

theorem allExpiredOutside_of_none : (nodes : List Node) → expiredAll nodes = 0 →
    AllExpiredOutside nodes
  | [], _ => trivial
  | node :: rest, h => by
    rw [expiredAll] at h
    exact ⟨expiredOutside_of_none node (by omega), allExpiredOutside_of_none rest (by omega)⟩
end

mutual
/-- A span that was closed has nothing open in it, so nothing in it lapses. -/
theorem lapse_expiredOutside {counterArg : String} : (node : Node) →
    node.WellFormed ⟨counterArg, none⟩ → node.lapse.ExpiredOutside
  | .leaf _, _ => trivial
  | .span opening ending children, ⟨hspan, hchildren⟩ => by
    refine ⟨?_, lapseAll_expiredOutside children hchildren⟩
    intro hending
    cases ending with
    | unclosed => cases hending
    | expired => cases hending
    | closed last =>
      rw [lapseAll_settled children (hspan.settled (by simp))]
      exact expiredAll_unlimited children hchildren

theorem lapseAll_expiredOutside {counterArg : String} : (nodes : List Node) →
    AllWellFormed ⟨counterArg, none⟩ nodes → AllExpiredOutside (lapseAll nodes)
  | [], _ => trivial
  | node :: rest, ⟨hnode, hrest⟩ =>
    ⟨lapse_expiredOutside node hnode, lapseAll_expiredOutside rest hrest⟩
end

end Node

namespace Bundle

/-- The bundle with every open span in it expired. -/
def lapse : Bundle → Bundle
  | .loose hits => .loose hits
  | .span opening ending children => .span opening ending.lapse (Node.lapseAll children)

def ExpiredOutside : Bundle → Prop
  | .loose _ => True
  | .span opening ending children => Node.ExpiredOutside (.span opening ending children)

theorem lapse_isLoose (bundle : Bundle) : bundle.lapse.isLoose = bundle.isLoose := by
  cases bundle <;> rfl

theorem lapse_settled {bundle : Bundle} (h : bundle.unclosedCount = 0) : bundle.lapse = bundle := by
  cases bundle with
  | loose hits => rfl
  | span opening ending children =>
    obtain ⟨-, hending, hchildren⟩ := Node.span.inj (Node.lapse_settled _ h)
    rw [lapse, hending, hchildren]

variable {counterArg : String} {bundle : Bundle}

theorem lapse_expiredOutside (h : bundle.WellFormed ⟨counterArg, none⟩) :
    bundle.lapse.ExpiredOutside := by
  cases bundle with
  | loose hits => trivial
  | span opening ending children => exact Node.lapse_expiredOutside _ h

theorem expiredOutside_unlimited (h : bundle.WellFormed ⟨counterArg, none⟩) :
    bundle.ExpiredOutside := by
  cases bundle with
  | loose hits => trivial
  | span opening ending children =>
    exact Node.expiredOutside_of_none _ (Node.expiredCount_unlimited _ h)

end Bundle

namespace Reconstruction

/-- The state with every open span in what is complete expired. -/
def lapse (state : Reconstruction) : Reconstruction :=
  ⟨state.stack.map fun span => ⟨span.opening, Node.lapseAll span.children⟩,
    state.forest.map Bundle.lapse⟩

theorem pop_lapse (state : Reconstruction) :
    pop .expired state.lapse = (pop .unclosed state).lapse := by
  obtain ⟨stack, forest⟩ := state
  cases stack with
  | nil => rfl
  | cons span outer =>
    cases outer with
    | nil => simp [pop, lapse, Bundle.lapse, Ending.lapse]
    | cons parent rest =>
      simp [pop, lapse, Node.lapseAll_append, Node.lapseAll, Node.lapse, Ending.lapse]

theorem popMany_lapse (n : Nat) (state : Reconstruction) :
    popMany .expired n state.lapse = (popMany .unclosed n state).lapse := by
  induction n generalizing state with
  | zero => rfl
  | succ n ih => rw [popMany, popMany, pop_lapse, ih]

theorem Invariant.lapse_eq {options : SpanOptions} {state : Reconstruction}
    (h : Invariant options state) : state.lapse = state := by
  have hstack : (state.stack.map fun span : OpenSpan =>
      (⟨span.opening, Node.lapseAll span.children⟩ : OpenSpan)) = state.stack := by
    conv => rhs; rw [← List.map_id state.stack]
    apply List.map_congr_left
    intro span hspan
    rw [Node.lapseAll_settled _ (h.stack span hspan).settled]
    rfl
  have hforest : state.forest.map Bundle.lapse = state.forest := by
    conv => rhs; rw [← List.map_id state.forest]
    apply List.map_congr_left
    intro bundle hbundle
    exact Bundle.lapse_settled (h.settled bundle hbundle)
  rw [lapse, hstack, hforest]

/-- If all spans expire, the forest is what would be left at the end, with expired in place
of open. -/
theorem popMany_expired {options : SpanOptions} {state : Reconstruction}
    (h : Invariant options state) :
    popMany .expired state.stack.length state = ⟨[], state.finish.map Bundle.lapse⟩ := by
  have hempty := popMany_all .unclosed state
  conv => lhs; rw [← h.lapse_eq]
  rw [lapse, List.length_map, ← lapse, popMany_lapse, lapse, hempty]
  rfl

end Reconstruction
end ProbeTrace
