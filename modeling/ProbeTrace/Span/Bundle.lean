import ProbeTrace.Hit

/-!
# Bundles

The hits of a thread as a forest. A span has a start, what happened inside it in
order, and the way it ended; hits outside of all spans are kept together in loose
bundles. Nothing is lost: `flatten` gives all hits back in order.
-/

set_option autoImplicit false

namespace ProbeTrace

/-- The hit that opened a span, with what its end has to agree with. -/
structure Opening where
  root : String
  counter : Option Int64
  start : Hit

inductive Ending where
  /-- Its end was seen. -/
  | closed (hit : Hit)
  /-- It was still open after the last hit. -/
  | unclosed
  /-- It was open for too long. -/
  | expired

namespace Ending

def hit? : Ending → Option Hit
  | .closed hit => some hit
  | .unclosed | .expired => none

def name : Ending → String
  | .closed _ => "Closed"
  | .unclosed => "Open"
  | .expired => "Expired"

def isUnclosed : Ending → Bool
  | .unclosed => true
  | .closed _ | .expired => false

end Ending

/-- What lies inside a span: single hits and other spans. -/
inductive Node where
  | leaf (hit : Hit)
  | span (opening : Opening) (ending : Ending) (children : List Node)

inductive Bundle where
  | loose (hits : List Hit)
  | span (opening : Opening) (ending : Ending) (children : List Node)

namespace Node

mutual
def flatten : Node → List Hit
  | .leaf hit => [hit]
  | .span opening ending children =>
    opening.start :: flattenAll children ++ ending.hit?.toList

def flattenAll : List Node → List Hit
  | [] => []
  | node :: rest => flatten node ++ flattenAll rest
end

mutual
/-- Levels of spans at and below a node; none for a single hit. -/
def depth : Node → Nat
  | .leaf _ => 0
  | .span _ _ children => 1 + depthAll children

def depthAll : List Node → Nat
  | [] => 0
  | node :: rest => max (depth node) (depthAll rest)
end

mutual
/-- Spans at and below a node that were still open after the last hit. -/
def unclosedCount : Node → Nat
  | .leaf _ => 0
  | .span _ ending children => ending.isUnclosed.toNat + unclosedAll children

def unclosedAll : List Node → Nat
  | [] => 0
  | node :: rest => unclosedCount node + unclosedAll rest
end

mutual
/-- Hits at and below a node, those that delimit spans included. -/
def hitCount : Node → Nat
  | .leaf _ => 1
  | .span _ ending children => 1 + ending.hit?.toList.length + hitCountAll children

def hitCountAll : List Node → Nat
  | [] => 0
  | node :: rest => hitCount node + hitCountAll rest
end

def isLeaf : Node → Bool
  | .leaf _ => true
  | .span _ _ _ => false

mutual
theorem hitCount_eq : (node : Node) → node.hitCount = node.flatten.length
  | .leaf _ => rfl
  | .span _ ending children => by
    simp only [hitCount, flatten, List.cons_append, List.length_cons, List.length_append,
      hitCountAll_eq children]
    omega

theorem hitCountAll_eq : (nodes : List Node) → hitCountAll nodes = (flattenAll nodes).length
  | [] => rfl
  | node :: rest => by
    simp [hitCountAll, flattenAll, hitCount_eq node, hitCountAll_eq rest]
end

theorem flattenAll_append (a b : List Node) :
    flattenAll (a ++ b) = flattenAll a ++ flattenAll b := by
  induction a with
  | nil => rfl
  | cons node rest ih => simp [flattenAll, ih]

end Node

/-- Time from a start to the end of a span, if its end was seen. -/
def Opening.duration? (opening : Opening) (ending : Ending) : Option Nat :=
  ending.hit?.map fun last => last.ns - opening.start.ns

namespace Bundle

def children : Bundle → List Node
  | .loose hits => hits.map Node.leaf
  | .span _ _ children => children

def flatten : Bundle → List Hit
  | .loose hits => hits
  | .span opening ending children => (Node.span opening ending children).flatten

/-- Levels of nesting; one for a bundle without spans inside. -/
def depth : Bundle → Nat
  | .loose _ => 1
  | .span opening ending children => (Node.span opening ending children).depth

def unclosedCount : Bundle → Nat
  | .loose _ => 0
  | .span opening ending children => (Node.span opening ending children).unclosedCount

def hitCount : Bundle → Nat
  | .loose hits => hits.length
  | .span opening ending children => (Node.span opening ending children).hitCount

def duration? : Bundle → Option Nat
  | .loose _ => none
  | .span opening ending _ => opening.duration? ending

theorem hitCount_eq (bundle : Bundle) : bundle.hitCount = bundle.flatten.length := by
  cases bundle with
  | loose hits => rfl
  | span opening ending children => exact Node.hitCount_eq _

end Bundle
end ProbeTrace
