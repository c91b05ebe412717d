import ProbeTrace.Span.Bundle
import ProbeTrace.Span.Delimiter

/-!
# Reconstructing spans

Hits are taken one by one. A start opens a span inside the innermost one that is
open; an end closes the innermost span if root and counter agree, and is an
ordinary hit else. When a span has been open for too long, it expires together
with everything inside it.
-/

set_option autoImplicit false

namespace ProbeTrace

structure SpanOptions where
  /-- The argument by which the end of a span is told from that of another. -/
  counterArg : String
  /-- Nanoseconds after which an open span expires. -/
  staleAfter : Option Nat
  deriving DecidableEq, Repr

namespace SpanOptions

def standardCounterArg : String := "count"

/-- A time limit in milliseconds, of which zero is none. -/
def staleAfterMs (ms : Nat) : Option Nat :=
  if ms = 0 then none else some (ms * 1000000)

/-- Spans are told apart by their count and never expire. -/
def standard : SpanOptions :=
  ⟨standardCounterArg, none⟩

end SpanOptions

/-- A span that has not ended, with what is inside it so far. -/
structure OpenSpan where
  opening : Opening
  children : List Node

/-- The open spans, the innermost first, and the bundles that are complete. -/
structure Reconstruction where
  stack : List OpenSpan
  forest : List Bundle

namespace Reconstruction

def empty : Reconstruction :=
  ⟨[], []⟩

/-- Whether spans are open, and how many lie in each other. -/
inductive Phase where
  | idle
  | building (depth : Nat)
  deriving DecidableEq, Repr

def Phase.depth : Phase → Nat
  | .idle => 0
  | .building depth => depth

def phase (state : Reconstruction) : Phase :=
  match state.stack.length with
  | 0 => .idle
  | depth => .building depth

/-- Puts a hit into the last bundle if that is a loose one, else into a new one. -/
def addLoose (hit : Hit) : List Bundle → List Bundle
  | [] => [.loose [hit]]
  | [.loose hits] => [.loose (hits ++ [hit])]
  | bundle :: rest => bundle :: addLoose hit rest

def addLeaf (hit : Hit) (state : Reconstruction) : Reconstruction :=
  match state.stack with
  | [] => { state with forest := addLoose hit state.forest }
  | top :: rest => { state with stack := ⟨top.opening, top.children ++ [.leaf hit]⟩ :: rest }

/-- Ends the innermost span and hands it to the one around it. -/
def pop (ending : Ending) (state : Reconstruction) : Reconstruction :=
  match state.stack with
  | [] => state
  | [span] => ⟨[], state.forest ++ [.span span.opening ending span.children]⟩
  | span :: parent :: rest =>
    ⟨⟨parent.opening, parent.children ++ [.span span.opening ending span.children]⟩ :: rest,
      state.forest⟩

/-- Ends so many spans, from the innermost outwards. -/
def popMany (ending : Ending) : Nat → Reconstruction → Reconstruction
  | 0, state => state
  | n + 1, state => popMany ending n (pop ending state)

/-- Whether a span has been open for too long at a time. -/
def isStale (staleAfter now : Nat) (span : OpenSpan) : Bool :=
  staleAfter < now - span.opening.start.ns

/-- How many spans expire: the outermost stale one and all inside it. -/
def staleCount (staleAfter now : Nat) : List OpenSpan → Nat
  | [] => 0
  | span :: rest =>
    match staleCount staleAfter now rest with
    | 0 => if isStale staleAfter now span then 1 else 0
    | n + 1 => n + 2

/-- How many of the open spans expire when a hit arrives at a time. -/
def expiring (options : SpanOptions) (now : Nat) (state : Reconstruction) : Nat :=
  match options.staleAfter with
  | none => 0
  | some staleAfter => staleCount staleAfter now state.stack

def expire (options : SpanOptions) (now : Nat) (state : Reconstruction) : Reconstruction :=
  popMany .expired (state.expiring options now) state

/-- Whether an end closes the innermost open span. -/
def closes (root : String) (counter : Option Int64) (state : Reconstruction) : Bool :=
  state.stack.head?.any fun top => top.opening.root = root ∧ top.opening.counter = counter

/-- Takes in a hit after the spans that are too old are gone. -/
def take (options : SpanOptions) (hit : Hit) (state : Reconstruction) : Reconstruction :=
  let counter := hit.argInt64? options.counterArg
  match Delimiter.startRoot? hit.probe with
  | some root => { state with stack := ⟨⟨root, counter, hit⟩, []⟩ :: state.stack }
  | none =>
    match Delimiter.endRoot? hit.probe with
    | some root =>
      if closes root counter state then pop (.closed hit) state else addLeaf hit state
    | none => addLeaf hit state

def push (options : SpanOptions) (state : Reconstruction) (hit : Hit) : Reconstruction :=
  take options hit (expire options hit.ns state)

def finish (state : Reconstruction) : List Bundle :=
  (popMany .unclosed state.stack.length state).forest

/-- The roots of the spans that expire when a hit arrives, the innermost first. -/
def expiredRoots (options : SpanOptions) (state : Reconstruction) (hit : Hit) : List String :=
  (state.stack.take (state.expiring options hit.ns)).map fun span => span.opening.root

/-- The roots of all spans that expire while hits are taken in. -/
def expiredFrom (options : SpanOptions) : Reconstruction → List Hit → List String
  | _, [] => []
  | state, hit :: rest =>
    expiredRoots options state hit ++ expiredFrom options (push options state hit) rest

end Reconstruction

def reconstruct (hits : List Hit) (options : SpanOptions) : List Bundle :=
  (hits.foldl (Reconstruction.push options) Reconstruction.empty).finish

/-- The roots of the spans that expire in the course of it, in order. -/
def expiredRoots (hits : List Hit) (options : SpanOptions) : List String :=
  Reconstruction.expiredFrom options Reconstruction.empty hits

end ProbeTrace
