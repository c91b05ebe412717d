import ProbeTrace.Proofs.History.StableSort
import ProbeTrace.Proofs.Span.Inversion
import ProbeTrace.Proofs.Span.Lapse

/-!
# Cuts at the time limit

On hits in order of time the outermost open span is the oldest, so the spans expire all
at once or not at all. A time limit then cuts the hits into segments, and each of them
gives the forest that it would give alone and without a limit.
-/

set_option autoImplicit false

namespace ProbeTrace

open ThreadHistory (Chronological)

namespace Reconstruction

/-- Whether the outermost open span has been open for longer than the limit. -/
def overdue (limit now : Nat) (state : Reconstruction) : Bool :=
  state.stack.getLast?.any fun outermost => outermost.opening.start.ns + limit < now

/-! ## Times of open spans -/

/-- The times at which the open spans began, the innermost first. -/
def starts (state : Reconstruction) : List Nat :=
  state.stack.map fun span => span.opening.start.ns

theorem starts_eq (state : Reconstruction) :
    state.starts = (state.stack.map OpenSpan.opening).map fun opening => opening.start.ns := by
  rw [starts, List.map_map]
  rfl

theorem popMany_starts (ending : Ending) (n : Nat) (state : Reconstruction) :
    (popMany ending n state).starts = state.starts.drop n := by
  rw [starts_eq, starts_eq, popMany_openings, List.map_drop]

/-- An inner span did not begin before one around it, and none after the given time. -/
def Ordered (now : Nat) (state : Reconstruction) : Prop :=
  (now :: state.starts).Pairwise fun later earlier => earlier ≤ later

theorem ordered_empty (now : Nat) : Ordered now empty :=
  List.pairwise_singleton ..

variable {now : Nat} {state : Reconstruction}

theorem Ordered.later (h : Ordered now state) {after : Nat} (hle : now ≤ after) :
    Ordered after state := by
  rw [Ordered, List.pairwise_cons] at h ⊢
  exact ⟨fun start hstart => Nat.le_trans (h.1 start hstart) hle, h.2⟩

theorem Ordered.popMany (h : Ordered now state) (ending : Ending) (n : Nat) :
    Ordered now (popMany ending n state) := by
  rw [Ordered, popMany_starts]
  exact h.sublist ((List.drop_sublist n state.starts).cons_cons now)

theorem Ordered.take {hit : Hit} (h : Ordered hit.ns state) (options : SpanOptions) :
    Ordered hit.ns (take options hit state) := by
  rcases take_cases options hit state with
    ⟨root, -, htake⟩ | ⟨-, top, rest, -, -, -, htake⟩ | ⟨-, -, htake⟩
  · rw [htake]
    exact List.pairwise_cons.2 ⟨by
      intro start hstart
      rcases List.mem_cons.1 hstart with rfl | hstart
      · exact Nat.le_refl _
      · exact (List.pairwise_cons.1 h).1 start hstart, h⟩
  · rw [htake]
    exact h.popMany (.closed hit) 1
  · rw [htake]
    obtain ⟨stack, forest⟩ := state
    cases stack with
    | nil => exact h
    | cons top rest => exact h

theorem Ordered.push (h : Ordered now state) (options : SpanOptions) {hit : Hit}
    (hle : now ≤ hit.ns) : Ordered hit.ns (push options state hit) :=
  ((h.later hle).popMany .expired _).take options

theorem run_ordered (options : SpanOptions) {hits : List Hit} {hit : Hit}
    (h : Chronological (hits ++ [hit])) : Ordered hit.ns (run options hits) := by
  induction hits using List.reverseRecOn generalizing hit with
  | nil => exact ordered_empty hit.ns
  | append_singleton hits before ih =>
    obtain ⟨hbefore, -, hlast⟩ := List.pairwise_append.1 h
    rw [run_append_singleton]
    exact ((ih hbefore).push options (Nat.le_refl _)).later
      (hlast before (by simp) hit (by simp))

/-- If the outermost span is in time, so are those inside it. -/
theorem staleCount_eq (limit : Nat) {stack : List OpenSpan} {forest : List Bundle}
    (h : Ordered now ⟨stack, forest⟩) :
    staleCount limit now stack = if overdue limit now ⟨stack, forest⟩ then stack.length else 0 := by
  induction stack with
  | nil => rfl
  | cons span outer ih =>
    have hstale : isStale limit now span = decide (span.opening.start.ns + limit < now) := by
      rw [isStale]
      exact decide_eq_decide.2 (by omega)
    cases outer with
    | nil =>
      rw [staleCount, staleCount, hstale]
      simp [overdue]
    | cons next rest =>
      have houter : Ordered now ⟨next :: rest, forest⟩ :=
        h.sublist ((List.sublist_cons_self ..).cons_cons now)
      have hsame : overdue limit now ⟨span :: next :: rest, forest⟩ =
          overdue limit now ⟨next :: rest, forest⟩ := by
        rw [overdue, overdue, List.getLast?_cons_cons]
      rw [staleCount, ih houter, hsame]
      cases hdue : overdue limit now ⟨next :: rest, forest⟩ with
      | true => rfl
      | false =>
        -- this span began no earlier than the outermost one, which is in time
        obtain ⟨outermost, hlast⟩ : ∃ outermost, (next :: rest).getLast? = some outermost :=
          ⟨_, List.getLast?_cons⟩
        have hfresh : ¬ outermost.opening.start.ns + limit < now := by
          simpa [overdue, hlast] using hdue
        have hbegan : outermost.opening.start.ns ≤ span.opening.start.ns := by
          have hspan := (List.pairwise_cons.1 (List.pairwise_cons.1 h).2).1
          exact hspan _ (List.mem_map_of_mem (List.mem_of_getLast? hlast))
        have hin : ¬ span.opening.start.ns + limit < now := by omega
        simp [hstale, hin]

/-- When a hit arrives, the spans expire all together if the outermost one is overdue, and
none of them else. -/
theorem expiring_eq {counterArg : String} {limit : Nat} (h : Ordered now state) :
    state.expiring ⟨counterArg, some limit⟩ now =
      if overdue limit now state then state.stack.length else 0 :=
  staleCount_eq limit h

/-- A forest that is left with open spans ends in a span. -/
theorem finish_sealed {state : Reconstruction} (h : state.stack ≠ []) : Sealed state.finish := by
  obtain ⟨stack, forest⟩ := state
  have hreverse : stack.reverse ≠ [] := by simpa using h
  obtain ⟨span, inner, hspans⟩ := List.exists_cons_of_ne_nil hreverse
  intro last hlast
  rw [finish_eq, hspans, nested, List.map_singleton, List.getLast?_concat] at hlast
  cases hlast
  rfl

end Reconstruction

/-! ## Segments -/

/-- Hits cut into segments: those that were ended by a cut, and the one that goes on. -/
structure Segments where
  ended : List (List Hit)
  current : List Hit

namespace Segments

open Reconstruction

/-- Adds a hit, in a new segment if it comes when the outermost open span is overdue. -/
def add (limit : Nat) (state : Reconstruction) (segments : Segments) (hit : Hit) : Segments :=
  if overdue limit hit.ns state then ⟨segments.ended ++ [segments.current], [hit]⟩
  else ⟨segments.ended, segments.current ++ [hit]⟩

/-- Cuts the hits to come, the open spans being those of a state. -/
def addAll (counterArg : String) (limit : Nat) :
    Reconstruction → Segments → List Hit → Segments
  | _, segments, [] => segments
  | state, segments, hit :: rest =>
    addAll counterArg limit (push ⟨counterArg, some limit⟩ state hit)
      (segments.add limit state hit) rest

/-- Cuts hits before each that finds the outermost open span older than the limit. -/
def ofHits (counterArg : String) (limit : Nat) (hits : List Hit) : Segments :=
  addAll counterArg limit empty ⟨[], []⟩ hits

def hits (segments : Segments) : List Hit :=
  segments.ended.flatten ++ segments.current

/-- What segments leave behind, each without a time limit, if what was open at their end
has expired. -/
def lapsed (counterArg : String) (ended : List (List Hit)) : List Bundle :=
  ended.flatMap fun hits => (reconstruct hits ⟨counterArg, none⟩).map Bundle.lapse

/-- The forests of the segments one after the other. Only the last is at the end of the hits,
so only there spans are open. -/
def forest (counterArg : String) (segments : Segments) : List Bundle :=
  lapsed counterArg segments.ended ++ reconstruct segments.current ⟨counterArg, none⟩

variable {counterArg : String} {limit : Nat}

theorem add_hits (state : Reconstruction) (segments : Segments) (hit : Hit) :
    (segments.add limit state hit).hits = segments.hits ++ [hit] := by
  rw [add]
  split
  · simp [hits]
  · simp [hits]

theorem addAll_hits (state : Reconstruction) (segments : Segments) (rest : List Hit) :
    (addAll counterArg limit state segments rest).hits = segments.hits ++ rest := by
  induction rest generalizing state segments with
  | nil => exact (List.append_nil _).symm
  | cons hit rest ih => rw [addAll, ih, add_hits, List.append_assoc, List.singleton_append]

theorem lapsed_concat (ended : List (List Hit)) (hits : List Hit) :
    lapsed counterArg (ended ++ [hits]) =
      lapsed counterArg ended ++ (reconstruct hits ⟨counterArg, none⟩).map Bundle.lapse := by
  rw [lapsed, List.flatMap_append, List.flatMap_singleton]
  rfl

theorem lapsed_sealed {ended : List (List Hit)} (h : Sealed (lapsed counterArg ended))
    {hits : List Hit} (hopen : (run ⟨counterArg, none⟩ hits).stack ≠ []) :
    Sealed (lapsed counterArg (ended ++ [hits])) := by
  intro last hlast
  rw [lapsed_concat, List.getLast?_append, List.getLast?_map] at hlast
  rcases Option.or_eq_some_iff.1 hlast with hhere | ⟨-, hbefore⟩
  · obtain ⟨bundle, hbundle, rfl⟩ := Option.map_eq_some_iff.1 hhere
    rw [Bundle.lapse_isLoose]
    exact finish_sealed hopen bundle hbundle
  · exact h last hbefore

/-- With a limit the state is that of the current segment without one, behind what the
segments before it have left. -/
structure Simulates (counterArg : String) (state : Reconstruction) (segments : Segments) :
    Prop where
  state_eq : state = (run ⟨counterArg, none⟩ segments.current).behind
    (lapsed counterArg segments.ended)
  closed : Sealed (lapsed counterArg segments.ended)

theorem simulates_empty : Simulates counterArg empty ⟨[], []⟩ where
  state_eq := rfl
  closed := nofun

/-- One hit keeps the simulation: where nothing expires it goes on in the same segment, and
where everything does the next segment begins. -/
theorem Simulates.push {state : Reconstruction} {segments : Segments} {hit : Hit}
    (h : Simulates counterArg state segments) (hordered : Ordered hit.ns state) :
    Simulates counterArg (push ⟨counterArg, some limit⟩ state hit)
      (segments.add limit state hit) := by
  obtain ⟨hstate, hsealed⟩ := h
  have hexpiring : state.expiring ⟨counterArg, some limit⟩ hit.ns =
      if overdue limit hit.ns state then state.stack.length else 0 := expiring_eq hordered
  rw [add, Reconstruction.push, expire, hexpiring]
  cases hdue : overdue limit hit.ns state with
  | false =>
    refine ⟨?_, hsealed⟩
    change take ⟨counterArg, none⟩ hit state =
      (run ⟨counterArg, none⟩ (segments.current ++ [hit])).behind _
    rw [run_append_singleton, hstate]
    exact take_behind _ hit hsealed _
  | true =>
    have hopen : (run ⟨counterArg, none⟩ segments.current).stack ≠ [] := by
      rintro hnone
      rw [hstate, overdue, behind, hnone] at hdue
      cases hdue
    have hnext := lapsed_sealed hsealed hopen
    refine ⟨?_, hnext⟩
    have hempty : popMany .expired state.stack.length state =
        empty.behind (lapsed counterArg (segments.ended ++ [segments.current])) := by
      have hall := popMany_expired (run_invariant ⟨counterArg, none⟩ segments.current)
      rw [hstate, popMany_behind]
      change (popMany .expired (run ⟨counterArg, none⟩ segments.current).stack.length
        (run ⟨counterArg, none⟩ segments.current)).behind _ = _
      rw [hall, lapsed_concat, behind, behind, empty, List.append_nil]
      rfl
    change take ⟨counterArg, none⟩ hit (popMany .expired state.stack.length state) = _
    rw [hempty, take_behind _ hit hnext]
    rfl

theorem Simulates.pushAll {state : Reconstruction} {segments : Segments} {now : Nat}
    {rest : List Hit} (h : Simulates counterArg state segments) (hordered : Ordered now state)
    (hrest : Chronological rest) (hlater : ∀ hit ∈ rest, now ≤ hit.ns) :
    Simulates counterArg (rest.foldl (Reconstruction.push ⟨counterArg, some limit⟩) state)
      (addAll counterArg limit state segments rest) := by
  induction rest generalizing state segments now with
  | nil => exact h
  | cons hit rest ih =>
    rw [List.forall_mem_cons] at hlater
    obtain ⟨hafter, hchronological⟩ := List.pairwise_cons.1 hrest
    exact ih (h.push (hordered.later hlater.1)) (hordered.push _ hlater.1) hchronological hafter

theorem forest_expiredOutside (segments : Segments) :
    ∀ bundle ∈ segments.forest counterArg, bundle.ExpiredOutside := by
  intro bundle hbundle
  rcases List.mem_append.1 hbundle with hended | hcurrent
  · obtain ⟨hits, -, hlapsed⟩ := List.mem_flatMap.1 hended
    obtain ⟨before, hbefore, rfl⟩ := List.mem_map.1 hlapsed
    have hwell := (Reconstruction.finish_wellFormed
      (Reconstruction.run_invariant ⟨counterArg, none⟩ hits)).1
    exact Bundle.lapse_expiredOutside (hwell.bundles before hbefore)
  · have hwell := (Reconstruction.finish_wellFormed
      (Reconstruction.run_invariant ⟨counterArg, none⟩ segments.current)).1
    exact Bundle.expiredOutside_unlimited (hwell.bundles bundle hcurrent)

end Segments

open Reconstruction in
/-- On hits in order of time a time limit only cuts. The forest is that of the segments, each
made without a limit, one after the other, and what a cut found open has expired. At a cut
all spans expire, elsewhere none, and no span that has expired lies in one that has not. -/
theorem reconstruct_cut {hits : List Hit} (h : Chronological hits) (counterArg : String)
    (limit : Nat) :
    let segments := Segments.ofHits counterArg limit hits
    segments.hits = hits ∧
    reconstruct hits ⟨counterArg, some limit⟩ =
      segments.ended.flatMap
          (fun segment => (reconstruct segment ⟨counterArg, none⟩).map Bundle.lapse) ++
        reconstruct segments.current ⟨counterArg, none⟩ ∧
    (∀ before hit after, hits = before ++ hit :: after →
      let state := run ⟨counterArg, some limit⟩ before
      (overdue limit hit.ns state = true →
        (expire ⟨counterArg, some limit⟩ hit.ns state).stack = []) ∧
      (overdue limit hit.ns state = false →
        expire ⟨counterArg, some limit⟩ hit.ns state = state)) ∧
    ∀ bundle ∈ reconstruct hits ⟨counterArg, some limit⟩, bundle.ExpiredOutside := by
  intro segments
  have hsimulates : Segments.Simulates counterArg
      (hits.foldl (push ⟨counterArg, some limit⟩) empty) segments :=
    Segments.simulates_empty.pushAll (ordered_empty 0) h fun _ _ => Nat.zero_le _
  have hforest : reconstruct hits ⟨counterArg, some limit⟩ = segments.forest counterArg := by
    rw [reconstruct, hsimulates.state_eq, finish_behind]
    rfl
  refine ⟨Segments.addAll_hits .., hforest, ?expiry, ?nesting⟩
  case expiry =>
    rintro before hit after rfl state
    have hprefix : Chronological (before ++ [hit]) := by
      refine List.Pairwise.sublist ?_ h
      simp
    have hexpiring : state.expiring ⟨counterArg, some limit⟩ hit.ns =
        if overdue limit hit.ns state then state.stack.length else 0 :=
      expiring_eq (run_ordered _ hprefix)
    rw [expire, hexpiring]
    constructor
    · intro hdue
      rw [if_pos hdue]
      exact popMany_all .expired state
    · intro hdue
      rw [hdue]
      rfl
  case nesting =>
    rw [hforest]
    exact segments.forest_expiredOutside

/-- Two spans in each other that are cut off with what ended inside them, and one that begins
at the cut and stays open. -/
def interrupted : List Hit :=
  [countedHit "x" 0 none, countedHit "a_start" 10 (some 1), countedHit "b_start" 20 none,
    countedHit "c_start" 30 none, countedHit "c_end" 110 none, countedHit "d_start" 120 none,
    countedHit "b_end" 130 none]

theorem reconstruct_interrupted :
    Chronological interrupted ∧
      reconstruct interrupted ⟨"count", some 100⟩ =
        (reconstruct (interrupted.take 5) ⟨"count", none⟩).map Bundle.lapse ++
          reconstruct (interrupted.drop 5) ⟨"count", none⟩ ∧
      (reconstruct interrupted ⟨"count", some 100⟩).map Bundle.hitCount = [1, 4, 2] ∧
      ∀ bundle ∈ reconstruct interrupted ⟨"count", some 100⟩, bundle.ExpiredOutside := by
  have hchronological : Chronological interrupted := by
    simp [Chronological, interrupted, countedHit]
  have hsegments : Segments.ofHits "count" 100 interrupted =
      ⟨[interrupted.take 5], interrupted.drop 5⟩ := rfl
  obtain ⟨-, hforest, -, hnesting⟩ := reconstruct_cut hchronological "count" 100
  rw [hsegments, List.flatMap_singleton] at hforest
  exact ⟨hchronological, hforest, by decide, hnesting⟩

end ProbeTrace
