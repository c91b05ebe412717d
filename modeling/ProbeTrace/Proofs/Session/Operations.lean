import Mathlib.Data.List.SplitBy
import ProbeTrace.Proofs.Operation
import ProbeTrace.Proofs.Session.Events

/-!
# Operations of a session

Every hit with a handle is filed under the operation of that handle which is
under way. A closing hit completes the operation, and the next hit with the
handle begins another one. So the operations of a handle are the hits that carry
it, cut behind each closing hit.
-/

set_option autoImplicit false

namespace ProbeTrace.Session

open Arena Operation

/-- Whether a hit completes an operation. -/
def completes (key : String) (closeOn : List String) (hit : Hit) : Bool :=
  (hit.handle? key).isSome ∧ hit.probe ∈ closeOn

variable {closeOn : List String} {arena : Arena}

/-- The whole effect of a hit on the operations. -/
theorem correlated_cases (h : arena.Sound closeOn) (hit : Hit) :
    (hit.handle? arena.key = none ∧ correlated closeOn hit arena = (arena, none)) ∨
    (∃ handle, hit.handle? arena.key = some handle ∧ hit.probe ∉ closeOn ∧
      correlated closeOn hit arena = (arena.record handle hit, none)) ∨
    (∃ handle, hit.handle? arena.key = some handle ∧ hit.probe ∈ closeOn ∧
      correlated closeOn hit arena =
        ((arena.record handle hit).erase handle, some (arena.joined handle hit))) := by
  cases hhandle : hit.handle? arena.key with
  | none => exact .inl ⟨rfl, by simp [correlated, handle?_eq, hhandle]⟩
  | some handle =>
    by_cases hclose : hit.probe ∈ closeOn
    · have hfiled : (arena.record handle hit).get? handle = some (arena.joined handle hit) := by
        rw [h.get?_record, if_pos rfl]
      exact .inr (.inr ⟨handle, rfl, hclose,
        by simp [correlated, handle?_eq, hhandle, hclose, hfiled]⟩)
    · exact .inr (.inl ⟨handle, rfl, hclose,
        by simp [correlated, handle?_eq, hhandle, hclose]⟩)

theorem correlated_key (h : arena.Sound closeOn) (hit : Hit) :
    (correlated closeOn hit arena).1.key = arena.key := by
  rcases correlated_cases h hit with ⟨-, heq⟩ | ⟨handle, -, -, heq⟩ | ⟨handle, -, -, heq⟩ <;>
    rw [heq] <;> rfl

theorem correlated_sound (h : arena.Sound closeOn) (hit : Hit) :
    (correlated closeOn hit arena).1.Sound closeOn := by
  rcases correlated_cases h hit with ⟨-, heq⟩ | ⟨handle, -, hopen, heq⟩ | ⟨handle, -, -, heq⟩
  · rw [heq]
    exact h
  · rw [heq]
    exact h.record hopen
  · rw [heq]
    exact h.complete handle hit

/-- A hit goes behind the pending ones of its handle, and what it completes leaves them. -/
theorem correlated_pending (h : arena.Sound closeOn) (hit : Hit) (other : UInt64) :
    hitsUnder other (correlated closeOn hit arena).2.toList ++
        (correlated closeOn hit arena).1.pending other =
      arena.pending other ++ ofHandle arena.key other [hit] := by
  rcases correlated_cases h hit with ⟨hnone, heq⟩ | ⟨handle, hsome, -, heq⟩ |
    ⟨handle, hsome, -, heq⟩
  · simp [heq, hitsUnder, ofHandle, hnone]
  · by_cases hother : handle = other
    · simp [heq, hitsUnder, ofHandle, hsome, hother, pending, h.get?_record, joined_hits]
    · simp [heq, hitsUnder, ofHandle, hsome, hother, pending, h.get?_record]
  · by_cases hother : handle = other
    · subst hother
      simp [heq, hitsUnder, ofHandle, hsome, h.joined_handle, joined_hits, pending, get?_erase]
    · simp [heq, hitsUnder, ofHandle, hsome, hother, h.joined_handle, pending, get?_erase,
        h.get?_record]

theorem correlated_last (h : arena.Sound closeOn) (hit : Hit) :
    (correlated closeOn hit arena).2.toList.map last =
      [hit].filter (completes arena.key closeOn) := by
  rcases correlated_cases h hit with ⟨hnone, heq⟩ | ⟨handle, hsome, hopen, heq⟩ |
    ⟨handle, hsome, hclose, heq⟩
  · simp [heq, completes, hnone]
  · simp [heq, completes, hopen]
  · simp [heq, completes, hsome, hclose, joined_last]

theorem correlated_earlier (h : arena.Sound closeOn) (hit : Hit) :
    ∀ operation ∈ (correlated closeOn hit arena).2,
      ∀ earlier ∈ operation.hits.dropLast, earlier.probe ∉ closeOn := by
  rcases correlated_cases h hit with ⟨-, heq⟩ | ⟨handle, -, -, heq⟩ | ⟨handle, -, -, heq⟩
  · simp [heq]
  · simp [heq]
  · intro operation hoperation earlier hearlier
    rw [heq, Option.mem_some_iff] at hoperation
    subst hoperation
    rw [joined_hits, List.dropLast_concat] at hearlier
    exact h.pending_unclosed handle earlier hearlier

/-- The arena after some hits, and the operations that they complete, in order. -/
def correlateAll (closeOn : List String) : Arena → List Hit → Arena × List Operation
  | arena, [] => (arena, [])
  | arena, hit :: rest =>
    let (next, completed) := correlated closeOn hit arena
    let (final, later) := correlateAll closeOn next rest
    (final, completed.toList ++ later)

theorem correlateAll_cons (closeOn : List String) (arena : Arena) (hit : Hit) (rest : List Hit) :
    correlateAll closeOn arena (hit :: rest) =
      ((correlateAll closeOn (correlated closeOn hit arena).1 rest).1,
        (correlated closeOn hit arena).2.toList ++
          (correlateAll closeOn (correlated closeOn hit arena).1 rest).2) :=
  rfl

theorem correlateAll_sound (h : arena.Sound closeOn) (hits : List Hit) :
    (correlateAll closeOn arena hits).1.key = arena.key ∧
      (correlateAll closeOn arena hits).1.Sound closeOn := by
  induction hits generalizing arena with
  | nil => exact ⟨rfl, h⟩
  | cons hit rest ih =>
    obtain ⟨hkey, hsound⟩ := ih (correlated_sound h hit)
    exact ⟨hkey.trans (correlated_key h hit), hsound⟩

/-- No hit with a handle is lost, and none is moved. -/
theorem correlateAll_pending (h : arena.Sound closeOn) (hits : List Hit) (handle : UInt64) :
    hitsUnder handle (correlateAll closeOn arena hits).2 ++
        (correlateAll closeOn arena hits).1.pending handle =
      arena.pending handle ++ ofHandle arena.key handle hits := by
  induction hits generalizing arena with
  | nil => simp [correlateAll, hitsUnder, ofHandle]
  | cons hit rest ih =>
    have hrest := ih (correlated_sound h hit)
    have hcons : ofHandle arena.key handle (hit :: rest) =
        ofHandle arena.key handle [hit] ++ ofHandle arena.key handle rest :=
      ofHandle_append arena.key handle [hit] rest
    rw [correlated_key h hit] at hrest
    rw [correlateAll_cons, hitsUnder_append, List.append_assoc, hrest, ← List.append_assoc,
      correlated_pending h hit, List.append_assoc, ← hcons]

/-- Every hit that completes an operation is the last one of it. -/
theorem correlateAll_last (h : arena.Sound closeOn) (hits : List Hit) :
    (correlateAll closeOn arena hits).2.map last = hits.filter (completes arena.key closeOn) := by
  induction hits generalizing arena with
  | nil => rfl
  | cons hit rest ih =>
    have hrest := ih (correlated_sound h hit)
    rw [correlated_key h hit] at hrest
    rw [correlateAll_cons, List.map_append, hrest, correlated_last h hit, ← List.filter_append,
      List.singleton_append]

theorem correlateAll_closed (h : arena.Sound closeOn) (hits : List Hit) :
    ∀ operation ∈ (correlateAll closeOn arena hits).2, operation.last.probe ∈ closeOn := by
  intro operation hoperation
  have hlast : operation.last ∈ hits.filter (completes arena.key closeOn) :=
    correlateAll_last h hits ▸ List.mem_map_of_mem hoperation
  have hcompletes := (List.mem_filter.1 hlast).2
  simp only [completes, decide_eq_true_eq] at hcompletes
  exact hcompletes.2

theorem correlateAll_earlier (h : arena.Sound closeOn) (hits : List Hit) :
    ∀ operation ∈ (correlateAll closeOn arena hits).2,
      ∀ earlier ∈ operation.hits.dropLast, earlier.probe ∉ closeOn := by
  induction hits generalizing arena with
  | nil => exact fun operation hoperation => nomatch hoperation
  | cons hit rest ih =>
    intro operation hoperation
    rw [correlateAll_cons, List.mem_append, Option.mem_toList] at hoperation
    rcases hoperation with hnow | hlater
    · exact correlated_earlier h hit operation hnow
    · exact ih (correlated_sound h hit) operation hlater

theorem takeAll_operations (session : Session) (events : List SessionEvent) :
    (session.takeAll events).arena = session.arena.map (fun arena =>
        (correlateAll session.options.closeOn arena (SessionEvent.hits events)).1) ∧
      (session.takeAll events).completed = session.completed ++ (session.arena.map fun arena =>
        (correlateAll session.options.closeOn arena (SessionEvent.hits events)).2).getD [] := by
  induction events generalizing session with
  | nil =>
    constructor
    · cases harena : session.arena <;> simp [takeAll, harena, SessionEvent.hits, correlateAll]
    · cases harena : session.arena <;> simp [takeAll, SessionEvent.hits, correlateAll]
  | cons event events ih =>
    obtain ⟨harena, hcompleted⟩ := ih (session.take event)
    have hstep : session.takeAll (event :: events) = (session.take event).takeAll events := rfl
    rw [hstep, harena, hcompleted, SessionEvent.hits_cons]
    cases event with
    | hit hit =>
      cases hold : session.arena <;>
        simp [take, onHit, completing?, hold, SessionEvent.hit?, correlateAll_cons]
    | undecodable => exact ⟨rfl, rfl⟩
    | lost probe count => exact ⟨rfl, rfl⟩

/-! ## Cutting -/

theorem isChain_of_dropLast {α : Type} {p : α → Prop} {list : List α}
    (h : ∀ a ∈ list.dropLast, p a) : list.IsChain fun a _ => p a := by
  induction list with
  | nil => exact .nil
  | cons a rest ih =>
    cases rest with
    | nil => exact .singleton a
    | cons b rest =>
      rw [List.dropLast_cons_cons, List.forall_mem_cons] at h
      exact .cons_cons h.1 (ih h.2)

/-- Operations that end with their only closing hit, with at most one unclosed operation
behind them, are what comes of cutting their hits behind the closing ones. -/
theorem splitBy_operations {closeOn : List String} {completed : List Operation}
    {under : Option Operation} (hlast : ∀ operation ∈ completed, operation.last.probe ∈ closeOn)
    (hearlier : ∀ operation ∈ completed, ∀ earlier ∈ operation.hits.dropLast,
      earlier.probe ∉ closeOn)
    (hunder : ∀ operation ∈ under, ∀ hit ∈ operation.hits, hit.probe ∉ closeOn) :
    ((completed ++ under.toList).flatMap hits).splitBy (fun hit _ => hit.probe ∉ closeOn) =
      (completed ++ under.toList).map hits := by
  rw [List.flatMap_def]
  apply List.splitBy_flatten
  · simp [hits]
  · intro segment hsegment
    obtain ⟨operation, hoperation, rfl⟩ := List.mem_map.1 hsegment
    apply isChain_of_dropLast
    intro hit hhit
    rw [decide_eq_true_eq]
    rcases List.mem_append.1 hoperation with hcompleted | hopen
    · exact hearlier operation hcompleted hit hhit
    · exact hunder operation (Option.mem_toList.1 hopen) hit
        ((List.dropLast_sublist _).mem hhit)
  · rw [List.isChain_map]
    have hclosed : ∀ operation ∈ (completed ++ under.toList).dropLast,
        operation.last.probe ∈ closeOn := by
      intro operation hoperation
      cases under with
      | none => exact hlast operation ((List.dropLast_sublist _).mem (by simpa using hoperation))
      | some last => exact hlast operation (by simpa using hoperation)
    apply (isChain_of_dropLast hclosed).imp
    intro operation next hprobe
    exact ⟨List.cons_ne_nil _ _, List.cons_ne_nil _ _, by simpa [last] using hprobe⟩

/-- The operations of one handle that some hits make are its hits, cut behind each closing one. -/
theorem correlateAll_cut (closeOn : List String) (key : String) (hits : List Hit)
    (handle : UInt64) :
    (((correlateAll closeOn (empty key) hits).2 ++
        (correlateAll closeOn (empty key) hits).1.outstanding).filter
          fun operation => operation.handle = handle).map Operation.hits =
      (ofHandle key handle hits).splitBy fun hit _ => hit.probe ∉ closeOn := by
  have hempty := empty_sound closeOn key
  obtain ⟨-, hsound⟩ := correlateAll_sound hempty hits
  have hclosed := correlateAll_closed hempty hits
  have hearlier := correlateAll_earlier hempty hits
  have hpending := correlateAll_pending hempty hits handle
  rw [empty_pending, List.nil_append] at hpending
  generalize correlateAll closeOn (empty key) hits = filed at *
  obtain ⟨arena, completed⟩ := filed
  have hown : hitsUnder handle (completed ++ arena.outstanding) = ofHandle key handle hits := by
    rw [hitsUnder_append, hsound.outstanding_hitsUnder]
    exact hpending
  rw [← hown, hitsUnder, List.filter_append, hsound.outstanding_ofHandle]
  refine (splitBy_operations ?_ ?_ ?_).symm
  · intro operation hoperation
    exact hclosed operation (List.mem_of_mem_filter hoperation)
  · intro operation hoperation
    exact hearlier operation (List.mem_of_mem_filter hoperation)
  · intro operation hoperation
    exact (hsound.filed handle operation hoperation).2

/-- The operations of a session are a partition of the hits that carry a handle: those of
each handle are its hits in order of arrival, cut behind each closing one. The completed
ones come first, in the order in which they were completed, each with its closing hit at
the end. Then come those under way, at most one for each handle, by the time of their
earliest hit, whatever the order in which they were kept. -/
theorem operations_partition (options : SessionOptions) (key : String)
    (events : List SessionEvent) (orders : ThreadOrders) :
    let session := (new { options with correlate := some key }).takeAll events
    let hits := SessionEvent.hits events
    let operations := (session.finish orders).1.operations
    (∀ handle, hitsUnder handle operations = ofHandle key handle hits ∧
      (operations.filter fun operation => operation.handle = handle).map Operation.hits =
        (ofHandle key handle hits).splitBy fun hit _ => hit.probe ∉ options.closeOn) ∧
    (∀ operation ∈ operations, ∀ hit ∈ operation.hits,
      hit.handle? key = some operation.handle) ∧
    ∃ arena, session.arena = some arena ∧
      operations = session.completed ++ arena.outstanding ∧
      session.completed.map last = hits.filter (completes key options.closeOn) ∧
      (∀ operation ∈ session.completed, ∀ earlier ∈ operation.hits.dropLast,
        earlier.probe ∉ options.closeOn) ∧
      (∀ operation ∈ arena.outstanding, ∀ hit ∈ operation.hits,
        hit.probe ∉ options.closeOn) ∧
      (arena.outstanding.Pairwise fun a b => a.handle ≠ b.handle) ∧
      arena.outstanding.Pairwise Before ∧
      ∀ listing : List Operation, listing.Perm arena.operations.values →
        listing.mergeSort precedes = arena.outstanding := by
  intro session hits operations
  have hempty := empty_sound options.closeOn key
  obtain ⟨harena, hcompleted⟩ :=
    takeAll_operations (new { options with correlate := some key }) events
  change session.arena = some (correlateAll options.closeOn (empty key) hits).1 at harena
  change session.completed = (correlateAll options.closeOn (empty key) hits).2 at hcompleted
  have hoperations : operations = session.completed ++
      (correlateAll options.closeOn (empty key) hits).1.outstanding := by
    change session.completed ++ (session.arena.map outstanding).getD [] = _
    rw [harena]
    rfl
  have hcut : ∀ handle, (operations.filter fun operation => operation.handle = handle).map
        Operation.hits =
      (ofHandle key handle hits).splitBy fun hit _ => hit.probe ∉ options.closeOn := by
    intro handle
    rw [hoperations, hcompleted]
    exact correlateAll_cut options.closeOn key hits handle
  obtain ⟨-, hsound⟩ := correlateAll_sound hempty hits
  have hwhole : ∀ handle, hitsUnder handle operations = ofHandle key handle hits := by
    intro handle
    rw [hitsUnder, List.flatMap_def, hcut, List.flatten_splitBy]
  refine ⟨fun handle => ⟨hwhole handle, hcut handle⟩, ?_, _, harena, hoperations, ?_, ?_, ?_,
    hsound.outstanding_handles, hsound.outstanding_before, fun listing => hsound.sort_listing⟩
  · intro operation hoperation hit hhit
    have hmem : hit ∈ ofHandle key operation.handle hits := by
      rw [← hwhole]
      exact List.mem_flatMap.2
        ⟨operation, List.mem_filter.2 ⟨hoperation, decide_eq_true rfl⟩, hhit⟩
    exact of_decide_eq_true (List.mem_filter.1 hmem).2
  · rw [hcompleted]
    exact correlateAll_last hempty hits
  · rw [hcompleted]
    exact correlateAll_earlier hempty hits
  · intro operation hoperation
    have hvalues := (outstanding_perm _).mem_iff.1 hoperation
    exact (hsound.filed _ _ (hsound.mem_values.1 hvalues)).2

end ProbeTrace.Session
