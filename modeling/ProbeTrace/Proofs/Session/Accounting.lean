import ProbeTrace.Proofs.Record.LongText
import ProbeTrace.Proofs.Record.Payloads
import ProbeTrace.Proofs.Session.Arrival
import ProbeTrace.Proofs.Span.Conservation
import ProbeTrace.Proofs.Stats.Totals

/-!
# Accounts of a session

Histories, spans, counters, losses and payloads are counted apart from each other.
A report brings the counts together, and they agree: whatever reached the session
is found in each of them once.
-/

set_option autoImplicit false

namespace ProbeTrace

open SessionEvent RecordDecoder

/-- A hit that was read from a record of an accepted description. -/
def RecordDecoder.Reads (decoder : RecordDecoder) (hit : Hit) : Prop :=
  decoder.spec.Accepted ∧ ∃ cpu data, decoder.decode cpu data = .ok hit

/-- The counts of a report agree with the events before it and with each other. -/
structure Report.Accounts (report : Report) (events : List SessionEvent) : Prop where
  hits : report.summary.hits = (SessionEvent.hits events).length
  probes : report.summary.probes.total = report.summary.hits
  sizes : report.summary.sizes.total = report.summary.hits
  comms : report.summary.comms.total = report.summary.hits
  /-- Kept or evicted, every hit is one of a thread. -/
  threads : (report.threads.map fun thread => thread.hits + thread.evicted).sum =
    report.summary.hits
  bundles : ∀ thread ∈ report.threads,
    (thread.bundles.map Bundle.hitCount).sum = thread.hits
  counters : ∀ counter ∈ [report.summary.probes, report.summary.sizes, report.summary.comms,
    report.summary.errors], counter.counts.values.sum = counter.total
  failures : report.summary.decodeFailures = events.countP isUndecodable
  /-- As long as a word holds the total. -/
  losses : totalLost events < 2 ^ 64 →
    report.summary.droppedTotal = totalLost events ∧
      report.summary.dropped.values.sum = report.summary.droppedTotal
  outcomes : report.summary.errors.total = report.summary.decodeFailures +
    ((SessionEvent.hits events).map fun hit => hit.payloads.length).sum
  /-- A decoded hit has one payload if its probe has a long text, and none else. -/
  payloads : ∀ hit ∈ SessionEvent.hits events, ∀ decoder : RecordDecoder, decoder.Reads hit →
    hit.payloads.length = if decoder.spec.longText?.isSome then 1 else 0
  decoded : ∀ decoders, List.Forall₂ RecordDecoder.Reads decoders (SessionEvent.hits events) →
    report.summary.errors.total = report.summary.decodeFailures +
      decoders.countP fun decoder => decoder.spec.longText?.isSome

theorem RecordDecoder.Reads.payloads {decoder : RecordDecoder} {hit : Hit}
    (h : decoder.Reads hit) :
    hit.payloads.length = if decoder.spec.longText?.isSome then 1 else 0 := by
  obtain ⟨haccepted, cpu, data, hdecode⟩ := h
  rw [decode_payloads haccepted hdecode]
  cases decoder.spec.longText?.isSome <;> rfl

/-- As many payloads as there are records of probes with a long text. -/
theorem RecordDecoder.sum_payloads {decoders : List RecordDecoder} {hits : List Hit}
    (h : List.Forall₂ Reads decoders hits) :
    (hits.map fun hit => hit.payloads.length).sum =
      decoders.countP fun decoder => decoder.spec.longText?.isSome := by
  induction h with
  | nil => rfl
  | cons hfirst _ ih =>
    rw [List.map_cons, List.sum_cons, ih, hfirst.payloads, List.countP_cons, Nat.add_comm]

theorem SessionEvent.outcomes_length (events : List SessionEvent) :
    (events.flatMap outcomes).length =
      events.countP isUndecodable +
        ((SessionEvent.hits events).map fun hit => hit.payloads.length).sum := by
  induction events with
  | nil => rfl
  | cons event events ih =>
    rw [List.flatMap_cons, List.length_append, ih, hits_cons, List.countP_cons]
    cases event with
    | hit arrived =>
      have hown := arrived.outcomes_length
      simp [outcomes, isUndecodable, hit?, hown, Nat.add_left_comm]
    | undecodable => simp [outcomes, isUndecodable, hit?]; omega
    | lost probe count => simp [outcomes, isUndecodable, hit?]

namespace Session

variable (options : SessionOptions) (events : List SessionEvent)

theorem takeAll_new_stats :
    ((new options).takeAll events).stats.counts =
      { Stats.empty with
        hits := (SessionEvent.hits events).length
        decodeFailures := events.countP isUndecodable
        probes := ((SessionEvent.hits events).map Hit.probe).foldl Counter.add .empty
        sizes := ((SessionEvent.hits events).map fun hit => toString hit.size).foldl
          Counter.add .empty
        comms := ((SessionEvent.hits events).map Hit.comm).foldl Counter.add .empty
        errors := (events.flatMap outcomes).foldl Counter.add .empty } := by
  rw [takeAll_stats, Stats.foldl_take]
  simp [Stats.counts, new, Stats.empty]

theorem threadReport_bundles (spans : SpanOptions) (tid : Nat) (history : ThreadHistory) :
    ((threadReport spans tid history).bundles.map Bundle.hitCount).sum = history.hits.length := by
  -- the bundles hold the hits in their order, so they count them too
  have hflat : (reconstruct history.hits spans).flatMap Bundle.flatten = history.hits :=
    (Reconstruction.finish_flatten _).trans (Reconstruction.run_flatten spans history.hits)
  rw [← congrArg List.length hflat, List.length_flatMap]
  exact congrArg List.sum (List.map_congr_left fun bundle _ => bundle.hitCount_eq)

theorem takeAll_new_taken (orders : ThreadOrders) :
    ((((new options).takeAll events).report orders).threads.map
      fun thread => thread.hits + thread.evicted).sum = (SessionEvent.hits events).length := by
  rw [report, List.map_map, takeAll_new_store]
  exact HitStore.ofHits_taken options.maxHitsPerThread (SessionEvent.hits events)

theorem takeAll_new_losses {events : List SessionEvent} (h : totalLost events < 2 ^ 64) :
    ((new options).takeAll events).drops.total = totalLost events ∧
      ((new options).takeAll events).drops.perProbe.values.sum =
        ((new options).takeAll events).drops.total := by
  obtain ⟨htotal, hsum⟩ := DropCounter.foldl_take_empty h
  rw [takeAll_drops]
  exact ⟨htotal, hsum.trans htotal.symm⟩

/-- Whatever reached a session is accounted for once in the report on it. -/
theorem finish_accounts (orders : ThreadOrders) :
    (((new options).takeAll events).finish orders).1.Accounts events := by
  have hcounts := (Stats.fullStats_counts _).trans (takeAll_new_stats options events)
  have hhits := congrArg Stats.hits hcounts
  have hfailures := congrArg Stats.decodeFailures hcounts
  have hprobes := congrArg Stats.probes hcounts
  have hsizes := congrArg Stats.sizes hcounts
  have hcomms := congrArg Stats.comms hcounts
  have herrors := congrArg Stats.errors hcounts
  simp only [Stats.counts] at hhits hfailures hprobes hsizes hcomms herrors
  have houtcomes : ((new options).takeAll events).fullStats.errors.total =
      ((new options).takeAll events).fullStats.decodeFailures +
        ((SessionEvent.hits events).map fun hit => hit.payloads.length).sum := by
    rw [herrors, hfailures, Counter.foldl_add_total, ← SessionEvent.outcomes_length]
    exact Nat.zero_add _
  have htotal (values : List String) (hlength : values.length = (SessionEvent.hits events).length) :
      (values.foldl Counter.add .empty).total =
        ((new options).takeAll events).fullStats.hits := by
    rw [Counter.foldl_add_total, hlength, hhits]
    exact Nat.zero_add _
  refine
    { hits := hhits
      probes := (congrArg Counter.total hprobes).trans (htotal _ (List.length_map _))
      sizes := (congrArg Counter.total hsizes).trans (htotal _ (List.length_map _))
      comms := (congrArg Counter.total hcomms).trans (htotal _ (List.length_map _))
      threads := (takeAll_new_taken options events orders).trans hhits.symm
      bundles := ?bundles
      counters := ?counters
      failures := hfailures
      losses := takeAll_new_losses options
      outcomes := houtcomes
      payloads := fun hit _ decoder hreads => hreads.payloads
      decoded := fun decoders hdecoders =>
        RecordDecoder.sum_payloads hdecoders ▸ houtcomes }
  case bundles =>
    intro thread hthread
    obtain ⟨entry, -, rfl⟩ := List.mem_map.1 hthread
    exact threadReport_bundles _ entry.1 entry.2
  case counters =>
    have hbalanced (values : List String) : (values.foldl Counter.add .empty).Balanced :=
      Counter.empty_balanced.foldl_add values
    simp only [List.forall_mem_cons, List.not_mem_nil, false_implies, implies_true, and_true]
    change Counter.Balanced _ ∧ Counter.Balanced _ ∧ Counter.Balanced _ ∧ Counter.Balanced _
    simp only [finish, report, Stats.summary, hprobes, hsizes, hcomms, herrors, hbalanced,
      and_self]

/-- A record with a long text, one that cannot be read and three that are lost: the outcomes
are those of the text and of the failure, and nothing is missing from the totals. -/
theorem report_accounts :
    let decoder : RecordDecoder := ⟨sizedSpec, none, none⟩
    let hit := decoder.hitAt sizedRecord 0
    let events : List SessionEvent := [.hit hit, .undecodable, .lost "p" 3]
    let summary := ((new ⟨none, [], SpanOptions.standard, 1⟩).takeAll events).finish.1.summary
    decoder.Reads hit ∧ summary.hits = 1 ∧ summary.errors.total = 2 ∧
      summary.droppedTotal = 3 := by
  intro decoder hit events summary
  have hreads : decoder.Reads hit :=
    ⟨sizedSpec_accepted, 0, sizedRecord,
      RecordDecoder.decode_eq_hitAt sizedSpec_accepted 0 (by decide)⟩
  have haccounts := finish_accounts ⟨none, [], SpanOptions.standard, 1⟩ events .ascending
  refine ⟨hreads, haccounts.hits, ?_, (haccounts.losses (by decide)).1⟩
  rw [haccounts.decoded [decoder] (.cons hreads .nil), haccounts.failures]
  decide

end Session
end ProbeTrace
