import ProbeTrace.Proofs.Session.Operations
import ProbeTrace.Proofs.Stats.ThreadOrder

/-!
# Reports in the course of a session

A report hands out the operations that are under way and forgets them. Everything
else that it says is left as it was, so only a report that finds no operation
under way does not show in the reports after it. Reports are compared as a whole
if they visit threads in the same orders, and without sums of seconds if not.
-/

set_option autoImplicit false

namespace ProbeTrace

/-- A report without the sums of seconds in its summary. -/
def Report.untimed (report : Report) : Report :=
  { report with summary := report.summary.untimed }

namespace Session

open Arena Operation

def underWay (session : Session) : List Operation :=
  (session.arena.map outstanding).getD []

/-- Whether the last hit of every handle completes an operation. -/
def Settled (options : SessionOptions) (hits : List Hit) : Prop :=
  ∀ key, options.correlate = some key → ∀ handle,
    ∀ last ∈ (ofHandle key handle hits).getLast?, last.probe ∈ options.closeOn

variable (orders others : ThreadOrders)

theorem report_operations (session : Session) :
    (session.finish orders).1.operations = session.completed ++ session.underWay :=
  rfl

theorem finish_underWay (session : Session) : (session.finish orders).2.underWay = [] := by
  cases harena : session.arena <;> simp [underWay, finish, harena, outstanding, empty, Keyed.values]

theorem finish_of_underWay {session : Session} (h : session.underWay = []) :
    (session.finish orders).2 = session := by
  obtain ⟨options, store, stats, drops, arena, completed⟩ := session
  cases arena with
  | none => rfl
  | some arena => rw [finish, Option.map_some, ← eq_empty_of_outstanding h]

/-- The reported hits of a handle: those of completed operations, those under way, and all
that came since. -/
theorem report_hitsUnder {session : Session} {arena : Arena} (harena : session.arena = some arena)
    (h : arena.Sound session.options.closeOn) (events : List SessionEvent) (handle : UInt64) :
    hitsUnder handle ((session.takeAll events).finish orders).1.operations =
      hitsUnder handle session.completed ++
        (arena.pending handle ++ ofHandle arena.key handle (SessionEvent.hits events)) := by
  obtain ⟨hlater, hcompleted⟩ := takeAll_operations session events
  rw [harena] at hlater hcompleted
  obtain ⟨-, hsound⟩ := correlateAll_sound h (SessionEvent.hits events)
  rw [report_operations, underWay, hlater, hcompleted, Option.map_some, Option.map_some,
    Option.getD_some, Option.map_some, Option.getD_some, hitsUnder_append, hitsUnder_append,
    hsound.outstanding_hitsUnder, List.append_assoc, correlateAll_pending h]

theorem takeAll_new_sound {options : SessionOptions} {events : List SessionEvent} {arena : Arena}
    (harena : ((new options).takeAll events).arena = some arena) :
    arena.Sound options.closeOn := by
  rw [(takeAll_operations (new options) events).1] at harena
  obtain ⟨start, hstart, rfl⟩ := Option.map_eq_some_iff.1 harena
  obtain ⟨key, -, rfl⟩ := Option.map_eq_some_iff.1 hstart
  exact (correlateAll_sound (empty_sound _ key) _).2

/-- What a report says of threads and in its summary comes from what a session stored,
counted and lost. -/
theorem report_congr {a b : Session} (hoptions : a.options = b.options) (hstore : a.store = b.store)
    (hstats : a.stats = b.stats) (hdrops : a.drops = b.drops) :
    (a.report orders).threads = (b.report orders).threads ∧
      (a.report orders).summary = (b.report orders).summary := by
  constructor
  · simp only [report, hoptions, hstore]
  · simp only [report, fullStats, hstore, hstats, hdrops]

theorem finish_takeAll_report (session : Session) (events : List SessionEvent) :
    (((session.finish others).2.takeAll events).report orders).threads =
        ((session.takeAll events).report orders).threads ∧
      (((session.finish others).2.takeAll events).report orders).summary =
        ((session.takeAll events).report orders).summary := by
  apply report_congr
  · rw [takeAll_options, takeAll_options]
    rfl
  · rw [takeAll_store, takeAll_store]
    rfl
  · rw [takeAll_stats, takeAll_stats]
    rfl
  · rw [takeAll_drops, takeAll_drops]
    rfl

/-- Without sums of seconds, a report does not show in which orders it visits threads. -/
theorem report_untimed (session : Session) :
    (session.report orders).untimed = (session.report others).untimed := by
  rw [Report.untimed, Report.untimed]
  congr 1
  exact Stats.summary_untimed session.fullStats session.drops orders others

theorem closed_getLast {closeOn : List String} {operations : List Operation}
    (h : ∀ operation ∈ operations, operation.last.probe ∈ closeOn) :
    ∀ last ∈ (operations.flatMap hits).getLast?, last.probe ∈ closeOn := by
  induction operations using List.reverseRecOn with
  | nil => exact fun last hlast => nomatch hlast
  | append_singleton operations operation _ =>
    intro last hlast
    rw [List.flatMap_append, List.flatMap_singleton, ← operation.dropLast_concat_last,
      ← List.append_assoc, List.getLast?_concat, Option.mem_some_iff] at hlast
    exact hlast ▸ h operation (by simp)

theorem correlateAll_settled (closeOn : List String) (key : String) (hits : List Hit) :
    (correlateAll closeOn (empty key) hits).1.outstanding = [] ↔
      ∀ handle, ∀ last ∈ (ofHandle key handle hits).getLast?, last.probe ∈ closeOn := by
  have hempty := empty_sound closeOn key
  obtain ⟨-, hsound⟩ := correlateAll_sound hempty hits
  rw [hsound.outstanding_eq_nil_iff]
  apply forall_congr'
  intro handle
  have hpending := correlateAll_pending hempty hits handle
  rw [empty_pending, List.nil_append] at hpending
  change _ = ofHandle key handle hits at hpending
  rw [← hpending]
  constructor
  · intro hnil
    rw [hnil, List.append_nil]
    apply closed_getLast
    intro operation hoperation
    exact correlateAll_closed hempty hits operation (List.mem_of_mem_filter hoperation)
  · intro hlast
    by_contra hne
    have hmem := List.getLast_mem hne
    refine hsound.pending_unclosed handle _ hmem (hlast _ ?_)
    rw [List.getLast?_append_of_ne_nil _ hne, List.getLast?_eq_some_getLast hne,
      Option.mem_some_iff]

theorem underWay_eq_nil_iff (options : SessionOptions) (events : List SessionEvent) :
    ((new options).takeAll events).underWay = [] ↔ Settled options (SessionEvent.hits events) := by
  have harena : ((new options).takeAll events).arena = (options.correlate.map empty).map
      fun arena => (correlateAll options.closeOn arena (SessionEvent.hits events)).1 :=
    (takeAll_operations (new options) events).1
  rw [underWay, harena, Settled]
  cases options.correlate with
  | none => simp
  | some key =>
    refine (correlateAll_settled options.closeOn key (SessionEvent.hits events)).trans ?_
    simp

section

variable (options : SessionOptions) (before later : List SessionEvent)
  (first second third : ThreadOrders)

/-- If some operation is under way, a report shows in what is reported after any further
events: the hits it handed out are missing there. -/
theorem underWay_of_later_report
    (h : (((((new options).takeAll before).finish first).2.takeAll later).finish
        second).1.operations =
      ((((new options).takeAll before).takeAll later).finish third).1.operations) :
    ((new options).takeAll before).underWay = [] := by
  cases harena : ((new options).takeAll before).arena with
  | none => rw [underWay, harena, Option.map_none, Option.getD_none]
  | some arena =>
    have hsound : arena.Sound ((new options).takeAll before).options.closeOn := by
      rw [takeAll_options]
      exact takeAll_new_sound harena
    have hforgotten : (((new options).takeAll before).finish first).2.arena =
        some (empty arena.key) := by
      rw [finish, harena, Option.map_some]
    rw [underWay, harena, Option.map_some, Option.getD_some, hsound.outstanding_eq_nil_iff]
    intro handle
    have hunder := congrArg (hitsUnder handle) h
    rw [report_hitsUnder _ harena hsound, report_hitsUnder _ hforgotten (empty_sound _ _)]
      at hunder
    exact List.self_eq_append_left.1 (List.append_cancel_left hunder)

/-- A later report is what it would have been without the first one exactly if that found no
operation under way. -/
theorem later_report_iff :
    let session := (new options).takeAll before
    (((session.finish first).2.takeAll later).finish second).1 =
        ((session.takeAll later).finish second).1 ↔
      Settled options (SessionEvent.hits before) := by
  intro session
  rw [← underWay_eq_nil_iff]
  constructor
  · intro h
    exact underWay_of_later_report options before later first second second
      (congrArg Report.operations h)
  · intro h
    rw [finish_of_underWay first h]

/-- So it is without sums of seconds, even if threads are visited in other orders. -/
theorem later_report_untimed_iff :
    let session := (new options).takeAll before
    (((session.finish first).2.takeAll later).finish second).1.untimed =
        ((session.takeAll later).finish third).1.untimed ↔
      Settled options (SessionEvent.hits before) := by
  intro session
  rw [← underWay_eq_nil_iff]
  constructor
  · intro h
    have hoperations := congrArg Report.operations h
    exact underWay_of_later_report options before later first second third hoperations
  · intro h
    rw [finish_of_underWay first h]
    exact report_untimed second third _

end

/-- A report shows in the reports after it exactly if some operation is under way. Reports that
visit threads in the same orders are compared as a whole, any others without sums of seconds.
What they say of threads, and so compared in their summaries, is the same in any case. -/
theorem finish_shows_iff (options : SessionOptions) (before later : List SessionEvent)
    (first second third : ThreadOrders) :
    let session := (new options).takeAll before
    let rest := (session.finish first).2
    ((rest.finish first).1 = (session.finish first).1 ↔
      Settled options (SessionEvent.hits before)) ∧
    ((rest.finish second).1.untimed = (session.finish first).1.untimed ↔
      Settled options (SessionEvent.hits before)) ∧
    (((rest.takeAll later).finish second).1 = ((session.takeAll later).finish second).1 ↔
      Settled options (SessionEvent.hits before)) ∧
    (((rest.takeAll later).finish second).1.untimed =
        ((session.takeAll later).finish third).1.untimed ↔
      Settled options (SessionEvent.hits before)) ∧
    ((rest.takeAll later).finish second).1.threads =
      ((session.takeAll later).finish third).1.threads ∧
    ((rest.takeAll later).finish second).1.summary =
      ((session.takeAll later).finish second).1.summary ∧
    ((rest.takeAll later).finish second).1.summary.untimed =
      ((session.takeAll later).finish third).1.summary.untimed := by
  intro session rest
  -- two reports in a row are the case of no events between them
  have htwice := later_report_iff options before [] first first
  have htwiceUntimed := later_report_untimed_iff options before [] first second first
  obtain ⟨hthreads, hsummary⟩ := finish_takeAll_report second first session later
  refine ⟨htwice, htwiceUntimed, later_report_iff options before later first second,
    later_report_untimed_iff options before later first second third, hthreads, hsummary, ?_⟩
  calc ((rest.takeAll later).finish second).1.summary.untimed
      = ((session.takeAll later).finish second).1.summary.untimed :=
        congrArg Summary.untimed hsummary
    _ = ((session.takeAll later).finish third).1.summary.untimed :=
        Stats.summary_untimed _ _ second third

/-- A session that tells operations apart by `op`, and that none of its hits completes. -/
def correlating : SessionOptions where
  correlate := some "op"
  closeOn := []
  spans := SpanOptions.standard
  maxHitsPerThread := 0

/-- A hit with a handle. -/
def handled (handle : UInt64) : Hit where
  probe := "p"
  pid := 1
  tid := 1
  comm := "c"
  ns := 1
  cpu := 0
  size := 32
  args := [("op", .pointer handle)]

/-- After one hit with a handle, a second report lacks the operation that the first has. -/
theorem operation_forgotten :
    let session := (new correlating).takeAll [.hit (handled 7)]
    session.finish.1.operations = [⟨7, handled 7, []⟩] ∧
      session.finish.2.finish.1.operations = [] ∧
      session.finish.2.finish.1 ≠ session.finish.1 := by
  intro session
  have harena : session.arena = some ⟨"op", [(7, ⟨7, handled 7, []⟩)]⟩ := rfl
  have hfirst : session.finish.1.operations = [⟨7, handled 7, []⟩] := by
    rw [report_operations, underWay, harena]
    simp [outstanding, Keyed.values]
    rfl
  have hsecond : session.finish.2.finish.1.operations = [] := by
    rw [report_operations, finish_underWay]
    rfl
  refine ⟨hfirst, hsecond, ?_⟩
  intro h
  rw [h, hfirst] at hsecond
  cases hsecond

end Session
end ProbeTrace
