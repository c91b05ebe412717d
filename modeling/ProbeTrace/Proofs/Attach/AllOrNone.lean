import ProbeTrace.Attach.Rehearsal
import ProbeTrace.Proofs.Attach.Groups

/-!
# All probes or none

Attaching ends with programs for all probes, in their order, or with an error and
without any program. The error is the first that is no reason to split.
-/

set_option autoImplicit false

namespace ProbeTrace.Attachment

/-- Releases of some programs, one after the other. -/
def Releases (programs : List Program) (log : List Exchange) : Prop :=
  List.Forall₂ (fun program exchange => exchange.call = .cleanup program) programs log

namespace Releases

variable {programs : List Program} {log : List Exchange}

theorem ledger (h : Releases programs log) : Ledger programs log [] := by
  induction h with
  | nil => exact .nil []
  | @cons program exchange programs log hcall _ ih =>
    obtain ⟨call, reply⟩ := exchange
    obtain rfl : call = .cleanup program := hcall
    exact ih.cleanup_head

theorem tried (h : Releases programs log) : ProbeTrace.tried log = [] := by
  induction h with
  | nil => rfl
  | @cons program exchange programs log hcall _ ih =>
    rw [ProbeTrace.tried, List.filterMap_cons, Exchange.tried?, hcall]
    exact ih

theorem firstFatal (h : Releases programs log) (probes : Nat) :
    ProbeTrace.firstFatal probes log = none := by
  induction h generalizing probes with
  | nil => rfl
  | @cons program exchange programs log hcall _ ih =>
    obtain ⟨call, reply⟩ := exchange
    obtain rfl : call = .cleanup program := hcall
    rw [ProbeTrace.firstFatal, ih, Exchange.fatal?, Option.none_or]

end Releases

theorem cleanups_eq (state : Attachment) :
    state.cleanups = (released state.exchanges).length := by
  rw [cleanups, released]
  induction state.exchanges with
  | nil => rfl
  | cons exchange rest ih =>
    obtain ⟨call, reply⟩ := exchange
    cases call with
    | cleanup program => exact congrArg Nat.succ ih
    | _ => exact ih

theorem releaseAll_run (backend : Backend) (programs : List Program) (state : Attachment) :
    ∃ log, (programs.forM fun program => notify backend (.cleanup program)).run state =
      (.ok (), state.logged log) ∧ Releases programs log := by
  induction programs generalizing state with
  | nil =>
    refine ⟨[], ?_, List.Forall₂.nil⟩
    rw [logged, List.append_nil]
    rfl
  | cons program programs ih =>
    have hnotify : (notify backend (.cleanup program)).run state = (.ok (), state.logged
        [⟨.cleanup program, backend state.exchanges (.cleanup program)⟩]) := rfl
    obtain ⟨log, hrun, hlog⟩ := ih (state.logged
      [⟨.cleanup program, backend state.exchanges (.cleanup program)⟩])
    refine ⟨⟨.cleanup program, backend state.exchanges (.cleanup program)⟩ :: log, ?_,
      List.Forall₂.cons rfl hlog⟩
    rw [List.forM, run_bind_ok hnotify, hrun, logged_logged]
    rfl

theorem shutdown_run (backend : Backend) (state : Attachment) :
    ∃ log after, (shutdown backend).run state = (.ok (), after) ∧
      after.exchanges = state.exchanges ++ log ∧ after.running = [] ∧
      Releases state.running log := by
  obtain ⟨log, hrun, hlog⟩ := releaseAll_run backend state.running state
  have hget : (get : Starting Attachment).run state = (.ok state, state) := rfl
  rw [shutdown, run_bind_ok hget, run_bind_ok hrun]
  exact ⟨log, _, rfl, rfl, rfl, hlog⟩

section

variable {backend : Backend} (hcalm : backend.Calm) (target : AttachTarget) (budget : Nat)
  (specs : List ProbeSpec)
include hcalm

/-- What was started for the probes is left running, or it is released after a failure. -/
theorem run_ends :
    let result := (run backend target budget specs).1
    let state := (run backend target budget specs).2
    ∃ log programs shares, tried log = shares.flatten ∧
      List.Forall₂ Share (Plan.programs specs budget) shares ∧
      ((Traced specs log programs (.ok ()) ∧
          result = .ok () ∧ state.exchanges = log ∧ state.running = programs) ∨
        ∃ fault last, Traced specs log programs (.error fault) ∧ Releases programs last ∧
          result = .error fault.error ∧ state.exchanges = log ++ last ∧ state.running = []) := by
  intro result state
  obtain ⟨log, programs, outcome, after, shares, hrun, hadds, htraced, htried, hshares⟩ :=
    attachGroups_run hcalm target (Plan.pack_ne_nil Plan.estimate budget specs) empty
  have hexchanges : after.exchanges = log := hadds.exchanges
  have hrunning : after.running = programs := hadds.running
  rw [Plan.pack_flatten] at htraced
  refine ⟨log, programs, shares, htried, hshares, ?_⟩
  cases outcome with
  | ok =>
    have hattach : (attach backend target budget specs).run empty = (.ok (), after) :=
      run_catch_ok hrun _
    have hresult : run backend target budget specs = (.ok (), after) := by
      rw [run, hattach]
    rw [show result = .ok () from congrArg Prod.fst hresult,
      show state = after from congrArg Prod.snd hresult]
    exact .inl ⟨htraced, rfl, hexchanges, hrunning⟩
  | error fault =>
    obtain ⟨last, final, hshutdown, hlog, hnone, hreleases⟩ := shutdown_run backend after
    have hattach : (attach backend target budget specs).run empty = (.error fault, final) :=
      (run_catch_error hrun _).trans (run_bind_ok hshutdown _)
    have hresult : run backend target budget specs = (.error fault.error, final) := by
      rw [run, hattach]
    rw [hexchanges] at hlog
    rw [hrunning] at hreleases
    rw [show result = .error fault.error from congrArg Prod.fst hresult,
      show state = final from congrArg Prod.snd hresult]
    exact .inr ⟨fault, last, htraced, hreleases, rfl, hlog, hnone⟩

theorem run_ledger :
    Ledger [] (run backend target budget specs).2.exchanges
      (run backend target budget specs).2.running := by
  obtain ⟨log, programs, -, -, -, ⟨htraced, -, hlog, hrunning⟩ |
    ⟨fault, last, htraced, hreleases, -, hlog, hnone⟩⟩ := run_ends hcalm target budget specs
  · rw [hlog, hrunning]
    exact htraced.ledger
  · rw [hlog, hnone]
    exact htraced.ledger.append hreleases.ledger

/-- A program that was loaded runs or was released once, so the releases are told by the rest. -/
theorem cleanups_add_running :
    let state := (run backend target budget specs).2
    state.cleanups + state.running.length = (loaded state.exchanges).length := by
  intro state
  have hlength := (run_ledger hcalm target budget specs).perm.length_eq
  rw [List.nil_append, List.length_append, ← cleanups_eq] at hlength
  exact hlength.symm

end

/-- If no call brings down a worker, attaching ends in one of two ways. Either all probes
are attached in order by programs that are not empty, and these are what is loaded; or
nothing is loaded, and the error is the first fatal one. Whatever else was loaded is released
once. For each group of the plan fewer programs are tried than twice its probes. -/
theorem all_or_none {backend : Backend} (hcalm : backend.Calm) (target : AttachTarget)
    (budget : Nat) (specs : List ProbeSpec) :
    let result := (run backend target budget specs).1
    let state := (run backend target budget specs).2
    (∃ shares, tried state.exchanges = shares.flatten ∧
        List.Forall₂ Share (Plan.programs specs budget) shares) ∧
      Ledger [] state.exchanges state.running ∧
      (loaded state.exchanges).Perm (released state.exchanges ++ state.running) ∧
      ((result = .ok () ∧ firstFatal 0 state.exchanges = none ∧
          (∀ program ∈ state.running, program.probeNames ≠ []) ∧
          state.running.flatMap Program.probes = specs ∧
          state.running.flatMap Program.probeNames = specs.map ProbeSpec.name) ∨
        ∃ error, result = .error error ∧ firstFatal 0 state.exchanges = some error ∧
          state.running = []) := by
  intro result state
  have hledger : Ledger [] state.exchanges state.running := run_ledger hcalm target budget specs
  obtain ⟨log, programs, shares, htried, hshares, hends⟩ := run_ends hcalm target budget specs
  refine ⟨⟨shares, ?tried, hshares⟩, hledger, hledger.perm, ?ends⟩
  case tried =>
    rcases hends with ⟨-, -, hlog, -⟩ | ⟨fault, last, -, hreleases, -, hlog, -⟩
    · rw [hlog, htried]
    · rw [hlog, tried_append, hreleases.tried, List.append_nil, htried]
  case ends =>
    rcases hends with ⟨htraced, hresult, hlog, hrunning⟩ |
      ⟨fault, last, htraced, hreleases, hresult, hlog, hnone⟩
    · obtain ⟨hprobes, hfull⟩ := htraced.whole rfl
      rw [hlog, hrunning]
      refine .inl ⟨hresult, htraced.fatal 0, ?_, hprobes, ?_⟩
      · intro program hprogram hnames
        exact hfull program hprogram (List.map_eq_nil_iff.1 hnames)
      · rw [← hprobes, List.map_flatMap]
        rfl
    · refine .inr ⟨fault.error, hresult, ?_, hnone⟩
      rw [hlog, firstFatal_append hreleases.firstFatal, htraced.fatal, Option.or_none]
      rfl

theorem calm_of_faults {faults : Faults} (h : faults.panic = none) : faults.backend.Calm := by
  intro log call
  cases call with
  | compile program =>
    rw [Faults.backend, Faults.reply, Faults.compileReply, h]
    cases Faults.within program faults.compile <;> nofun
  | enable provider probe entry =>
    rw [Faults.backend, Faults.reply]
    split <;> nofun
  | load program pid =>
    rw [Faults.backend, Faults.reply]
    split <;> nofun
  | chunks store =>
    rw [Faults.backend, Faults.reply]
    split <;> nofun
  | stream channel =>
    rw [Faults.backend, Faults.reply]
    split <;> nofun
  | cleanup program => nofun

/-- A probe without arguments. -/
def bare (name : String) : ProbeSpec where
  name
  provider := none
  args := []
  tuning := Tuning.standard

/-- Programs may have one probe only, and the stream of the given probe fails. -/
def streamFault (probe : String) : Faults where
  compile := none
  panic := none
  enable := none
  maxProbes := some 1
  limit := none
  reject := none
  load := none
  stream := some probe
  chunks := none

/-- Three probes are split, the first is attached, and the stream of the second fails: both
programs that were loaded are released, and the third probe is not tried by itself. -/
theorem second_stream_fails :
    let backend := (streamFault "b").backend
    let specs := [bare "a", bare "b", bare "c"]
    let result := (run backend ⟨1, AttachTarget.standardProvider⟩ 4096 specs).1
    let state := (run backend ⟨1, AttachTarget.standardProvider⟩ 4096 specs).2
    backend.Calm ∧ Plan.programs specs 4096 = [specs] ∧
      result = .error (.eventStream "b_events" Faults.reason) ∧
      (tried state.exchanges).map Program.probeNames =
        [["a", "b", "c"], ["a"], ["b", "c"], ["b"]] ∧
      Ledger [] state.exchanges [] ∧ state.running = [] := by
  intro backend specs result state
  have hcalm : backend.Calm := calm_of_faults rfl
  have hresult : result = .error (.eventStream "b_events" Faults.reason) := by
    decide +kernel
  obtain ⟨-, hledger, -, ⟨hok, -⟩ | ⟨error, -, -, hnone⟩⟩ :=
    all_or_none hcalm ⟨1, AttachTarget.standardProvider⟩ 4096 specs
  · cases hresult.symm.trans hok
  · rw [hnone] at hledger
    exact ⟨hcalm, rfl, hresult, by decide +kernel, hledger, hnone⟩

end ProbeTrace.Attachment
