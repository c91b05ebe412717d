import ProbeTrace.Proofs.Attach.Log

/-!
# Starting a program

There are five ways in which the start of a program can end. The log shows which
one it was, and a program that could not be started is not left loaded.
-/

set_option autoImplicit false

namespace ProbeTrace

/-- No call brings down the worker that makes it. -/
def Backend.Calm (backend : Backend) : Prop :=
  ∀ log call, backend log call ≠ .panicked

namespace Attachment

def logged (state : Attachment) (log : List Exchange) : Attachment :=
  { state with exchanges := state.exchanges ++ log }

theorem logged_logged (state : Attachment) (a b : List Exchange) :
    (state.logged a).logged b = state.logged (a ++ b) := by
  rw [logged, logged, logged, List.append_assoc]

section Runs

variable {α β : Type} {act : Starting α} {state after : Attachment}

theorem run_bind_ok {a : α} (h : act.run state = (.ok a, after)) (next : α → Starting β) :
    (act >>= next).run state = (next a).run after := by
  rw [ExceptT.run_bind]
  simp only [bind, StateT.bind, h]

theorem run_bind_error {fault : StartFault} (h : act.run state = (.error fault, after))
    (next : α → Starting β) : (act >>= next).run state = (.error fault, after) := by
  rw [ExceptT.run_bind]
  simp only [bind, StateT.bind, h]
  rfl

theorem run_catch_ok {a : α} (h : act.run state = (.ok a, after))
    (handler : StartFault → Starting α) :
    (tryCatch act handler).run state = (.ok a, after) := by
  rw [ExceptT.run_tryCatch]
  simp only [bind, StateT.bind, h]
  rfl

theorem run_catch_error {fault : StartFault} (h : act.run state = (.error fault, after))
    (handler : StartFault → Starting α) :
    (tryCatch act handler).run state = (handler fault).run after := by
  rw [ExceptT.run_tryCatch]
  simp only [bind, StateT.bind, h]

end Runs

/-- The calls that enable a probe. -/
def enableCalls (target : AttachTarget) (spec : ProbeSpec) : List Call :=
  [.enable (spec.provider.getD target.provider) spec.name (Program.Names.entry spec.name)]

/-- The calls that open the streams of a probe. -/
def streamCalls (spec : ProbeSpec) : List Call :=
  ((Program.chunkStore? spec).map Call.chunks).toList ++
    [.stream (Program.Names.channel spec.name)]

/-- The log of a program that is ready to be loaded. -/
def prepared (target : AttachTarget) (program : Program) : List Exchange :=
  [(Call.compile program).answered] ++
    (program.probes.flatMap (enableCalls target)).map Call.answered

/-- How the start of a program can end: its log, the programs that run since, and its result. -/
inductive Attempt (target : AttachTarget) (program : Program) :
    List Exchange → List Program → Except StartFault Unit → Prop where
  | notCompiled (error : AttachError) :
      Attempt target program [⟨.compile program, .refused error⟩] [] (.error (.refused error))
  | notEnabled {log : List Exchange} {error : AttachError} :
      RefusedIn (program.probes.flatMap (enableCalls target)) log error →
      Attempt target program ([(Call.compile program).answered] ++ log) []
        (.error (.refused error))
  | notLoaded (error : AttachError) :
      Attempt target program
        (prepared target program ++ [⟨.load program target.pid, .refused error⟩]) []
        (.error (.refused error))
  | released {log : List Exchange} {error : AttachError} (reply : Reply) :
      RefusedIn (program.probes.flatMap streamCalls) log error →
      Attempt target program
        (prepared target program ++ [(Call.load program target.pid).answered] ++
          (log ++ [⟨.cleanup program, reply⟩])) []
        (.error (.refused error))
  | started :
      Attempt target program
        (prepared target program ++ [(Call.load program target.pid).answered] ++
          (program.probes.flatMap streamCalls).map Call.answered) [program]
        (.ok ())

theorem aboutProbe_enableCalls (target : AttachTarget) (specs : List ProbeSpec) :
    ∀ call ∈ specs.flatMap (enableCalls target), call.AboutProbe := by
  intro call hcall
  obtain ⟨spec, -, hspec⟩ := List.mem_flatMap.1 hcall
  obtain rfl := List.mem_singleton.1 hspec
  trivial

theorem aboutProbe_streamCalls (specs : List ProbeSpec) :
    ∀ call ∈ specs.flatMap streamCalls, call.AboutProbe := by
  intro call hcall
  obtain ⟨spec, -, hspec⟩ := List.mem_flatMap.1 hcall
  rcases List.mem_append.1 hspec with hchunks | hstream
  · obtain ⟨store, -, rfl⟩ := Option.map_eq_some_iff.1 (Option.mem_toList.1 hchunks)
    trivial
  · obtain rfl := List.mem_singleton.1 hstream
    trivial

section Prepared

variable (target : AttachTarget) (program : Program)

theorem tried_prepared : tried (prepared target program) = [program] := by
  rw [prepared, tried_append,
    tried_aboutProbe (aboutProbe_answered (aboutProbe_enableCalls target program.probes))]
  rfl

theorem ledger_prepared (held : List Program) : Ledger held (prepared target program) held :=
  .other rfl rfl (.aboutProbe (aboutProbe_answered (aboutProbe_enableCalls target program.probes)) held)

theorem firstFatal_prepared (rest : List Exchange) (probes : Nat) :
    firstFatal probes (prepared target program ++ rest) =
      firstFatal program.probes.length rest := by
  rw [prepared, List.append_assoc, List.singleton_append, firstFatal,
    firstFatal_answered (aboutProbe_enableCalls target program.probes)]
  rfl

end Prepared

namespace Attempt

variable {target : AttachTarget} {program : Program} {log : List Exchange}
  {programs : List Program} {result : Except StartFault Unit}

theorem tried (h : Attempt target program log programs result) :
    ProbeTrace.tried log = [program] := by
  cases h with
  | notCompiled error => rfl
  | notEnabled hlog =>
    rw [tried_append, tried_aboutProbe (aboutProbe_refused (aboutProbe_enableCalls _ _) hlog)]
    rfl
  | notLoaded error =>
    rw [tried_append, tried_prepared]
    rfl
  | released reply hlog =>
    rw [tried_append, tried_append, tried_append, tried_prepared,
      tried_aboutProbe (aboutProbe_refused (aboutProbe_streamCalls _) hlog)]
    rfl
  | started =>
    rw [tried_append, tried_append, tried_prepared,
      tried_aboutProbe (aboutProbe_answered (aboutProbe_streamCalls _))]
    rfl

theorem ledger (h : Attempt target program log programs result) : Ledger [] log programs := by
  cases h with
  | notCompiled error => exact .other rfl rfl (.nil [])
  | notEnabled hlog =>
    exact .other rfl rfl (.aboutProbe (aboutProbe_refused (aboutProbe_enableCalls _ _) hlog) [])
  | notLoaded error => exact (ledger_prepared target program []).append (.other rfl rfl (.nil []))
  | released reply hlog =>
    have hloaded : Ledger [] [(Call.load program target.pid).answered] [program] :=
      .load (.nil [program])
    have hreleased : Ledger [program] [⟨.cleanup program, reply⟩] [] :=
      .cleanup_head (.nil [])
    have hopened := Ledger.aboutProbe (aboutProbe_refused (aboutProbe_streamCalls _) hlog) [program]
    exact ((ledger_prepared target program []).append hloaded).append (hopened.append hreleased)
  | started =>
    have hloaded : Ledger [] [(Call.load program target.pid).answered] [program] :=
      .load (.nil [program])
    exact ((ledger_prepared target program []).append hloaded).append
      (.aboutProbe (aboutProbe_answered (aboutProbe_streamCalls _)) [program])

/-- A start succeeds, or it fails with the last error in its log and leaves nothing running. -/
theorem ends (h : Attempt target program log programs result) :
    (programs = [program] ∧ result = .ok () ∧ ∀ probes, firstFatal probes log = none) ∨
      ∃ error, programs = [] ∧ result = .error (.refused error) ∧ ∀ probes,
        firstFatal probes log =
          if error.splits program.probes.length then none else some error := by
  cases h with
  | notCompiled error =>
    refine .inr ⟨error, rfl, rfl, fun probes => ?_⟩
    rw [firstFatal, firstFatal, Option.or_none]
    rfl
  | @notEnabled log error hlog =>
    refine .inr ⟨error, rfl, rfl, fun probes => ?_⟩
    have hfatal := firstFatal_refused (aboutProbe_enableCalls _ _) hlog [] program.probes.length
    rw [List.append_nil, firstFatal, Option.or_none] at hfatal
    rw [List.singleton_append, firstFatal, ← hfatal]
    rfl
  | notLoaded error =>
    refine .inr ⟨error, rfl, rfl, fun probes => ?_⟩
    rw [firstFatal_prepared, firstFatal, firstFatal, Option.or_none]
    rfl
  | @released log error reply hlog =>
    refine .inr ⟨error, rfl, rfl, fun probes => ?_⟩
    have hfatal := firstFatal_refused (aboutProbe_streamCalls _) hlog [⟨.cleanup program, reply⟩]
      program.probes.length
    rw [firstFatal, firstFatal, Exchange.fatal?, Option.none_or, Option.or_none] at hfatal
    rw [List.append_assoc, firstFatal_prepared, List.singleton_append, firstFatal, ← hfatal]
    rfl
  | started =>
    refine .inl ⟨rfl, rfl, fun probes => ?_⟩
    have hfatal := firstFatal_answered (aboutProbe_streamCalls program.probes) []
      program.probes.length
    rw [List.append_nil, firstFatal] at hfatal
    rw [List.append_assoc, firstFatal_prepared, List.singleton_append, firstFatal, ← hfatal]
    rfl

end Attempt

/-- What an action adds to the log and to the running programs. -/
structure Adds (before : Attachment) (log : List Exchange) (programs : List Program)
    (after : Attachment) : Prop where
  exchanges : after.exchanges = before.exchanges ++ log
  running : after.running = before.running ++ programs

theorem adds_nothing (state : Attachment) : Adds state [] [] state :=
  ⟨(List.append_nil _).symm, (List.append_nil _).symm⟩

theorem Adds.trans {first second third : Attachment} {log rest : List Exchange}
    {p q : List Program} (ha : Adds first log p second) (hb : Adds second rest q third) :
    Adds first (log ++ rest) (p ++ q) third where
  exchanges := by rw [hb.exchanges, ha.exchanges, List.append_assoc]
  running := by rw [hb.running, ha.running, List.append_assoc]

theorem adds_logged (state : Attachment) (log : List Exchange) :
    Adds state log [] (state.logged log) :=
  ⟨rfl, (List.append_nil _).symm⟩

theorem forM_eq_forM_ask {backend : Backend} {act : ProbeSpec → Starting Unit}
    {calls : ProbeSpec → List Call} (h : ∀ spec, act spec = (calls spec).forM (ask backend))
    (specs : List ProbeSpec) : specs.forM act = (specs.flatMap calls).forM (ask backend) := by
  induction specs with
  | nil => rfl
  | cons spec specs ih =>
    rw [List.forM, ih, h, List.flatMap_cons, List.forM_eq_forM, List.forM_append]

theorem enableProbe_eq (backend : Backend) (target : AttachTarget) (spec : ProbeSpec) :
    enableProbe backend target spec = (enableCalls target spec).forM (ask backend) := by
  simp [enableProbe, enableCalls]

theorem openStream_eq (backend : Backend) (spec : ProbeSpec) :
    openStream backend spec = (streamCalls spec).forM (ask backend) := by
  cases hstore : Program.chunkStore? spec <;> simp [openStream, streamCalls, hstore]

section Calm

variable {backend : Backend} (hcalm : backend.Calm)
include hcalm

theorem ask_run (call : Call) (state : Attachment) :
    (ask backend call).run state = (.ok (), state.logged [call.answered]) ∨
      ∃ error, (ask backend call).run state =
        (.error (.refused error), state.logged [⟨call, .refused error⟩]) := by
  have hexchange : (exchange backend call).run state =
      (.ok (backend state.exchanges call),
        state.logged [⟨call, backend state.exchanges call⟩]) := rfl
  rw [ask, run_bind_ok hexchange]
  cases hreply : backend state.exchanges call with
  | done => exact .inl rfl
  | refused error => exact .inr ⟨error, rfl⟩
  | panicked => exact absurd hreply (hcalm _ _)

theorem forM_ask_run (calls : List Call) (state : Attachment) :
    (calls.forM (ask backend)).run state = (.ok (), state.logged (calls.map Call.answered)) ∨
      ∃ log error, RefusedIn calls log error ∧
        (calls.forM (ask backend)).run state = (.error (.refused error), state.logged log) := by
  induction calls generalizing state with
  | nil =>
    left
    simp [logged]
    rfl
  | cons call calls ih =>
    rw [List.forM]
    rcases ask_run hcalm call state with hdone | ⟨error, hrefused⟩
    · rw [run_bind_ok hdone]
      rcases ih (state.logged [call.answered]) with hall | ⟨log, error, hlog, hrun⟩
      · left
        rw [hall, logged_logged]
        rfl
      · right
        obtain ⟨front, last, back, rfl, rfl⟩ := hlog
        refine ⟨_, error, ⟨call :: front, last, back, rfl, rfl⟩, ?_⟩
        rw [hrun, logged_logged]
        rfl
    · right
      exact ⟨_, error, ⟨[], call, calls, rfl, rfl⟩, run_bind_error hrefused _⟩

theorem openStreams_run (program : Program) (state : Attachment) :
    (openStreams backend program).run state =
        (.ok (), state.logged ((program.probes.flatMap streamCalls).map Call.answered)) ∨
      ∃ log error reply, RefusedIn (program.probes.flatMap streamCalls) log error ∧
        (openStreams backend program).run state =
          (.error (.refused error), state.logged (log ++ [⟨.cleanup program, reply⟩])) := by
  rw [openStreams, forM_eq_forM_ask (openStream_eq backend)]
  rcases forM_ask_run hcalm (program.probes.flatMap streamCalls) state with
    hall | ⟨log, error, hlog, hrefused⟩
  · exact .inl (run_catch_ok hall _)
  · right
    refine ⟨log, error, backend (state.logged log).exchanges (.cleanup program), hlog, ?_⟩
    rw [run_catch_error hrefused, ← logged_logged]
    rfl

theorem start_run (target : AttachTarget) (program : Program) (state : Attachment) :
    ∃ log programs result after, (start backend target program).run state = (result, after) ∧
      Adds state log programs after ∧ Attempt target program log programs result := by
  rw [start, forM_eq_forM_ask (enableProbe_eq backend target)]
  rcases ask_run hcalm (.compile program) state with hcompiled | ⟨error, hcompile⟩
  case inr =>
    exact ⟨_, [], _, _, run_bind_error hcompile _, adds_logged _ _, .notCompiled error⟩
  rw [run_bind_ok hcompiled]
  rcases forM_ask_run hcalm (program.probes.flatMap (enableCalls target))
    (state.logged [(Call.compile program).answered]) with henabled | ⟨log, error, hlog, henable⟩
  case inr =>
    rw [logged_logged] at henable
    exact ⟨_, [], _, _, run_bind_error henable _, adds_logged _ _, .notEnabled hlog⟩
  rw [run_bind_ok henabled, logged_logged, ← prepared]
  rcases ask_run hcalm (.load program target.pid) (state.logged (prepared target program)) with
    hloaded | ⟨error, hload⟩
  case inr =>
    rw [logged_logged] at hload
    exact ⟨_, [], _, _, run_bind_error hload _, adds_logged _ _, .notLoaded error⟩
  rw [run_bind_ok hloaded, logged_logged]
  rcases openStreams_run hcalm program (state.logged _) with
    hopened | ⟨log, error, reply, hlog, hopen⟩
  case inr =>
    rw [logged_logged] at hopen
    exact ⟨_, [], _, _, run_bind_error hopen _, adds_logged _ _, .released reply hlog⟩
  rw [run_bind_ok hopened, logged_logged]
  exact ⟨_, [program], .ok (), _, rfl, ⟨rfl, rfl⟩, .started⟩

end Calm
end Attachment
end ProbeTrace
