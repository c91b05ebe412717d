import ProbeTrace.Attach.Start
import ProbeTrace.Chunk.Ring
import ProbeTrace.Session

/-!
# Tracing

Each running program has a worker that hands on what its probes send. Records
are decoded and given to a sink; so are failures to decode, and losses. A worker
ends when it cannot get at its events any more, and nothing reaches probes of
those names from then on.
-/

set_option autoImplicit false

namespace ProbeTrace

/-- Where hits, failures and losses go, and what is told about them. -/
structure Sink (σ : Type) where
  onHit : σ → Hit → σ × List Notice
  onDecodeError : σ → String → DecodeError → σ × List Notice
  onDrop : σ → String → Nat → σ

/-- A session takes in everything. -/
def Session.sink : Sink Session where
  onHit session hit := (session.onHit hit, session.hitNotices hit)
  onDecodeError session probe error := (session.onDecodeError, [.undecodable probe error])
  onDrop := Session.onDrop

inductive WorkerState where
  | running
  /-- It has released its program. -/
  | ended
  /-- It was brought down. -/
  | panicked
  deriving DecidableEq, Repr

structure Worker where
  program : Program
  /-- The chunks of the probes with a long text. -/
  rings : Keyed String Ring
  state : WorkerState
  deriving Repr

namespace Worker

/-- The last probe of a name. -/
def probe? (worker : Worker) (name : String) : Option ProbeSpec :=
  worker.program.probes.reverse.find? fun spec => spec.name = name

def addRing (rings : Keyed String Ring) (spec : ProbeSpec) : Keyed String Ring :=
  if spec.longText?.isSome then
    Keyed.insert spec.name (Ring.empty ⟨spec.tuning.chunkSize, spec.tuning.chunkCount⟩) rings
  else rings

def ofProgram (program : Program) : Worker :=
  ⟨program, program.probes.foldl addRing [], .running⟩

def decoder (worker : Worker) (payload : Option PayloadDecoder) (spec : ProbeSpec) :
    RecordDecoder :=
  ⟨spec, (Keyed.get? spec.name worker.rings).map Ring.source, payload⟩

end Worker

inductive ProbeEvent where
  | record (cpu : Int) (data : Bytes)
  | lost (cpu : Int) (count : Nat)
  /-- A payload goes to the probe's ring. -/
  | payload (data : Bytes)
  | pollFails (reason : String)
  | panics
  deriving Repr

inductive EventResult where
  | handled
  /-- The length and the first chunk of a payload. -/
  | written (length : Int) (first : Nat)
  | noRing
  | noWorker
  deriving DecidableEq, Repr

structure Tracing (σ : Type) where
  /-- The workers in the order in which they were started. -/
  workers : List Worker
  sunk : σ
  notices : List Notice
  /-- Programs released since tracing began. -/
  cleanups : Nat

namespace Tracing

variable {σ : Type}

def hasProbe (probe : String) (worker : Worker) : Bool :=
  (worker.probe? probe).isSome

/-- A worker that is gone takes the names of its probes with it, also from other workers. -/
def isLost (workers : List Worker) (probe : String) : Bool :=
  workers.any fun worker => worker.state ≠ .running ∧ hasProbe probe worker

/-- The worker that has a probe: the last one started, unless the name is lost. -/
def workerIndex? (workers : List Worker) (probe : String) : Option Nat :=
  let after := workers.reverse.findIdx (hasProbe probe)
  if isLost workers probe then none
  else if after < workers.length then some (workers.length - 1 - after)
  else none

def begin (programs : List Program) (sunk : σ) : Tracing σ :=
  ⟨programs.map Worker.ofProgram, sunk, [], 0⟩

def isRunning (tracing : Tracing σ) : Bool :=
  tracing.workers.any fun worker => worker.state = .running

def setWorker (tracing : Tracing σ) (index : Nat) (worker : Worker) : Tracing σ :=
  { tracing with workers := tracing.workers.set index worker }

def tell (tracing : Tracing σ) (notices : List Notice) : Tracing σ :=
  { tracing with notices := tracing.notices ++ notices }

def onRecord (sink : Sink σ) (decoder : RecordDecoder) (cpu : Int) (data : Bytes)
    (tracing : Tracing σ) : Tracing σ :=
  let (sunk, notices) := match decoder.decode cpu data with
    | .ok hit => sink.onHit tracing.sunk hit
    | .error error => sink.onDecodeError tracing.sunk decoder.spec.name error
  { tracing with sunk }.tell notices

/-- Handles an event at a probe of a running worker. -/
def handle (sink : Sink σ) (payload : Option PayloadDecoder) (tracing : Tracing σ) (index : Nat)
    (worker : Worker) (spec : ProbeSpec) : ProbeEvent → EventResult × Tracing σ
  | .record cpu data =>
    (.handled, onRecord sink (worker.decoder payload spec) cpu data tracing)
  | .lost cpu count =>
    (.handled,
      { tracing with sunk := sink.onDrop tracing.sunk spec.name count }.tell
        [.eventsLost spec.name cpu count])
  | .payload data =>
    match Keyed.get? spec.name worker.rings with
    | none => (.noRing, tracing)
    | some ring =>
      let ((length, first), next) := ring.write data
      (.written length first,
        tracing.setWorker index
          { worker with rings := Keyed.insert spec.name next worker.rings })
  | .pollFails reason =>
    (.handled,
      { tracing.setWorker index { worker with state := .ended } with
        cleanups := tracing.cleanups + 1 }.tell
        [.pollingFailed (AttachError.poll reason).message])
  | .panics => (.handled, tracing.setWorker index { worker with state := .panicked })

def deliver (sink : Sink σ) (payload : Option PayloadDecoder) (tracing : Tracing σ)
    (probe : String) (event : ProbeEvent) : EventResult × Tracing σ :=
  match workerIndex? tracing.workers probe with
  | none => (.noWorker, tracing)
  | some index =>
    match tracing.workers[index]? with
    | none => (.noWorker, tracing)
    | some worker =>
      match worker.state, worker.probe? probe with
      | .running, some spec => handle sink payload tracing index worker spec event
      | _, _ => (.noWorker, tracing)

def inState (state : WorkerState) (workers : List Worker) : List Worker :=
  workers.filter fun worker => worker.state = state

/-- Ends all workers: those that run release their programs, those brought down are noticed. -/
def stop (tracing : Tracing σ) : Tracing σ :=
  { tracing with
    workers := tracing.workers.map fun worker =>
      if worker.state = .running then { worker with state := .ended } else worker
    notices := tracing.notices ++
      (inState .panicked tracing.workers).map fun _ => Notice.workerPanicked
    cleanups := tracing.cleanups + (inState .running tracing.workers).length }

end Tracing
end ProbeTrace
