import ProbeTrace.Attach.Backend

/-!
# Rehearsals

A backend without a kernel. Every call succeeds unless it is to fail, which is
asked for by the names of probes: a call that concerns such a probe is refused.
-/

set_option autoImplicit false

namespace ProbeTrace

/-- The probes at which the calls of each kind fail, and the most probes a program may have. -/
structure Faults where
  compile : Option String
  panic : Option String
  enable : Option String
  maxProbes : Option Nat
  limit : Option String
  reject : Option String
  load : Option String
  stream : Option String
  chunks : Option String
  deriving DecidableEq, Repr

namespace Faults

/-- The reason that is given for a refusal that needs one. -/
def reason : String := "scripted"

/-- The probe of a fault, if a program contains it. -/
def within (program : Program) (fault : Option String) : Option String :=
  fault.filter fun probe => probe ∈ program.probeNames

/-- The number of probes in a program that has too many of them. -/
def overfull (program : Program) (maxProbes : Option Nat) : Option Nat :=
  if maxProbes.any fun most => most < program.probes.length then some program.probes.length
  else none

/-- Why a program is not loaded, in the order in which it is checked. -/
def loadError? (faults : Faults) (program : Program) : Option AttachError :=
  ((overfull program faults.maxProbes).map fun n =>
      AttachError.limitExceeded s!"{n} probes").or
    (((within program faults.limit).map AttachError.limitExceeded).or
      (((within program faults.reject).map AttachError.verifierRejected).or
        ((within program faults.load).map AttachError.load)))

def compileReply (faults : Faults) (program : Program) : Reply :=
  match within program faults.compile, within program faults.panic with
  | some probe, _ => .refused (.compile probe)
  | none, some _ => .panicked
  | none, none => .done

def reply (faults : Faults) : Call → Reply
  | .compile program => faults.compileReply program
  | .enable provider probe _ =>
    if faults.enable = some probe then .refused (.enable provider probe reason) else .done
  | .load program _ =>
    match faults.loadError? program with
    | some error => .refused error
    | none => .done
  | .chunks store =>
    if faults.chunks.map Program.Names.chunkStore = some store then
      .refused (.chunkStore store)
    else .done
  | .stream channel =>
    if faults.stream.map Program.Names.channel = some channel then
      .refused (.eventStream channel reason)
    else .done
  | .cleanup _ => .done

def backend (faults : Faults) : Backend := fun _ call =>
  faults.reply call

end Faults
end ProbeTrace
