import ProbeTrace.Attach.Start
import ProbeTrace.Program.Plan

/-!
# Attaching

Probes are planned into programs, and these are started in order. A program that
turns out too large is cut into halves as long as it has two probes. Any other
failure ends it all: whatever is running by then is released.
-/

set_option autoImplicit false

namespace ProbeTrace.Attachment

/-- Starts programs for a group of probes, one if it can be. -/
def attachGroup (backend : Backend) (target : AttachTarget) (group : List ProbeSpec) :
    Starting Unit := do
  try start backend target ⟨group⟩
  catch fault =>
    match fault.oversize? with
    | none => throw fault
    | some reason =>
      if h : 1 < group.length then
        tell (.splitting group.length reason)
        attachGroup backend target (group.take (group.length / 2))
        attachGroup backend target (group.drop (group.length / 2))
      else throw fault
termination_by group.length
decreasing_by
  · simp only [List.length_take]
    omega
  · simp only [List.length_drop]
    omega

def shutdown (backend : Backend) : Starting Unit := do
  let state ← get
  state.running.forM fun program => notify backend (.cleanup program)
  modify fun (state : Attachment) => { state with running := [] }

/-- Attaches all probes, or none. -/
def attach (backend : Backend) (target : AttachTarget) (budget : Nat) (specs : List ProbeSpec) :
    Starting Unit := do
  try (Plan.programs specs budget).forM (attachGroup backend target)
  catch fault =>
    shutdown backend
    throw fault

def run (backend : Backend) (target : AttachTarget) (budget : Nat) (specs : List ProbeSpec) :
    Except AttachError Unit × Attachment :=
  match (attach backend target budget specs).run empty with
  | (.ok (), state) => (.ok (), state)
  | (.error fault, state) => (.error fault.error, state)

/-- How often a program was released. -/
def cleanups (state : Attachment) : Nat :=
  (state.exchanges.filter fun exchange =>
    match exchange.call with
    | .cleanup _ => true
    | _ => false).length

end ProbeTrace.Attachment
