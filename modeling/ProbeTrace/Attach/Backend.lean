import ProbeTrace.Attach.Error
import ProbeTrace.Program.Emit

/-!
# Backends

What compiles, loads and attaches programs is asked one call after the other. A
backend is given by its replies, which may depend on everything before; a call
can also bring down the worker that makes it.
-/

set_option autoImplicit false

namespace ProbeTrace

inductive Call where
  | compile (program : Program)
  /-- Have an entry function run whenever a provider's probe fires. -/
  | enable (provider probe entry : String)
  /-- Load a program and attach its probes to a process. -/
  | load (program : Program) (pid : Nat)
  /-- Give access to a store of chunks. -/
  | chunks (store : String)
  /-- Open the stream of events of a channel. -/
  | stream (channel : String)
  /-- Detach a loaded program and release it. -/
  | cleanup (program : Program)
  deriving Repr

inductive Reply where
  | done
  | refused (error : AttachError)
  | panicked
  deriving DecidableEq, Repr

structure Exchange where
  call : Call
  reply : Reply
  deriving Repr

/-- The reply to a call after some exchanges. -/
abbrev Backend := List Exchange → Call → Reply

end ProbeTrace
