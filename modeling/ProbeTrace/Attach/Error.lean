/-!
# Errors of attaching

The ways in which a group of probes can fail to be attached, and their wording.
-/

set_option autoImplicit false

namespace ProbeTrace

inductive AttachError where
  | compile (message : String)
  | enable (provider probe reason : String)
  | verifierRejected (message : String)
  | limitExceeded (message : String)
  | load (message : String)
  | eventStream (channel reason : String)
  | chunkStore (name : String)
  | poll (message : String)
  | workerLost
  /-- The operating system refused something. -/
  | system (message : String)
  deriving DecidableEq, Repr

namespace AttachError

def message : AttachError → String
  | .compile message => s!"failed to compile program: {message}"
  | .enable provider probe reason => s!"failed to enable probe {provider}:{probe}: {reason}"
  | .verifierRejected message => s!"program rejected by the verifier: {message}"
  | .limitExceeded message => s!"program exceeds the kernel's size limits: {message}"
  | .load message => s!"failed to load program: {message}"
  | .eventStream channel reason => s!"failed to open event stream {channel}: {reason}"
  | .chunkStore name => s!"program has no chunk store named {name}"
  | .poll message => s!"polling failed: {message}"
  | .workerLost => "worker exited before the program was attached"
  | .system message => message

end AttachError
end ProbeTrace
