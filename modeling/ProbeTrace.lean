import ProbeTrace.Attach.Rehearsal
import ProbeTrace.Attach.Tracing
import ProbeTrace.Main
import ProbeTrace.Proofs.History.Store
import ProbeTrace.Proofs.Record.RoundTrip
import ProbeTrace.Proofs.Span.Conservation
import ProbeTrace.Proofs.Chunk.Pieces
import ProbeTrace.Proofs.Chunk.Writes
import ProbeTrace.Proofs.Chunk.Lapping
import ProbeTrace.Proofs.Record.LongText
import ProbeTrace.Proofs.Span.Nesting
import ProbeTrace.Proofs.Span.WellFormed
import ProbeTrace.Proofs.Span.Inversion
import ProbeTrace.Proofs.Session.Events
import ProbeTrace.Proofs.Session.Operations
import ProbeTrace.Proofs.Session.Reporting
import ProbeTrace.Proofs.Stats.Live
import ProbeTrace.Proofs.History.Arrival
import ProbeTrace.Proofs.Session.Arrival
import ProbeTrace.Proofs.Attach.AllOrNone
import ProbeTrace.Proofs.Probe.WellFormed
import ProbeTrace.Proofs.Session.Accounting
import ProbeTrace.Proofs.Program.Declarations
import ProbeTrace.Proofs.Program.Agreement
import ProbeTrace.Proofs.Program.Shapes
import ProbeTrace.Proofs.Program.Copying
import ProbeTrace.Proofs.Program.Packing
import ProbeTrace.Proofs.Chunk.Reading
import ProbeTrace.Proofs.Span.Cuts
import ProbeTrace.Proofs.Stats.ThreadTimers
import ProbeTrace.Proofs.Stats.Passes
import ProbeTrace.Proofs.Stats.ThreadOrder
import ProbeTrace.Proofs.Stats.Families
import ProbeTrace.Proofs.Span.Completed
import ProbeTrace.Proofs.Span.Depth
import ProbeTrace.Proofs.Chunk.Steps
import ProbeTrace.Proofs.Record.Steps
import ProbeTrace.Proofs.Record.Faultless
