import ProbeTrace.Probe.Spec

/-!
# Names in programs

The names that the program of a probe gives to its functions, maps, structures
and constants. Each is the name of the probe with an ending of its own.
-/

set_option autoImplicit false

namespace ProbeTrace.Program.Names

def entry (probe : String) : String := probe ++ "_entry"

def channel (probe : String) : String := probe ++ "_events"

def output (probe : String) : String := probe ++ "_output"

def scratch (probe : String) : String := probe ++ "_scratch"

def structs (probe : String) : String := probe ++ "_structs"

def structScratch (probe : String) : String := probe ++ "_struct_scratch"

def chunk (probe : String) : String := probe ++ "_chunk"

def chunkStore (probe : String) : String := probe ++ "_chunks"

def nextChunk (probe : String) : String := probe ++ "_next_chunk"

def copyRoutine (probe : String) : String := probe ++ "_copy_long_str"

def chunkSize (probe : String) : String := probe.toUpper ++ "_CHUNK_SIZE"

def chunkCount (probe : String) : String := probe.toUpper ++ "_CHUNK_COUNT"

def threshold (probe : String) : String := probe.toUpper ++ "_SAMPLE_THRESH"

/-- The tag of the structure that stands for a structure argument. -/
def shape (probe : String) (place : Place) : String :=
  probe ++ "_level_" ++ toString place.depth ++ "_" ++ toString place.index ++ place.suffix

def badChunkIndex : String := "USDTRACE_ERR_BAD_CHUNK_IDX"

def badProbeRead : String := "USDTRACE_ERR_BAD_PROBE_READ"

def lengthFault : String := "USDTRACE_ERR_LENGTH"

end ProbeTrace.Program.Names
