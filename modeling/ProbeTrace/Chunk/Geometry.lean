import ProbeTrace.Bytes
import ProbeTrace.Chunk.Transfer

/-!
# Chunks

A payload is cut into chunks of one size, which lie one after the other in a
ring of chunks. Putting it together again reads the chunks in order and takes
from each what is still missing.
-/

set_option autoImplicit false

namespace ProbeTrace

/-- The size of a chunk in bytes and the number of chunks in the ring. -/
structure Geometry where
  size : UInt32
  count : UInt32
  deriving DecidableEq, Repr

namespace Geometry

def chunksNeeded (geometry : Geometry) (length : Nat) : Nat :=
  if geometry.size = 0 then 0
  else (length + geometry.size.toNat - 1) / geometry.size.toNat

/-- The place of the `i`-th chunk after `start` on the ring. -/
def slot (geometry : Geometry) (start i : Nat) : Nat :=
  (start + i) % geometry.count.toNat

/-- The same place as a reader finds it, who adds in 32 bits. -/
def readSlot (geometry : Geometry) (start i : Nat) : Nat :=
  (start + i) % UInt32.size % geometry.count.toNat

end Geometry

/-- Where chunks are read from, by their number and the bytes that are wanted. A chunk
may be missing or shorter than that; what is beyond it does not matter. -/
abbrev ChunkSource := Nat → Nat → Option Bytes

/-- The source that has the given chunks, whole. -/
def ChunkSource.ofChunks (chunks : Nat → Option Bytes) : ChunkSource := fun index _ =>
  chunks index

/-- What has been read of a payload, the latest first: which chunks, and what was taken
from them. -/
structure Gathering where
  reads : List Nat
  parts : List Bytes
  deriving DecidableEq, Repr

namespace Gathering

def empty : Gathering :=
  ⟨[], []⟩

def payload (gathering : Gathering) : Bytes :=
  gathering.parts.reverse.flatten

end Gathering

namespace Chunk

/-- Reads `n` chunks on from the `i`-th, with `missing` bytes to come. The first part of
the result lists the chunks asked for, the last of them being the one that failed. -/
def gather (source : ChunkSource) (geometry : Geometry) (start : Nat) :
    Nat → Nat → Nat → Gathering → List Nat × Except TransferFault Bytes
  | 0, _, _, gathering => (gathering.reads.reverse, .ok gathering.payload)
  | n + 1, i, missing, gathering =>
    let index := geometry.readSlot start i
    let reads := index :: gathering.reads
    let want := min missing geometry.size.toNat
    match source index want with
    | none => (reads.reverse, .error .badChunkIndex)
    | some chunk =>
      if chunk.length < want then (reads.reverse, .error .lengthMismatch)
      else
        gather source geometry start n (i + 1) (missing - want)
          ⟨reads, chunk.take want :: gathering.parts⟩

/-- The chunks asked for and the payload of `length` bytes that starts at chunk `start`. -/
def reassembly (source : ChunkSource) (geometry : Geometry) (start length : Nat) :
    List Nat × Except TransferFault Bytes :=
  if geometry.count.toNat ≤ start then ([], .error .badChunkIndex)
  else if geometry.count.toNat < geometry.chunksNeeded length then ([], .error .lengthMismatch)
  else gather source geometry start (geometry.chunksNeeded length) 0 length .empty

def reassemble (source : ChunkSource) (geometry : Geometry) (start length : Nat) :
    Except TransferFault Bytes :=
  (reassembly source geometry start length).2

end Chunk
end ProbeTrace
