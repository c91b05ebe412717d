import ProbeTrace.Chunk.Geometry

/-!
# The chunk ring

A writer reserves as many chunks as a payload needs by moving a 32-bit counter
on, and fills them with the payload's pieces. It never waits for a reader: a
writer that comes round again writes over what is there. A short piece leaves
the rest of its chunk as it was, and what was never written counts as zero.
-/

set_option autoImplicit false

namespace ProbeTrace

structure Ring where
  geometry : Geometry
  /-- What each chunk holds, up to the last byte ever written to it. -/
  chunks : Array Bytes
  /-- Chunks reserved so far, modulo `2 ^ 32`. -/
  next : UInt32
  deriving DecidableEq, Repr

namespace Ring

def empty (geometry : Geometry) : Ring :=
  ⟨geometry, Array.replicate geometry.count.toNat [], 0⟩

def beginning (n : Nat) (chunk : Bytes) : Bytes :=
  chunk.take n ++ List.replicate (n - chunk.length) 0

def overwrite (piece chunk : Bytes) : Bytes :=
  piece ++ chunk.drop piece.length

/-- Cuts a payload into `n` pieces and writes them to successive chunks from `start` on. -/
def store (geometry : Geometry) : Nat → Nat → Bytes → Array Bytes → Array Bytes
  | 0, _, _, chunks => chunks
  | n + 1, start, payload, chunks =>
    store geometry n (start + 1) (payload.drop geometry.size.toNat)
      (chunks.modify (geometry.slot start 0) (overwrite (payload.take geometry.size.toNat)))

/-- The longest payload whose length a record can state. -/
def longest : Nat := Nat.pow 2 31 - 1

/-- Writes a payload; the result is its length and first chunk. A payload that does not
fit is reported as a fault and leaves the ring as it is. -/
def write (ring : Ring) (payload : Bytes) : (Int × Nat) × Ring :=
  let needed := ring.geometry.chunksNeeded payload.length
  if longest < payload.length ∨ ring.geometry.count.toNat < needed then
    ((TransferFault.lengthMismatchCode, 0), ring)
  else
    let first := ring.next.toNat % ring.geometry.count.toNat
    ((payload.length, first),
      { ring with
        chunks := store ring.geometry needed first payload ring.chunks
        next := ring.next + UInt32.ofNat needed })

/-- Reading from a chunk of the ring. -/
def source (ring : Ring) : ChunkSource := fun index n =>
  ring.chunks[index]?.map (beginning (min n ring.geometry.size.toNat))

def chunk? (ring : Ring) (index : Nat) : Option Bytes :=
  ring.source index ring.geometry.size.toNat

theorem store_size (geometry : Geometry) (n start : Nat) (payload : Bytes)
    (chunks : Array Bytes) : (store geometry n start payload chunks).size = chunks.size := by
  induction n generalizing start payload chunks with
  | zero => rfl
  | succ n ih => simp [store, ih]

theorem write_geometry (ring : Ring) (payload : Bytes) :
    (ring.write payload).2.geometry = ring.geometry := by
  simp only [write]
  split <;> rfl

theorem write_size (ring : Ring) (payload : Bytes) :
    (ring.write payload).2.chunks.size = ring.chunks.size := by
  simp only [write]
  split
  · rfl
  · exact store_size ..

end Ring
end ProbeTrace
