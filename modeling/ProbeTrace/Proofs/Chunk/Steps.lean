import ProbeTrace.Proofs.Chunk.Pieces
import ProbeTrace.Proofs.Outcome

/-!
# Reassembly step by step

Slices, differences, quotients and sums of 32 bits have no result for some operands.
Here a payload is put together in such steps. They come to what reassembly gives, but
for a sum that is too large: the start of a payload and the number of one of its chunks.
-/

set_option autoImplicit false

namespace ProbeTrace

open Outcome

/-- A step that has no result. -/
inductive Fault where
  /-- A slice that goes beyond the bytes there are. -/
  | slice (start stop length : Nat)
  | difference (a b : Nat)
  /-- A division by zero. -/
  | quotient (a : Nat)
  /-- A sum that does not fit in 32 bits. -/
  | sum (a b : Nat)
  deriving DecidableEq, Repr

namespace Step

def slice (data : Bytes) (start stop : Nat) : Except Fault Bytes :=
  if start ≤ stop ∧ stop ≤ data.length then .ok ((data.take stop).drop start)
  else .error (.slice start stop data.length)

def difference (a b : Nat) : Except Fault Nat :=
  if b ≤ a then .ok (a - b) else .error (.difference a b)

def quotient (a b : Nat) : Except Fault Nat :=
  if b = 0 then .error (.quotient a) else .ok (a / b)

def remainder (a b : Nat) : Except Fault Nat :=
  if b = 0 then .error (.quotient a) else .ok (a % b)

def sum (a b : Nat) : Except Fault Nat :=
  if a + b < UInt32.size then .ok (a + b) else .error (.sum a b)

theorem slice_front {data : Bytes} {n : Nat} (h : n ≤ data.length) :
    slice data 0 n = .ok (data.take n) :=
  if_pos ⟨Nat.zero_le n, h⟩

theorem difference_eq {a b c : Nat} (h : b + c = a) : difference a b = .ok c := by
  rw [difference, if_pos (by omega)]
  exact congrArg Except.ok (by omega)

theorem quotient_eq {a b : Nat} (h : 0 < b) : quotient a b = .ok (a / b) :=
  if_neg (Nat.ne_of_gt h)

theorem remainder_eq {a b : Nat} (h : 0 < b) : remainder a b = .ok (a % b) :=
  if_neg (Nat.ne_of_gt h)

theorem sum_eq {a b : Nat} (h : a + b < UInt32.size) : sum a b = .ok (a + b) :=
  if_pos h

theorem sum_fault {a b : Nat} (h : ¬ a + b < UInt32.size) : sum a b = .error (.sum a b) :=
  if_neg h

end Step

namespace Geometry

def chunksNeededSteps (geometry : Geometry) (length : Nat) : Except Fault Nat :=
  if geometry.size = 0 then .ok 0
  else Step.quotient (length + geometry.size.toNat - 1) geometry.size.toNat

theorem chunksNeededSteps_eq (geometry : Geometry) (length : Nat) :
    geometry.chunksNeededSteps length = .ok (geometry.chunksNeeded length) := by
  by_cases hsize : geometry.size = 0
  · rw [chunksNeededSteps, chunksNeeded, if_pos hsize, if_pos hsize]
  · rw [chunksNeededSteps, chunksNeeded, if_neg hsize, if_neg hsize,
      Step.quotient_eq (size_pos hsize)]

end Geometry

theorem Gathering.payload_push (gathering : Gathering) (reads : List Nat) (part : Bytes) :
    payload ⟨reads, part :: gathering.parts⟩ = gathering.payload ++ part := by
  simp [payload]

namespace Chunk

/-- Reads `n` chunks on from the `i`-th of a payload of which a part is there. -/
def gatherSteps (source : ChunkSource) (geometry : Geometry) (start length : Nat) :
    Nat → Nat → Bytes → Except Fault (Except TransferFault Bytes)
  | 0, _, payload => .ok (.ok payload)
  | n + 1, i, payload => do
    let place ← Step.sum start i
    let index ← Step.remainder place geometry.count.toNat
    let missing ← Step.difference length payload.length
    let want := min missing geometry.size.toNat
    match source index want with
    | none => return .error .badChunkIndex
    | some chunk =>
      if chunk.length < want then return .error .lengthMismatch
      else
        let part ← Step.slice chunk 0 want
        gatherSteps source geometry start length n (i + 1) (payload ++ part)

def reassembleSteps (source : ChunkSource) (geometry : Geometry) (start length : Nat) :
    Except Fault (Except TransferFault Bytes) :=
  if geometry.count = 0 ∨ geometry.count.toNat ≤ start then .ok (.error .badChunkIndex)
  else do
    let needed ← geometry.chunksNeededSteps length
    if geometry.count.toNat < needed then return .error .lengthMismatch
    else gatherSteps source geometry start length needed 0 []

variable {source : ChunkSource} {geometry : Geometry} {start length : Nat}

theorem length_append_take {missing size : Nat} {payload chunk : Bytes}
    (hmissing : payload.length + missing = length) (hlong : min missing size ≤ chunk.length) :
    (payload ++ chunk.take (min missing size)).length + (missing - min missing size) =
      length := by
  rw [List.length_append, List.length_take_of_le hlong]
  omega

/-- One chunk, if the sum for its place has a result. -/
theorem gatherSteps_succ (hcount : 0 < geometry.count.toNat) {n i missing : Nat} {payload : Bytes}
    (hmissing : payload.length + missing = length) (hsum : start + i < UInt32.size) :
    gatherSteps source geometry start length (n + 1) i payload =
      match source (geometry.readSlot start i) (min missing geometry.size.toNat) with
      | none => .ok (.error .badChunkIndex)
      | some chunk =>
        if chunk.length < min missing geometry.size.toNat then .ok (.error .lengthMismatch)
        else gatherSteps source geometry start length n (i + 1)
          (payload ++ chunk.take (min missing geometry.size.toNat)) := by
  have hindex : geometry.readSlot start i = (start + i) % geometry.count.toNat :=
    Geometry.readSlot_eq hsum
  rw [gatherSteps, Step.sum_eq hsum, ok_bind, Step.remainder_eq hcount, ok_bind,
    Step.difference_eq hmissing, ok_bind, hindex]
  dsimp only
  cases source ((start + i) % geometry.count.toNat) (min missing geometry.size.toNat) with
  | none => rfl
  | some chunk =>
    dsimp only
    split
    · rfl
    · rw [Step.slice_front (by omega), ok_bind]

/-- The steps come to what reading gives, up to the first place that is no sum of 32 bits. -/
theorem gatherSteps_eq (hcount : 0 < geometry.count.toNat) {n i missing : Nat}
    {gathering : Gathering} (hmissing : gathering.payload.length + missing = length) :
    gatherSteps source geometry start length n i gathering.payload =
        .ok (gather source geometry start n i missing gathering).2 ∨
      ∃ j < i + n, UInt32.size ≤ start + j ∧
        gatherSteps source geometry start length n i gathering.payload = .error (.sum start j) := by
  induction n generalizing i missing gathering with
  | zero => exact .inl rfl
  | succ n ih =>
    by_cases hsum : start + i < UInt32.size
    · rw [gatherSteps_succ hcount hmissing hsum, gather]
      cases source (geometry.readSlot start i) (min missing geometry.size.toNat) with
      | none => exact .inl rfl
      | some chunk =>
        by_cases hshort : chunk.length < min missing geometry.size.toNat
        · apply Or.inl
          simp only [if_pos hshort]
        · have hpushed := gathering.payload_push (geometry.readSlot start i :: gathering.reads)
            (chunk.take (min missing geometry.size.toNat))
          have hrest := length_append_take hmissing (Nat.not_lt.1 hshort)
          simp only [if_neg hshort]
          rw [← hpushed] at hrest ⊢
          rcases ih (i := i + 1) hrest with h | ⟨j, hj, hlarge, hfault⟩
          · exact .inl h
          · exact .inr ⟨j, by omega, hlarge, hfault⟩
    · refine .inr ⟨i, by omega, by omega, ?_⟩
      rw [gatherSteps, Step.sum_fault hsum, error_bind]

theorem inside (hstart : start < geometry.count.toNat) :
    ¬ (geometry.count = 0 ∨ geometry.count.toNat ≤ start) := by
  rintro (hzero | houtside)
  · rw [hzero] at hstart
    exact absurd hstart (Nat.not_lt_zero start)
  · omega

/-- No step of reassembly fails but the sum that says where a chunk is, for a chunk that the
payload needs and the ring has. -/
theorem reassembleSteps_eq (source : ChunkSource) (geometry : Geometry) (start length : Nat) :
    reassembleSteps source geometry start length = .ok (reassemble source geometry start length) ∨
      ∃ i < geometry.chunksNeeded length, geometry.chunksNeeded length ≤ geometry.count.toNat ∧
        start < geometry.count.toNat ∧ UInt32.size ≤ start + i ∧
        reassembleSteps source geometry start length = .error (.sum start i) := by
  by_cases hstart : geometry.count.toNat ≤ start
  · rw [reassembleSteps, if_pos (.inr hstart), reassemble, reassembly, if_pos hstart]
    exact .inl rfl
  · have hcount : 0 < geometry.count.toNat := by omega
    rw [reassembleSteps, if_neg (inside (Nat.not_le.1 hstart)), Geometry.chunksNeededSteps_eq,
      ok_bind, reassemble, reassembly, if_neg hstart]
    by_cases hneeded : geometry.count.toNat < geometry.chunksNeeded length
    · rw [if_pos hneeded, if_pos hneeded]
      exact .inl rfl
    · rw [if_neg hneeded, if_neg hneeded]
      have hnone : Gathering.empty.payload.length + length = length := Nat.zero_add length
      have hsteps := @gatherSteps_eq source geometry start length hcount
        (geometry.chunksNeeded length) 0 length .empty hnone
      rcases hsteps with h | ⟨i, hi, hlarge, hfault⟩
      · exact .inl h
      · exact .inr ⟨i, by omega, by omega, by omega, hlarge, hfault⟩

/-- With every chunk there and long enough, all sums are made. -/
theorem sums_of_gatherSteps (hcount : 0 < geometry.count.toNat) {chunk : Bytes}
    (hchunk : geometry.size.toNat ≤ chunk.length) {n i missing : Nat} {payload : Bytes}
    (hmissing : payload.length + missing = length) {result : Except TransferFault Bytes}
    (h : gatherSteps (fun _ _ => some chunk) geometry start length n i payload = .ok result) :
    ∀ j < n, start + (i + j) < UInt32.size := by
  induction n generalizing i missing payload with
  | zero => exact nofun
  | succ n ih =>
    by_cases hsum : start + i < UInt32.size
    · rw [gatherSteps_succ hcount hmissing hsum] at h
      have hlong : ¬ chunk.length < min missing geometry.size.toNat := by omega
      simp only [if_neg hlong] at h
      have hrest := ih (length_append_take hmissing (Nat.not_lt.1 hlong)) h
      intro j hj
      cases j with
      | zero => exact hsum
      | succ j =>
        have hlater := hrest j (by omega)
        omega
    · rw [gatherSteps, Step.sum_fault hsum, error_bind] at h
      cases h

theorem sums_of_reassembleSteps (hstart : start < geometry.count.toNat)
    (hneeded : geometry.chunksNeeded length ≤ geometry.count.toNat) {chunk : Bytes}
    (hchunk : geometry.size.toNat ≤ chunk.length) {result : Except TransferFault Bytes}
    (h : reassembleSteps (fun _ _ => some chunk) geometry start length = .ok result) :
    ∀ i < geometry.chunksNeeded length, start + i < UInt32.size := by
  have hcount : 0 < geometry.count.toNat := by omega
  rw [reassembleSteps, if_neg (inside hstart), Geometry.chunksNeededSteps_eq, ok_bind,
    if_neg (by omega)] at h
  intro i hi
  have hsum := sums_of_gatherSteps hcount hchunk (Nat.zero_add length) h i hi
  omega

end Chunk
end ProbeTrace
