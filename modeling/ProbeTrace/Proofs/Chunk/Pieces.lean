import ProbeTrace.Chunk.Ring

/-!
# Payloads in chunks

A payload lies on a ring when each of its pieces is the beginning of its chunk;
what is behind a piece does not matter. Storing a payload makes it lie there and
leaves all other chunks alone, and reading gives back a payload that lies there.
-/

set_option autoImplicit false

namespace ProbeTrace

namespace Geometry

variable {geometry : Geometry}

theorem size_pos (hsize : geometry.size ≠ 0) : 0 < geometry.size.toNat := by
  have hne : geometry.size.toNat ≠ 0 := fun h => hsize (UInt32.toNat_inj.1 h)
  omega

theorem count_pos (hcount : geometry.count ≠ 0) : 0 < geometry.count.toNat := by
  have hne : geometry.count.toNat ≠ 0 := fun h => hcount (UInt32.toNat_inj.1 h)
  omega

theorem chunksNeeded_eq (hsize : geometry.size ≠ 0) (length : Nat) :
    geometry.chunksNeeded length = (length + geometry.size.toNat - 1) / geometry.size.toNat :=
  if_neg hsize

theorem chunksNeeded_zero (hsize : geometry.size ≠ 0) : geometry.chunksNeeded 0 = 0 := by
  have hpos := size_pos hsize
  rw [chunksNeeded_eq hsize]
  exact Nat.div_eq_of_lt (by omega)

theorem chunksNeeded_one (hsize : geometry.size ≠ 0) : geometry.chunksNeeded 1 = 1 := by
  have hpos := size_pos hsize
  rw [chunksNeeded_eq hsize, Nat.add_sub_cancel_left, Nat.div_self hpos]

/-- Taking one chunk's bytes off a payload leaves one chunk fewer to write. -/
theorem chunksNeeded_sub (hsize : geometry.size ≠ 0) (length : Nat) :
    geometry.chunksNeeded (length - geometry.size.toNat) = geometry.chunksNeeded length - 1 := by
  have hpos := size_pos hsize
  rw [chunksNeeded_eq hsize, chunksNeeded_eq hsize]
  generalize geometry.size.toNat = size at hpos ⊢
  by_cases hlong : size ≤ length
  · have hrest : length - size + size - 1 = length - 1 := by omega
    have hwhole : length + size - 1 = length - 1 + size := by omega
    rw [hrest, hwhole, Nat.add_div_right _ hpos, Nat.succ_sub_one]
  · have hrest : (length - size + size - 1) / size = 0 := Nat.div_eq_of_lt (by omega)
    have hwhole : (length + size - 1) / size < 2 := by
      rw [Nat.div_lt_iff_lt_mul hpos]
      omega
    omega

theorem chunksNeeded_eq_zero (hsize : geometry.size ≠ 0) {length : Nat}
    (h : geometry.chunksNeeded length = 0) : length = 0 := by
  have hpos := size_pos hsize
  rw [chunksNeeded_eq hsize, Nat.div_eq_zero_iff_lt hpos] at h
  omega

/-- The part of a payload that goes to its `k`-th chunk. -/
def piece (geometry : Geometry) (payload : Bytes) (k : Nat) : Bytes :=
  (payload.drop (k * geometry.size.toNat)).take geometry.size.toNat

theorem piece_zero (payload : Bytes) :
    geometry.piece payload 0 = payload.take geometry.size.toNat := by
  simp [piece]

theorem piece_succ (payload : Bytes) (k : Nat) :
    geometry.piece payload (k + 1) = geometry.piece (payload.drop geometry.size.toNat) k := by
  rw [piece, piece, List.drop_drop, Nat.succ_mul, Nat.add_comm]

theorem slot_succ (start k : Nat) : geometry.slot start (k + 1) = geometry.slot (start + 1) k := by
  rw [slot, slot, Nat.add_assoc, Nat.add_comm 1 k]

theorem slot_lt (hcount : 0 < geometry.count.toNat) (start k : Nat) :
    geometry.slot start k < geometry.count.toNat :=
  Nat.mod_lt _ hcount

/-- Places less than a lap apart are different places. -/
theorem slot_ne {start start' i j : Nat} (hlt : start + i < start' + j)
    (hlap : start' + j < start + i + geometry.count.toNat) :
    geometry.slot start i ≠ geometry.slot start' j := by
  intro heq
  have hmod : (start' + j - (start + i)) % geometry.count.toNat = 0 :=
    Nat.sub_mod_eq_zero_of_mod_eq heq.symm
  rw [Nat.mod_eq_of_lt (by omega)] at hmod
  omega

theorem readSlot_eq {start i : Nat} (h : start + i < UInt32.size) :
    geometry.readSlot start i = geometry.slot start i := by
  rw [readSlot, slot, Nat.mod_eq_of_lt h]

end Geometry

namespace Ring

variable {geometry : Geometry}

/-- Each piece of a payload is the beginning of its chunk. -/
def Lies (geometry : Geometry) (chunks : Array Bytes) (start : Nat) (payload : Bytes) : Prop :=
  ∀ k < geometry.chunksNeeded payload.length,
    ∃ rest, chunks[geometry.slot start k]? = some (geometry.piece payload k ++ rest)

theorem store_getElem?_of_ne {n start index : Nat} {payload : Bytes} {chunks : Array Bytes}
    (h : ∀ k < n, geometry.slot start k ≠ index) :
    (store geometry n start payload chunks)[index]? = chunks[index]? := by
  induction n generalizing start payload chunks with
  | zero => rfl
  | succ n ih =>
    have hrest : ∀ k < n, geometry.slot (start + 1) k ≠ index := by
      intro k hk
      rw [← Geometry.slot_succ]
      exact h (k + 1) (by omega)
    rw [store, ih hrest, Array.getElem?_modify, if_neg (h 0 (by omega))]

/-- A chunk that is written begins with its piece of the payload. -/
theorem store_getElem? {n start k : Nat} {payload : Bytes} {chunks : Array Bytes}
    (hchunks : chunks.size = geometry.count.toNat) (hn : n ≤ geometry.count.toNat) (hk : k < n) :
    ∃ rest, (store geometry n start payload chunks)[geometry.slot start k]? =
      some (geometry.piece payload k ++ rest) := by
  induction n generalizing start k payload chunks with
  | zero => omega
  | succ n ih =>
    rw [store]
    cases k with
    | zero =>
      -- The chunks written after the first are others.
      have hlater : ∀ k < n, geometry.slot (start + 1) k ≠ geometry.slot start 0 := by
        intro k hk
        exact (Geometry.slot_ne (by omega) (by omega)).symm
      have hslot : geometry.slot start 0 < chunks.size := by
        rw [hchunks]
        exact Geometry.slot_lt (by omega) start 0
      refine ⟨chunks[geometry.slot start 0].drop (geometry.piece payload 0).length, ?_⟩
      rw [store_getElem?_of_ne hlater, Array.getElem?_modify, if_pos rfl,
        Array.getElem?_eq_getElem hslot, Geometry.piece_zero]
      rfl
    | succ k =>
      rw [Geometry.slot_succ, Geometry.piece_succ]
      exact ih (by rw [Array.size_modify, hchunks]) (by omega) (by omega)

theorem store_lies {start : Nat} {payload : Bytes} {chunks : Array Bytes}
    (hchunks : chunks.size = geometry.count.toNat)
    (hfits : geometry.chunksNeeded payload.length ≤ geometry.count.toNat) :
    Lies geometry (store geometry (geometry.chunksNeeded payload.length) start payload chunks)
      start payload := by
  intro k hk
  exact store_getElem? hchunks hfits hk

/-- Storing to other chunks moves nothing. -/
theorem Lies.store {start n start' : Nat} {payload payload' : Bytes} {chunks : Array Bytes}
    (h : Lies geometry chunks start payload)
    (hne : ∀ k < geometry.chunksNeeded payload.length, ∀ j < n,
      geometry.slot start' j ≠ geometry.slot start k) :
    Lies geometry (store geometry n start' payload' chunks) start payload := by
  intro k hk
  rw [store_getElem?_of_ne (hne k hk)]
  exact h k hk

theorem beginning_append {piece rest : Bytes} {n : Nat} (h : piece.length = n) :
    beginning n (piece ++ rest) = piece := by
  have hshort : n - (piece ++ rest).length = 0 := by
    rw [List.length_append]
    omega
  rw [beginning, hshort, List.take_left' h, List.replicate_zero, List.append_nil]

end Ring

namespace Chunk

variable {source : ChunkSource} {geometry : Geometry}

/-- A reader that finds every piece in its place gets the payload. -/
theorem gather_eq (hsize : geometry.size ≠ 0) {start i : Nat} {rest : Bytes}
    {gathering : Gathering}
    (hfound : ∀ k < geometry.chunksNeeded rest.length,
      source (geometry.readSlot start (i + k)) (geometry.piece rest k).length =
        some (geometry.piece rest k)) :
    (gather source geometry start (geometry.chunksNeeded rest.length) i rest.length gathering).2 =
      .ok (gathering.payload ++ rest) := by
  induction hn : geometry.chunksNeeded rest.length generalizing i rest gathering with
  | zero =>
    have hrest : rest = [] := List.length_eq_zero_iff.1 (Geometry.chunksNeeded_eq_zero hsize hn)
    rw [gather, hrest, List.append_nil]
  | succ n ih =>
    have hlater : geometry.chunksNeeded (rest.drop geometry.size.toNat).length = n := by
      rw [List.length_drop, Geometry.chunksNeeded_sub hsize, hn, Nat.add_sub_cancel]
    have hfirst := hfound 0 (by omega)
    rw [Geometry.piece_zero, List.length_take, Nat.min_comm, Nat.add_zero] at hfirst
    have hwhole : (rest.take geometry.size.toNat).length =
        min rest.length geometry.size.toNat := by
      rw [List.length_take, Nat.min_comm]
    have hleft : rest.length - min rest.length geometry.size.toNat =
        (rest.drop geometry.size.toNat).length := by
      rw [List.length_drop]
      omega
    have hnext : ∀ k < geometry.chunksNeeded (rest.drop geometry.size.toNat).length,
        source (geometry.readSlot start (i + 1 + k))
          (geometry.piece (rest.drop geometry.size.toNat) k).length =
            some (geometry.piece (rest.drop geometry.size.toNat) k) := by
      intro k hk
      rw [← Geometry.piece_succ, Nat.add_assoc, Nat.add_comm 1 k]
      exact hfound (k + 1) (by omega)
    simp only [gather, hfirst]
    rw [if_neg (by omega), hleft, ih hnext hlater, List.take_of_length_le (Nat.le_of_eq hwhole)]
    simp [Gathering.payload]

end Chunk

namespace Ring

/-- Reading a payload that lies on the ring gives it back. -/
theorem Lies.reassemble {ring : Ring} {start : Nat} {payload : Bytes}
    (h : Lies ring.geometry ring.chunks start payload) (hsize : ring.geometry.size ≠ 0)
    (hstart : start < ring.geometry.count.toNat)
    (hfits : ring.geometry.chunksNeeded payload.length ≤ ring.geometry.count.toNat)
    (hsum : start + ring.geometry.chunksNeeded payload.length ≤ UInt32.size) :
    Chunk.reassemble ring.source ring.geometry start payload.length = .ok payload := by
  have hfound : ∀ k < ring.geometry.chunksNeeded payload.length,
      ring.source (ring.geometry.readSlot start (0 + k))
        (ring.geometry.piece payload k).length = some (ring.geometry.piece payload k) := by
    intro k hk
    obtain ⟨rest, hrest⟩ := h k hk
    have hlength : (ring.geometry.piece payload k).length ≤ ring.geometry.size.toNat :=
      List.length_take_le _ _
    rw [Nat.zero_add, Geometry.readSlot_eq (by omega), source, hrest, Option.map_some,
      Nat.min_eq_left hlength, beginning_append rfl]
  rw [Chunk.reassemble, Chunk.reassembly, if_neg (by omega), if_neg (by omega),
    Chunk.gather_eq hsize hfound]
  rfl

end Ring
end ProbeTrace
