import ProbeTrace.Proofs.Chunk.Pieces

/-!
# Sequences of writes

A ring after any number of writes still has all its chunks, and its counter has
moved on by the chunks that were reserved, modulo `2 ^ 32`. What a write has just
stored can be read back.
-/

set_option autoImplicit false

namespace ProbeTrace.Ring

/-- A payload whose length can be stated and whose chunks are not more than there are. -/
def Fits (geometry : Geometry) (payload : Bytes) : Prop :=
  payload.length ≤ longest ∧ geometry.chunksNeeded payload.length ≤ geometry.count.toNat

instance (geometry : Geometry) (payload : Bytes) : Decidable (Fits geometry payload) :=
  inferInstanceAs (Decidable (_ ∧ _))

/-- The chunks a write takes up: none if the payload is refused. -/
def reserved (geometry : Geometry) (payload : Bytes) : Nat :=
  if Fits geometry payload then geometry.chunksNeeded payload.length else 0

def reservedBy (geometry : Geometry) : List Bytes → Nat
  | [] => 0
  | payload :: rest => reserved geometry payload + reservedBy geometry rest

def writeAll (ring : Ring) (payloads : List Bytes) : Ring :=
  payloads.foldl (fun ring payload => (ring.write payload).2) ring

/-- A new ring after some writes. -/
def ofWrites (geometry : Geometry) (payloads : List Bytes) : Ring :=
  (empty geometry).writeAll payloads

variable {ring : Ring} {geometry : Geometry} {payload : Bytes}

theorem write_of_fits (h : Fits ring.geometry payload) :
    ring.write payload =
      (((payload.length : Int), ring.next.toNat % ring.geometry.count.toNat),
        { ring with
          chunks := store ring.geometry (ring.geometry.chunksNeeded payload.length)
            (ring.next.toNat % ring.geometry.count.toNat) payload ring.chunks
          next := ring.next + UInt32.ofNat (ring.geometry.chunksNeeded payload.length) }) := by
  obtain ⟨hlength, hneeded⟩ := h
  simp only [write]
  rw [if_neg (by omega)]

theorem write_of_not_fits (h : ¬ Fits ring.geometry payload) :
    ring.write payload = ((TransferFault.lengthMismatchCode, 0), ring) := by
  have hrefused : longest < payload.length ∨
      ring.geometry.count.toNat < ring.geometry.chunksNeeded payload.length := by
    rw [Fits] at h
    omega
  simp only [write]
  rw [if_pos hrefused]

theorem write_accepted_iff : 0 ≤ (ring.write payload).1.1 ↔ Fits ring.geometry payload := by
  by_cases h : Fits ring.geometry payload
  · rw [write_of_fits h]
    exact iff_of_true (Int.natCast_nonneg _) h
  · rw [write_of_not_fits h]
    have hnegative : ¬ 0 ≤ TransferFault.lengthMismatchCode := by decide
    exact iff_of_false hnegative h

theorem write_next :
    (ring.write payload).2.next.toNat =
      (ring.next.toNat + reserved ring.geometry payload) % UInt32.size := by
  by_cases h : Fits ring.geometry payload
  · rw [write_of_fits h, reserved, if_pos h, UInt32.toNat_add, UInt32.toNat_ofNat']
    exact Nat.add_mod_mod _ _ _
  · rw [write_of_not_fits h, reserved, if_neg h]
    exact (Nat.mod_eq_of_lt ring.next.toNat_lt).symm

theorem writeAll_append (ring : Ring) (a b : List Bytes) :
    ring.writeAll (a ++ b) = (ring.writeAll a).writeAll b :=
  List.foldl_append

theorem writeAll_geometry (ring : Ring) (payloads : List Bytes) :
    (ring.writeAll payloads).geometry = ring.geometry := by
  induction payloads generalizing ring with
  | nil => rfl
  | cons payload rest ih => exact (ih _).trans (write_geometry ring payload)

theorem writeAll_size (ring : Ring) (payloads : List Bytes) :
    (ring.writeAll payloads).chunks.size = ring.chunks.size := by
  induction payloads generalizing ring with
  | nil => rfl
  | cons payload rest ih => exact (ih _).trans (write_size ring payload)

theorem writeAll_next (ring : Ring) (payloads : List Bytes) :
    (ring.writeAll payloads).next.toNat =
      (ring.next.toNat + reservedBy ring.geometry payloads) % UInt32.size := by
  induction payloads generalizing ring with
  | nil => exact (Nat.mod_eq_of_lt ring.next.toNat_lt).symm
  | cons payload rest ih =>
    have hrest := ih (ring.write payload).2
    rw [write_next, write_geometry, Nat.mod_add_mod, Nat.add_assoc] at hrest
    exact hrest

theorem reservedBy_append (a b : List Bytes) :
    reservedBy geometry (a ++ b) = reservedBy geometry a + reservedBy geometry b := by
  induction a with
  | nil => exact (Nat.zero_add _).symm
  | cons payload rest ih => simp only [List.cons_append, reservedBy, ih, Nat.add_assoc]

theorem reservedBy_replicate (n : Nat) (payload : Bytes) :
    reservedBy geometry (List.replicate n payload) = n * reserved geometry payload := by
  induction n with
  | zero => rw [List.replicate_zero, reservedBy, Nat.zero_mul]
  | succ n ih => rw [List.replicate_succ, reservedBy, ih, Nat.succ_mul, Nat.add_comm]

theorem ofWrites_append (geometry : Geometry) (a b : List Bytes) :
    ofWrites geometry (a ++ b) = (ofWrites geometry a).writeAll b :=
  writeAll_append _ a b

theorem ofWrites_geometry (geometry : Geometry) (payloads : List Bytes) :
    (ofWrites geometry payloads).geometry = geometry :=
  writeAll_geometry _ payloads

theorem ofWrites_size (geometry : Geometry) (payloads : List Bytes) :
    (ofWrites geometry payloads).chunks.size =
      (ofWrites geometry payloads).geometry.count.toNat := by
  rw [ofWrites, writeAll_size, writeAll_geometry]
  exact Array.size_replicate

theorem ofWrites_next (geometry : Geometry) (payloads : List Bytes) :
    (ofWrites geometry payloads).next.toNat = reservedBy geometry payloads % UInt32.size := by
  have hnext := writeAll_next (empty geometry) payloads
  rw [show (empty geometry).next.toNat = 0 from rfl, Nat.zero_add] at hnext
  exact hnext

theorem write_lies (hchunks : ring.chunks.size = ring.geometry.count.toNat)
    (hfits : Fits ring.geometry payload) :
    Lies ring.geometry (ring.write payload).2.chunks
      (ring.next.toNat % ring.geometry.count.toNat) payload := by
  rw [write_of_fits hfits]
  exact store_lies hchunks hfits.2

/-- What has just been written is read back, unless the reader's sum leaves 32 bits. -/
theorem write_reassemble (hsize : ring.geometry.size ≠ 0) (hcount : 0 < ring.geometry.count.toNat)
    (hchunks : ring.chunks.size = ring.geometry.count.toNat) (hfits : Fits ring.geometry payload)
    (hsum : ring.next.toNat % ring.geometry.count.toNat +
      ring.geometry.chunksNeeded payload.length ≤ UInt32.size) :
    Chunk.reassemble (ring.write payload).2.source ring.geometry
      (ring.next.toNat % ring.geometry.count.toNat) payload.length = .ok payload := by
  have hlies := write_lies hchunks hfits
  rw [← write_geometry ring payload] at hsize hcount hfits hsum hlies ⊢
  exact hlies.reassemble hsize (Nat.mod_lt _ hcount) hfits.2 hsum

end ProbeTrace.Ring
