import Mathlib.Algebra.Ring.Nat
import ProbeTrace.Proofs.Chunk.Writes

/-!
# Lapping the ring

Chunks are reserved one after the other, so a payload should be readable until the
writer has come round to it. That rests on the counter: it wraps at `2 ^ 32`, and the
place where it goes on is the next one only if the number of chunks divides `2 ^ 32`.
-/

set_option autoImplicit false

namespace ProbeTrace.Ring

variable {geometry : Geometry}

/-- One write keeps a payload it does not come round to. The payload's first chunk
lies `d` places behind the writer. -/
theorem write_keeps {ring : Ring} {start d : Nat} {held payload : Bytes}
    (hlies : Lies ring.geometry ring.chunks start held)
    (hbehind : ring.geometry.chunksNeeded held.length ≤ d)
    (hlap : d + reserved ring.geometry payload ≤ ring.geometry.count.toNat)
    (hnext : 0 < reserved ring.geometry payload →
      ring.next.toNat % ring.geometry.count.toNat = (start + d) % ring.geometry.count.toNat) :
    Lies ring.geometry (ring.write payload).2.chunks start held := by
  by_cases hfits : Fits ring.geometry payload
  · rw [reserved, if_pos hfits] at hlap hnext
    rw [write_of_fits hfits]
    apply hlies.store
    intro k hk j hj
    have hplace : ring.geometry.slot (ring.next.toNat % ring.geometry.count.toNat) j =
        ring.geometry.slot start (d + j) := by
      rw [hnext (by omega), Geometry.slot, Geometry.slot, Nat.mod_add_mod, Nat.add_assoc]
    rw [hplace]
    exact (Geometry.slot_ne (by omega) (by omega)).symm
  · rw [write_of_not_fits hfits]
    exact hlies

/-- Any number of writes keep it, as long as they stay within a lap and the counter
goes on to the next place each time. -/
theorem writeAll_keeps {payloads : List Bytes} {ring : Ring} {start d : Nat} {held : Bytes}
    (hlies : Lies ring.geometry ring.chunks start held)
    (hbehind : ring.geometry.chunksNeeded held.length ≤ d)
    (hlap : d + reservedBy ring.geometry payloads ≤ ring.geometry.count.toNat)
    (hnext : ∀ e < reservedBy ring.geometry payloads,
      (ring.next.toNat + e) % UInt32.size % ring.geometry.count.toNat =
        (start + d + e) % ring.geometry.count.toNat) :
    Lies ring.geometry (ring.writeAll payloads).chunks start held := by
  induction payloads generalizing ring d with
  | nil => exact hlies
  | cons payload rest ih =>
    rw [reservedBy] at hlap hnext
    have hfirst : Lies ring.geometry (ring.write payload).2.chunks start held := by
      apply write_keeps hlies hbehind (by omega)
      intro hpos
      have hhere := hnext 0 (by omega)
      rw [Nat.add_zero, Nat.mod_eq_of_lt ring.next.toNat_lt] at hhere
      exact hhere
    rw [← write_geometry ring payload] at hfirst ⊢
    refine ih (d := d + reserved ring.geometry payload) hfirst ?_ ?_ ?_
    · rw [write_geometry]
      omega
    · rw [write_geometry, Nat.add_assoc]
      exact hlap
    · intro e he
      rw [write_geometry] at he ⊢
      have hlater := hnext (reserved ring.geometry payload + e) (by omega)
      rw [write_next, Nat.mod_add_mod, Nat.add_assoc, hlater, ← Nat.add_assoc, ← Nat.add_assoc]

/-- While the counter does not wrap, or wraps to the place where it would have gone on,
a payload is read back until the ring has been lapped. -/
theorem reads_until_lapped {before later : List Bytes} {payload : Bytes}
    (hsize : geometry.size ≠ 0) (hcount : geometry.count ≠ 0) (hfits : Fits geometry payload)
    (hlap : geometry.chunksNeeded payload.length + reservedBy geometry later ≤
      geometry.count.toNat)
    (hhalf : geometry.count.toNat ≤ 2 ^ 31)
    (hwrap : geometry.count.toNat ∣ UInt32.size ∨
      reservedBy geometry before % UInt32.size +
        (geometry.chunksNeeded payload.length + reservedBy geometry later) ≤ UInt32.size) :
    Chunk.reassemble (ofWrites geometry (before ++ payload :: later)).source geometry
      ((ofWrites geometry before).next.toNat % geometry.count.toNat) payload.length =
        .ok payload := by
  have hpos := Geometry.count_pos hcount
  have hcounter := ofWrites_next geometry before
  have hgeometry := ofWrites_geometry geometry before
  have hchunks := ofWrites_size geometry before
  rw [ofWrites_append]
  generalize ofWrites geometry before = ring at hcounter hgeometry hchunks ⊢
  subst hgeometry
  rw [← hcounter] at hwrap
  have hstored := write_lies hchunks hfits
  have hkept : Lies ring.geometry (ring.writeAll (payload :: later)).chunks
      (ring.next.toNat % ring.geometry.count.toNat) payload := by
    rw [← write_geometry ring payload] at hstored ⊢
    refine writeAll_keeps hstored (Nat.le_refl _) ?_ ?_
    · rw [write_geometry]
      exact hlap
    intro e he
    rw [write_geometry] at he ⊢
    rw [write_next, reserved, if_pos hfits, Nat.mod_add_mod, Nat.add_assoc, Nat.add_assoc,
      Nat.mod_add_mod]
    rcases hwrap with hdvd | hbelow
    · exact Nat.mod_mod_of_dvd _ hdvd
    · have hword : ring.next.toNat + (ring.geometry.chunksNeeded payload.length + e) <
          UInt32.size := by omega
      rw [Nat.mod_eq_of_lt hword]
  have hstart : ring.next.toNat % ring.geometry.count.toNat < ring.geometry.count.toNat :=
    Nat.mod_lt _ hpos
  have hwords : UInt32.size = 2 ^ 31 + 2 ^ 31 := rfl
  have hneeded := hfits.2
  rw [← writeAll_geometry ring (payload :: later)] at hsize hneeded hkept hstart hhalf ⊢
  exact hkept.reassemble hsize hstart hneeded (by omega)

/-- When the counter stands at zero, the next payload goes to the first chunk. -/
theorem reads_last_written (hsize : geometry.size ≠ 0) (hcount : geometry.count ≠ 0)
    {history : List Bytes} (hwrap : reservedBy geometry history % UInt32.size = 0) (b : UInt8) :
    Chunk.reassemble (ofWrites geometry (history ++ [[b]])).source geometry 0 1 = .ok [b] := by
  have hpos := Geometry.count_pos hcount
  have hnext := ofWrites_next geometry history
  have hgeometry := ofWrites_geometry geometry history
  have hchunks := ofWrites_size geometry history
  rw [hwrap] at hnext
  rw [ofWrites_append]
  generalize ofWrites geometry history = ring at hnext hgeometry hchunks ⊢
  subst hgeometry
  have hone : ring.geometry.chunksNeeded 1 = 1 := Geometry.chunksNeeded_one hsize
  have hlongest : 1 ≤ longest := by decide
  have hfits : Fits ring.geometry [b] := by
    rw [Fits, List.length_singleton, hone]
    exact ⟨hlongest, hpos⟩
  have hread := write_reassemble hsize hpos hchunks hfits
  rw [hnext, Nat.zero_mod, List.length_singleton, hone] at hread
  exact hread (by decide)

/-- A payload that is accepted can be read until the chunks taken up by it and by
everything after it are more than the ring has. -/
def ReadsUntilLapped (geometry : Geometry) : Prop :=
  ∀ (before : List Bytes) (payload : Bytes) (later : List Bytes) (length : Int) (start : Nat),
    ((ofWrites geometry before).write payload).1 = (length, start) → 0 ≤ length →
    geometry.chunksNeeded payload.length + reservedBy geometry later ≤ geometry.count.toNat →
    Chunk.reassemble (ofWrites geometry (before ++ payload :: later)).source geometry start
      length.toNat = .ok payload

theorem write_eq_accepted {before : List Bytes} {payload : Bytes} {length : Int} {start : Nat}
    (hwrite : ((ofWrites geometry before).write payload).1 = (length, start)) (h : 0 ≤ length) :
    Fits geometry payload ∧ length = payload.length ∧
      start = (ofWrites geometry before).next.toNat % geometry.count.toNat := by
  have hfits : Fits (ofWrites geometry before).geometry payload := by
    rw [← write_accepted_iff, hwrite]
    exact h
  rw [write_of_fits hfits] at hwrite
  obtain ⟨rfl, rfl⟩ := Prod.mk.inj hwrite
  rw [ofWrites_geometry] at hfits ⊢
  exact ⟨hfits, rfl, rfl⟩

theorem le_half_of_dvd (hdvd : geometry.count.toNat ∣ UInt32.size) :
    geometry.count.toNat ≤ 2 ^ 31 := by
  obtain ⟨q, hq⟩ := hdvd
  have hlt : geometry.count.toNat < UInt32.size := geometry.count.toNat_lt
  have htwo : 2 ≤ q := by
    by_contra hq'
    have hcases : q = 0 ∨ q = 1 := by omega
    rcases hcases with rfl | rfl <;> omega
  have hle := Nat.mul_le_mul_left geometry.count.toNat htwo
  have hwords : UInt32.size = 2 ^ 31 * 2 := rfl
  omega

theorem reserved_singleton (hsize : geometry.size ≠ 0) (hcount : geometry.count ≠ 0) (b : UInt8) :
    reserved geometry [b] = 1 := by
  have hone : geometry.chunksNeeded [b].length = 1 := Geometry.chunksNeeded_one hsize
  have hpos := Geometry.count_pos hcount
  have hlongest : 1 ≤ longest := by decide
  rw [reserved, if_pos ⟨hlongest, by omega⟩, hone]

/-- A byte goes to the first chunk, and the counter reaches `2 ^ 32` before the writer has
come round. The next byte goes to the first chunk as well. -/
theorem overwritten_at_wrap (hsize : geometry.size ≠ 0) (hcount : geometry.count ≠ 0)
    (before between : List Bytes) (a b : UInt8)
    (hfirst : reservedBy geometry before % UInt32.size % geometry.count.toNat = 0)
    (hwrap : (reservedBy geometry before + (1 + reservedBy geometry between)) %
      UInt32.size = 0) :
    ((ofWrites geometry before).write [a]).1 = (1, 0) ∧
    Chunk.reassemble (ofWrites geometry (before ++ [a] :: (between ++ [[b]]))).source geometry
      0 1 = .ok [b] := by
  have hreserved : reserved geometry [a] = 1 := reserved_singleton hsize hcount a
  have hfits : Fits (ofWrites geometry before).geometry [a] := by
    rw [ofWrites_geometry]
    by_contra hrefused
    rw [reserved, if_neg hrefused] at hreserved
    omega
  constructor
  · rw [write_of_fits hfits, ofWrites_next, ofWrites_geometry, hfirst]
    rfl
  · have hhistory : reservedBy geometry (before ++ [a] :: between) % UInt32.size = 0 := by
      rw [reservedBy_append, reservedBy, hreserved]
      exact hwrap
    have hlast := reads_last_written hsize hcount hhistory b
    rw [List.append_assoc] at hlast
    exact hlast

/-- If the counter wraps to another place than the one it would have gone on to, there
are writes that overwrite a payload without a lap. -/
theorem not_readsUntilLapped (hsize : geometry.size ≠ 0) (hcount : geometry.count ≠ 0)
    (hdvd : ¬ geometry.count.toNat ∣ UInt32.size) : ¬ ReadsUntilLapped geometry := by
  intro hreads
  have hpos := Geometry.count_pos hcount
  -- From the last whole lap below `2 ^ 32` it is less than a lap to the wrap.
  obtain ⟨gap, hgap⟩ : ∃ gap, gap = UInt32.size % geometry.count.toNat := ⟨_, rfl⟩
  have hgapLt : gap < geometry.count.toNat := hgap ▸ Nat.mod_lt _ hpos
  have hgapPos : 0 < gap := by
    rw [hgap]
    exact Nat.pos_of_ne_zero fun h => hdvd (Nat.dvd_of_mod_eq_zero h)
  have hgapLe : gap ≤ UInt32.size := hgap ▸ Nat.mod_le _ _
  have hbefore : reservedBy geometry (List.replicate (UInt32.size - gap) [0]) =
      UInt32.size - gap := by
    rw [reservedBy_replicate, reserved_singleton hsize hcount, Nat.mul_one]
  have hbetween : reservedBy geometry (List.replicate (gap - 1) [0]) = gap - 1 := by
    rw [reservedBy_replicate, reserved_singleton hsize hcount, Nat.mul_one]
  have hfirst : reservedBy geometry (List.replicate (UInt32.size - gap) [0]) % UInt32.size %
      geometry.count.toNat = 0 := by
    have hbelow : UInt32.size - gap < UInt32.size := Nat.sub_lt (by decide) hgapPos
    rw [hbefore, Nat.mod_eq_of_lt hbelow, hgap]
    exact Nat.mod_eq_zero_of_dvd (Nat.dvd_sub_mod _)
  have hwrap : (reservedBy geometry (List.replicate (UInt32.size - gap) [0]) +
      (1 + reservedBy geometry (List.replicate (gap - 1) [0]))) % UInt32.size = 0 := by
    have hwhole : UInt32.size - gap + (1 + (gap - 1)) = UInt32.size := by omega
    rw [hbefore, hbetween, hwhole, Nat.mod_self]
  obtain ⟨hwritten, hlast⟩ := overwritten_at_wrap hsize hcount _ _ 1 2 hfirst hwrap
  have hlap : geometry.chunksNeeded [(1 : UInt8)].length +
      reservedBy geometry (List.replicate (gap - 1) [0] ++ [[2]]) ≤ geometry.count.toNat := by
    rw [reservedBy_append, hbetween, reservedBy, reservedBy, reserved_singleton hsize hcount,
      List.length_singleton, Geometry.chunksNeeded_one hsize]
    omega
  have hkept := hreads _ _ _ 1 0 hwritten (by decide) hlap
  cases hkept.symm.trans hlast

/-- Payloads stay readable until the ring is lapped exactly if the number of chunks
divides `2 ^ 32`. With any other number they do as long as the counter has not wrapped
in between. -/
theorem readsUntilLapped_iff_dvd (hsize : geometry.size ≠ 0) (hcount : geometry.count ≠ 0) :
    (ReadsUntilLapped geometry ↔ geometry.count.toNat ∣ UInt32.size) ∧
    ∀ (before : List Bytes) (payload : Bytes) (later : List Bytes) (length : Int) (start : Nat),
      ((ofWrites geometry before).write payload).1 = (length, start) → 0 ≤ length →
      geometry.chunksNeeded payload.length + reservedBy geometry later ≤ geometry.count.toNat →
      geometry.count.toNat ≤ 2 ^ 31 →
      reservedBy geometry before % UInt32.size +
        (geometry.chunksNeeded payload.length + reservedBy geometry later) ≤ UInt32.size →
      Chunk.reassemble (ofWrites geometry (before ++ payload :: later)).source geometry start
        length.toNat = .ok payload := by
  refine ⟨⟨?needed, ?enough⟩, ?unwrapped⟩
  case needed =>
    intro hreads
    by_contra hdvd
    exact not_readsUntilLapped hsize hcount hdvd hreads
  case enough =>
    intro hdvd before payload later length start hwrite hlength hlap
    obtain ⟨hfits, rfl, rfl⟩ := write_eq_accepted hwrite hlength
    exact reads_until_lapped hsize hcount hfits hlap (le_half_of_dvd hdvd) (.inl hdvd)
  case unwrapped =>
    intro before payload later length start hwrite hlength hlap hhalf hbelow
    obtain ⟨hfits, rfl, rfl⟩ := write_eq_accepted hwrite hlength
    exact reads_until_lapped hsize hcount hfits hlap hhalf (.inr hbelow)

/-- Eight chunks of four bytes: a payload of five bytes is still there after three more
writes that take up the six other chunks. -/
theorem reads_among_eight :
    ReadsUntilLapped ⟨4, 8⟩ ∧
    Chunk.reassemble (ofWrites ⟨4, 8⟩ ([[9]] ++ [1, 2, 3, 4, 5] ::
      [List.replicate 16 6, [], [7, 7, 7, 7, 7]])).source ⟨4, 8⟩ 1 5 = .ok [1, 2, 3, 4, 5] := by
  have hreads : ReadsUntilLapped ⟨4, 8⟩ :=
    (readsUntilLapped_iff_dvd (by decide) (by decide)).1.2 (by decide)
  exact ⟨hreads, hreads [[9]] [1, 2, 3, 4, 5] _ 5 1 (by decide) (by decide) (by decide)⟩

/-- Where the counter wraps right behind a whole lap, two bytes in a row go to one chunk. -/
theorem overwritten_at_once (hsize : geometry.size ≠ 0) (hcount : geometry.count ≠ 0)
    {before : List Bytes} (hbefore : reservedBy geometry before = UInt32.size - 1)
    (hlaps : geometry.count.toNat ∣ UInt32.size - 1) (a b : UInt8) :
    ((ofWrites geometry before).write [a]).1 = (1, 0) ∧
    Chunk.reassemble (ofWrites geometry (before ++ [a] :: [[b]])).source geometry 0 1 =
      .ok [b] := by
  have hfirst : reservedBy geometry before % UInt32.size % geometry.count.toNat = 0 := by
    have hbelow : UInt32.size - 1 < UInt32.size := by decide
    rw [hbefore, Nat.mod_eq_of_lt hbelow]
    exact Nat.mod_eq_zero_of_dvd hlaps
  have hwrap : (reservedBy geometry before + (1 + reservedBy geometry [])) % UInt32.size = 0 := by
    have hwhole : UInt32.size - 1 + (1 + 0) = UInt32.size := by decide
    rw [hbefore, reservedBy, hwhole, Nat.mod_self]
  exact overwritten_at_wrap hsize hcount before [] a b hfirst hwrap

/-- Bytes that go up in sevens from a first one. -/
def sawtooth (first n : Nat) : Bytes :=
  (List.range n).map fun i => UInt8.ofNat (i * 7 + first)

/-- A ring of 983055 chunks of a byte, written full 4369 times. The counter then stands
one below `2 ^ 32`, so the next two payloads of a byte both go to the first chunk. -/
theorem overwritten_before_lapped :
    ((ofWrites ⟨1, 983055⟩ (List.replicate 4369 (sawtooth 0 983055))).write [1]).1 = (1, 0) ∧
    Geometry.chunksNeeded ⟨1, 983055⟩ [(1 : UInt8)].length + reservedBy ⟨1, 983055⟩ [[2]] = 2 ∧
    Chunk.reassemble (ofWrites ⟨1, 983055⟩ (List.replicate 4369 (sawtooth 0 983055) ++
      [1] :: [[2]])).source ⟨1, 983055⟩ 0 1 = .ok [2] ∧
    ¬ ReadsUntilLapped ⟨1, 983055⟩ := by
  have hsize : (⟨1, 983055⟩ : Geometry).size ≠ 0 := by decide
  have hcount : (⟨1, 983055⟩ : Geometry).count ≠ 0 := by decide
  have hlaps : (⟨1, 983055⟩ : Geometry).count.toNat ∣ UInt32.size - 1 := by decide
  have hdvd : ¬ (⟨1, 983055⟩ : Geometry).count.toNat ∣ UInt32.size := by decide
  have hfull : reserved ⟨1, 983055⟩ (sawtooth 0 983055) = 983055 := by
    have hlength : (sawtooth 0 983055).length = 983055 := by
      rw [sawtooth, List.length_map, List.length_range]
    simp only [reserved, Fits, hlength]
    decide
  have hbefore : reservedBy ⟨1, 983055⟩ (List.replicate 4369 (sawtooth 0 983055)) =
      UInt32.size - 1 := by
    rw [reservedBy_replicate, hfull]
    decide
  obtain ⟨hwritten, hlast⟩ := overwritten_at_once hsize hcount hbefore hlaps 1 2
  exact ⟨hwritten, by decide, hlast, not_readsUntilLapped hsize hcount hdvd⟩

end ProbeTrace.Ring
