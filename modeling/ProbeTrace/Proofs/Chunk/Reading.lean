import Mathlib.Algebra.Order.Floor.Div
import Mathlib.Data.List.Nodup
import ProbeTrace.Proofs.Chunk.Pieces

/-!
# Reading from any source

A source may miss chunks, or give more or less than what is wanted of one. A reader
asks for chunk after chunk up to the first that does not do, and of the others it
takes what is wanted. How many bytes that is depends on the chunk's number alone.
-/

set_option autoImplicit false

namespace ProbeTrace

namespace Geometry

variable {geometry : Geometry}

/-- The bytes of a payload that its `i`-th chunk has to hold. -/
def want (geometry : Geometry) (length i : Nat) : Nat :=
  min geometry.size.toNat (length - i * geometry.size.toNat)

theorem missing_succ (length i : Nat) :
    length - i * geometry.size.toNat - min (length - i * geometry.size.toNat) geometry.size.toNat =
      length - (i + 1) * geometry.size.toNat := by
  rw [Nat.succ_mul]
  omega

theorem slot_nodup {start n : Nat} (hn : n ≤ geometry.count.toNat) :
    ((List.range n).map (geometry.slot start)).Nodup := by
  apply List.nodup_range.map_on
  intro i hi j hj heq
  rw [List.mem_range] at hi hj
  rcases Nat.lt_trichotomy i j with hlt | rfl | hlt
  · exact absurd heq (slot_ne (by omega) (by omega))
  · rfl
  · exact absurd heq.symm (slot_ne (by omega) (by omega))

theorem chunksNeeded_eq_ceilDiv (hsize : geometry.size ≠ 0) (length : Nat) :
    geometry.chunksNeeded length = length ⌈/⌉ geometry.size.toNat :=
  chunksNeeded_eq hsize length

end Geometry

namespace Chunk

/-- What is wrong with a chunk of which so many bytes are wanted. -/
def defect? (wanted : Nat) : Option Bytes → Option TransferFault
  | none => some .badChunkIndex
  | some chunk => if chunk.length < wanted then some .lengthMismatch else none

/-- What the source gives for the `i`-th chunk of a payload. -/
def given (source : ChunkSource) (geometry : Geometry) (start length i : Nat) : Option Bytes :=
  source (geometry.readSlot start i) (geometry.want length i)

/-- What is wrong with the `i`-th chunk of a payload. -/
def fault? (source : ChunkSource) (geometry : Geometry) (start length i : Nat) :
    Option TransferFault :=
  defect? (geometry.want length i) (given source geometry start length i)

/-- What is taken of the `i`-th chunk of a payload. -/
def part (source : ChunkSource) (geometry : Geometry) (start length i : Nat) : Bytes :=
  ((given source geometry start length i).getD []).take (geometry.want length i)

theorem defect?_eq_none_iff {wanted : Nat} {chunk : Option Bytes} :
    defect? wanted chunk = none ↔ ∃ bytes, chunk = some bytes ∧ wanted ≤ bytes.length := by
  cases chunk with
  | none => simp [defect?]
  | some bytes => simp [defect?]

section

variable {source : ChunkSource} {geometry : Geometry} {start length : Nat}

theorem gather_fault {n i : Nat} {gathering : Gathering} {fault : TransferFault}
    (h : fault? source geometry start length i = some fault) :
    gather source geometry start (n + 1) i (length - i * geometry.size.toNat) gathering =
      (gathering.reads.reverse ++ [geometry.readSlot start i], .error fault) := by
  rw [fault?, given, Geometry.want, Nat.min_comm] at h
  rw [gather]
  cases hchunk : source (geometry.readSlot start i)
      (min (length - i * geometry.size.toNat) geometry.size.toNat) with
  | none =>
    rw [hchunk, defect?] at h
    cases h
    exact congrArg (·, _) List.reverse_cons
  | some chunk =>
    rw [hchunk, defect?] at h
    split at h
    case isTrue hshort =>
      cases h
      dsimp only
      rw [if_pos hshort, List.reverse_cons]
    case isFalse => cases h

theorem gather_part {n i : Nat} {gathering : Gathering}
    (h : fault? source geometry start length i = none) :
    gather source geometry start (n + 1) i (length - i * geometry.size.toNat) gathering =
      gather source geometry start n (i + 1) (length - (i + 1) * geometry.size.toNat)
        ⟨geometry.readSlot start i :: gathering.reads,
          part source geometry start length i :: gathering.parts⟩ := by
  obtain ⟨chunk, hchunk, hlong⟩ := defect?_eq_none_iff.1 h
  rw [part, hchunk, Option.getD_some]
  rw [given, Geometry.want, Nat.min_comm] at hchunk
  rw [Geometry.want, Nat.min_comm] at hlong ⊢
  simp only [gather, hchunk]
  rw [if_neg (by omega), Geometry.missing_succ]

/-- The first chunk that does not do is the last one read. -/
theorem gather_stops (gathering : Gathering) {n i d : Nat} {fault : TransferFault} (hd : d < n)
    (hbefore : ∀ j, i ≤ j → j < i + d → fault? source geometry start length j = none)
    (hfault : fault? source geometry start length (i + d) = some fault) :
    gather source geometry start n i (length - i * geometry.size.toNat) gathering =
      (gathering.reads.reverse ++ (List.range' i (d + 1)).map (geometry.readSlot start),
        .error fault) := by
  induction d generalizing n i gathering with
  | zero =>
    obtain ⟨n, rfl⟩ := Nat.exists_eq_succ_of_ne_zero (Nat.ne_of_gt hd)
    exact gather_fault hfault
  | succ d ih =>
    obtain ⟨n, rfl⟩ := Nat.exists_eq_succ_of_ne_zero (Nat.ne_of_gt (Nat.zero_lt_of_lt hd))
    have hfirst := hbefore i (Nat.le_refl i) (by omega)
    have hlater : ∀ j, i + 1 ≤ j → j < i + 1 + d → fault? source geometry start length j = none :=
      fun j hj hlt => hbefore j (by omega) (by omega)
    rw [← Nat.add_assoc, Nat.add_right_comm] at hfault
    rw [gather_part hfirst, ih _ (by omega) hlater hfault, List.reverse_cons,
      List.range'_succ (n := d + 1), List.map_cons, List.append_assoc, List.singleton_append]

theorem gather_all (gathering : Gathering) {n i : Nat}
    (h : ∀ j, i ≤ j → j < i + n → fault? source geometry start length j = none) :
    gather source geometry start n i (length - i * geometry.size.toNat) gathering =
      (gathering.reads.reverse ++ (List.range' i n).map (geometry.readSlot start),
        .ok (gathering.payload ++
          (List.range' i n).flatMap (part source geometry start length))) := by
  induction n generalizing i gathering with
  | zero => simp [gather]
  | succ n ih =>
    have hfirst := h i (Nat.le_refl i) (by omega)
    rw [gather_part hfirst, ih _ fun j hj hlt => h j (by omega) (by omega)]
    simp [Gathering.payload, List.range'_succ]

end

/-! ## Bytes of a payload -/

section

variable {geometry : Geometry} {length : Nat} {parts : Nat → Bytes}

theorem parts_length {n i : Nat}
    (h : ∀ j, i ≤ j → j < i + n → (parts j).length = geometry.want length j) :
    ((List.range' i n).flatMap parts).length =
      min (n * geometry.size.toNat) (length - i * geometry.size.toNat) := by
  induction n generalizing i with
  | zero => simp
  | succ n ih =>
    have hrest := ih (i := i + 1) fun j hj hlt => h j (by omega) (by omega)
    rw [List.range'_succ, List.flatMap_cons, List.length_append, hrest,
      h i (Nat.le_refl i) (by omega), Geometry.want, Nat.succ_mul, Nat.succ_mul]
    omega

/-- A byte lies in the chunk that its distance from the start tells, as far from the
chunk's beginning as the division leaves. -/
theorem parts_getElem? (hsize : 0 < geometry.size.toNat) {n i k : Nat}
    (h : ∀ j, i ≤ j → j < i + n → (parts j).length = geometry.want length j)
    (hn : k < n * geometry.size.toNat) (hk : k < length - i * geometry.size.toNat) :
    ((List.range' i n).flatMap parts)[k]? =
      (parts (i + k / geometry.size.toNat))[k % geometry.size.toNat]? := by
  induction n generalizing i k with
  | zero => omega
  | succ n ih =>
    have hfirst := h i (Nat.le_refl i) (by omega)
    rw [Geometry.want] at hfirst
    rw [List.range'_succ, List.flatMap_cons]
    by_cases hinside : k < geometry.size.toNat
    · rw [List.getElem?_append_left (by omega), Nat.div_eq_of_lt hinside,
        Nat.mod_eq_of_lt hinside, Nat.add_zero]
    · -- the chunk is passed over whole, since there is a byte behind it
      have hwhole : (parts i).length = geometry.size.toNat := by omega
      obtain ⟨k, rfl⟩ := Nat.exists_eq_add_of_le (Nat.le_of_not_lt hinside)
      rw [Nat.succ_mul] at hn
      have hrest := ih (i := i + 1) (k := k) (fun j hj hlt => h j (by omega) (by omega)) (by omega)
        (by rw [Nat.succ_mul]; omega)
      rw [List.getElem?_append_right (by omega), hwhole, Nat.add_sub_cancel_left, hrest,
        Nat.add_div_left _ hsize, Nat.add_mod_left, Nat.add_assoc, Nat.add_comm 1]

end

section

variable {source : ChunkSource} {geometry : Geometry} {start length : Nat}

theorem part_length {i : Nat} (h : fault? source geometry start length i = none) :
    (part source geometry start length i).length = geometry.want length i := by
  obtain ⟨chunk, hchunk, hlong⟩ := defect?_eq_none_iff.1 h
  rw [part, hchunk, Option.getD_some, List.length_take, Nat.min_eq_left hlong]

theorem part_getElem? {i k : Nat} (h : fault? source geometry start length i = none)
    (hk : k < geometry.want length i) :
    ∃ chunk, given source geometry start length i = some chunk ∧
      geometry.want length i ≤ chunk.length ∧
      (part source geometry start length i)[k]? = chunk[k]? := by
  obtain ⟨chunk, hchunk, hlong⟩ := defect?_eq_none_iff.1 h
  refine ⟨chunk, hchunk, hlong, ?_⟩
  rw [part, hchunk, Option.getD_some, List.getElem?_take_of_lt hk]

/-- If no chunk fails, what is taken of them is a payload of the right length. -/
theorem parts_payload (hsize : 0 < geometry.size.toNat) {n : Nat}
    (hn : length ≤ n * geometry.size.toNat)
    (h : ∀ i < n, fault? source geometry start length i = none) :
    ((List.range n).flatMap (part source geometry start length)).length = length ∧
      ∀ k < length, ∃ chunk,
        given source geometry start length (k / geometry.size.toNat) = some chunk ∧
        k % geometry.size.toNat < chunk.length ∧
        ((List.range n).flatMap (part source geometry start length))[k]? =
          chunk[k % geometry.size.toNat]? := by
  have hlengths : ∀ j, 0 ≤ j → j < 0 + n →
      (part source geometry start length j).length = geometry.want length j :=
    fun j _ hj => part_length (h j (by omega))
  rw [List.range_eq_range']
  constructor
  · rw [parts_length hlengths, Nat.zero_mul, Nat.sub_zero, Nat.min_eq_right hn]
  · intro k hk
    have hplace : k / geometry.size.toNat < n :=
      Nat.div_lt_of_lt_mul (by rw [Nat.mul_comm]; omega)
    have hwant : k % geometry.size.toNat < geometry.want length (k / geometry.size.toNat) := by
      have hmod := Nat.mod_lt k hsize
      have hdiv := Nat.div_add_mod' k geometry.size.toNat
      rw [Geometry.want]
      omega
    obtain ⟨chunk, hchunk, hlong, hpart⟩ := part_getElem? (h _ hplace) hwant
    have hbyte := parts_getElem? hsize hlengths (k := k) (by omega) (by omega)
    rw [Nat.zero_add, hpart] at hbyte
    exact ⟨chunk, hchunk, by omega, hbyte⟩

theorem given_eq {i : Nat} (h : start + i < UInt32.size) :
    given source geometry start length i =
      source (geometry.slot start i) (geometry.want length i) := by
  rw [given, Geometry.readSlot_eq h]

theorem readSlots_eq {n : Nat} (h : start + n ≤ UInt32.size) :
    (List.range n).map (geometry.readSlot start) = (List.range n).map (geometry.slot start) := by
  apply List.map_congr_left
  intro i hi
  rw [List.mem_range] at hi
  exact Geometry.readSlot_eq (by omega)

theorem reassembly_of_needed (source : ChunkSource) (hstart : start < geometry.count.toNat)
    (hneeded : geometry.chunksNeeded length ≤ geometry.count.toNat) :
    reassembly source geometry start length =
      gather source geometry start (geometry.chunksNeeded length) 0
        (length - 0 * geometry.size.toNat) .empty := by
  rw [reassembly, if_neg (by omega), if_neg (by omega), Nat.zero_mul, Nat.sub_zero]

/-- The whole course of reading a payload. A start outside of the ring and a payload that
is too long for it are refused before anything is read. Else the chunks from the start on
are read in order, no place twice, up to the first that is missing or too short; if there
is none, the payload has every byte of its length, each from its own place in a chunk. -/
theorem reassembly_exact (hsize : geometry.size ≠ 0) (hcount : geometry.count.toNat ≤ 2 ^ 31)
    (source : ChunkSource) (start length : Nat) :
    let size := geometry.size.toNat
    let count := geometry.count.toNat
    let needed := length ⌈/⌉ size
    let chunk := fun i => source ((start + i) % count) (min size (length - i * size))
    let fault := fun i => defect? (min size (length - i * size)) (chunk i)
    (count = 0 ∨ count ≤ start →
      reassembly source geometry start length = ([], .error .badChunkIndex)) ∧
    (start < count → count < needed →
      reassembly source geometry start length = ([], .error .lengthMismatch)) ∧
    (start < count → needed ≤ count →
      ((List.range needed).map fun i => (start + i) % count).Nodup ∧
      (∀ i, (start + i) % count < count) ∧
      (∀ i < needed, ∀ found, (∀ j < i, fault j = none) → fault i = some found →
        reassembly source geometry start length =
          ((List.range (i + 1)).map fun j => (start + j) % count, .error found)) ∧
      ((∀ i < needed, fault i = none) →
        ∃ payload, reassembly source geometry start length =
            ((List.range needed).map fun i => (start + i) % count, .ok payload) ∧
          payload.length = length ∧
          ∀ k < length, ∃ bytes, chunk (k / size) = some bytes ∧ k % size < bytes.length ∧
            payload[k]? = bytes[k % size]?)) := by
  intro size count needed chunk fault
  have hneeded : geometry.chunksNeeded length = needed := Geometry.chunksNeeded_eq_ceilDiv hsize _
  have hpos : 0 < size := Geometry.size_pos hsize
  have hwords : UInt32.size = 2 ^ 31 + 2 ^ 31 := rfl
  refine ⟨?outside, ?long, ?inside⟩
  case outside =>
    intro hstart
    have hle : geometry.count.toNat ≤ start := by omega
    rw [reassembly, if_pos hle]
  case long =>
    intro hstart hlong
    have hlt : ¬ geometry.count.toNat ≤ start := by omega
    rw [reassembly, if_neg hlt, hneeded, if_pos hlong]
  case inside =>
    intro hstart hfits
    have hread := reassembly_of_needed source hstart (hneeded ▸ hfits)
    rw [hneeded] at hread
    have hgiven : ∀ i < needed, given source geometry start length i = chunk i :=
      fun i hi => given_eq (by omega)
    have hfault : ∀ i < needed, fault? source geometry start length i = fault i := by
      intro i hi
      rw [fault?, hgiven i hi]
      rfl
    refine ⟨Geometry.slot_nodup hfits, fun i => Nat.mod_lt _ (by omega), ?stops, ?whole⟩
    case stops =>
      intro i hi found hbefore hfound
      have hstops := gather_stops .empty (i := 0) hi
        (fun j _ hj => by rw [hfault j (by omega), hbefore j (by omega)])
        (by rw [Nat.zero_add, hfault i hi, hfound])
      rw [← List.range_eq_range', readSlots_eq (by omega)] at hstops
      exact hread.trans hstops
    case whole =>
      intro hnone
      have hclean : ∀ i < needed, fault? source geometry start length i = none :=
        fun i hi => (hfault i hi).trans (hnone i hi)
      have hall := gather_all .empty (n := needed) (i := 0)
        fun j _ hj => hclean j (by omega)
      rw [← List.range_eq_range', readSlots_eq (by omega)] at hall
      have henough : length ≤ needed * size := by
        rw [Nat.mul_comm]
        exact le_smul_ceilDiv hpos
      obtain ⟨htotal, hbytes⟩ := parts_payload hpos henough hclean
      refine ⟨_, hread.trans hall, htotal, ?_⟩
      intro k hk
      obtain ⟨bytes, hgot, hlong, hbyte⟩ := hbytes k hk
      have hplace : k / size < needed := Nat.div_lt_of_lt_mul (by rw [Nat.mul_comm]; omega)
      exact ⟨bytes, (hgiven _ hplace).symm.trans hgot, hlong, hbyte⟩

end

/-- Three chunks: the first is short, the second is missing and the third too long. -/
def ragged : ChunkSource :=
  .ofChunks fun index =>
    ([some [5, 6], none, some [1, 2, 3, 4, 9]] : List (Option Bytes))[index]?.join

/-- Six bytes can be read from the third chunk on, but not seven, and none from the second. -/
theorem reassembly_ragged :
    (∃ payload, reassembly ragged ⟨4, 3⟩ 2 6 = ([2, 0], .ok payload) ∧ payload.length = 6 ∧
      payload[3]? = some 4 ∧ payload[4]? = some 5) ∧
    reassembly ragged ⟨4, 3⟩ 2 7 = ([2, 0], .error .lengthMismatch) ∧
    reassembly ragged ⟨4, 3⟩ 1 1 = ([1], .error .badChunkIndex) := by
  have hexact := fun start length =>
    (@reassembly_exact ⟨4, 3⟩ (by decide) (by decide) ragged start length).2.2
  obtain ⟨-, -, -, hwhole⟩ := hexact 2 6 (by decide) (by decide)
  obtain ⟨-, -, hshort, -⟩ := hexact 2 7 (by decide) (by decide)
  obtain ⟨-, -, hmissing, -⟩ := hexact 1 1 (by decide) (by decide)
  obtain ⟨payload, hread, hlength, hbytes⟩ := hwhole (by decide)
  obtain ⟨third, hthird, -, hfour⟩ := hbytes 3 (by decide)
  obtain ⟨first, hfirst, -, hfive⟩ := hbytes 4 (by decide)
  cases hthird
  cases hfirst
  exact ⟨⟨payload, hread, hlength, hfour, hfive⟩, hshort 1 (by decide) _ (by decide) (by decide),
    hmissing 0 (by decide) _ (by decide) (by decide)⟩

end Chunk
end ProbeTrace
