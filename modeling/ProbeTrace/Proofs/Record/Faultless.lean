import Mathlib.Algebra.Order.Floor.Div
import ProbeTrace.Proofs.Chunk.Reading
import ProbeTrace.Proofs.Record.LongText
import ProbeTrace.Proofs.Record.RoundTrip
import ProbeTrace.Proofs.Record.Steps

/-!
# When no step fails

The sum for the place of a chunk is the largest for the last chunk of the longest payload
that begins at the last place of the ring. On small rings it always fits in 32 bits; on
rings of more than half of the places that 32 bits can number it depends on the size of a
chunk whether there is a record for which it does not.
-/

set_option autoImplicit false

namespace ProbeTrace

open RecordLayout Outcome

namespace RecordDecoder

variable {decoder : RecordDecoder} {data : Bytes}

theorem reassembleSteps_of_longTextSteps {source : ChunkSource}
    (hsource : decoder.chunks = some source) {framing : Framing} {length : Int}
    (hlength : 0 ≤ length) {start : Nat} {value : Value}
    (h : decoder.longTextSteps framing length start = .ok value) :
    ∃ result, Chunk.reassembleSteps source decoder.geometry start length.toNat = .ok result := by
  have hnone : TransferFault.ofSentinel? length = none :=
    (TransferFault.ofSentinel?_eq_none_iff length).2 hlength
  rw [longTextSteps, hnone, hsource] at h
  obtain ⟨result, hresult, -⟩ := bind_eq_ok_iff.1 h
  exact ⟨result, hresult⟩

theorem argSteps_of_argsSteps {args : List Arg} {done entries : Keyed String Value}
    (h : decoder.argsSteps data args done = .ok entries) :
    ∀ arg ∈ args, ∃ value, decoder.argSteps data arg = .ok value := by
  induction args generalizing done with
  | nil => exact nofun
  | cons arg rest ih =>
    rw [argsSteps] at h
    obtain ⟨value, harg, hrest⟩ := bind_eq_ok_iff.1 h
    exact List.forall_mem_cons.2 ⟨⟨value, harg⟩, ih hrest⟩

theorem argsSteps_of_decodeSteps {cpu : Int} {hit : Hit} (hsize : decoder.layout.size ≤ data.length)
    (h : decoder.decodeSteps cpu data = .ok hit) :
    ∃ entries, decoder.argsSteps data decoder.spec.args [] = .ok entries := by
  rw [decodeSteps, if_neg (Nat.not_lt.2 hsize)] at h
  obtain ⟨header, -, hafter⟩ := bind_eq_ok_iff.1 h
  obtain ⟨entries, hentries, -⟩ := bind_eq_ok_iff.1 hafter
  exact ⟨entries, hentries⟩

/-- The longest payload there can be, from the last chunk of a ring on. -/
def farthest (count : UInt32) : Contents
  | _, .longText _ => .longText Int32.maxValue (count - 1)
  | place, kind => sevens place kind

/-- If a record of it is decoded with every chunk there, the last of them has a place. -/
theorem count_le_of_farthest (h : decoder.spec.Accepted) {place : Place} {lengthArg : Option Nat}
    (harg : Arg.leaf place (.longText lengthArg) ∈ decoder.spec.args) {chunk : Bytes}
    (hsource : decoder.chunks = some fun _ _ => some chunk)
    (hchunk : decoder.geometry.size.toNat ≤ chunk.length)
    (hneeded : decoder.geometry.chunksNeeded Ring.longest ≤ decoder.geometry.count.toNat)
    {hit : Hit}
    (hdecode : decoder.decodeSteps 0 ((farthest decoder.geometry.count).record
      (List.replicate 32 0) decoder.spec.args []) = .ok hit) :
    decoder.geometry.count.toNat + decoder.geometry.chunksNeeded Ring.longest ≤
      UInt32.size + 1 := by
  have hcount : 0 < decoder.geometry.count.toNat := Geometry.count_pos (h.chunked harg).2
  have hlast : (decoder.geometry.count - 1).toNat = decoder.geometry.count.toNat - 1 :=
    UInt32.toNat_sub_of_le _ _ hcount
  have hheader : (List.replicate 32 (0 : UInt8)).length = headerSize := List.length_replicate
  obtain ⟨before, after, hleaves⟩ := List.append_of_mem (Arg.mem_leavesOf harg)
  have hsize : decoder.layout.size ≤ ((farthest decoder.geometry.count).record
      (List.replicate 32 0) decoder.spec.args []).length := Contents.size_le_record _ hheader _ _
  obtain ⟨entries, hentries⟩ := argsSteps_of_decodeSteps hsize hdecode
  obtain ⟨value, hvalue⟩ := argSteps_of_argsSteps hentries _ harg
  have hstated : Bytes.signedAt ((farthest decoder.geometry.count).record (List.replicate 32 0)
        decoder.spec.args []) (headerSize + widthOf before) 4 = Int32.maxValue.toInt ∧
      Bytes.wordAt ((farthest decoder.geometry.count).record (List.replicate 32 0)
        decoder.spec.args []) (headerSize + widthOf before + 4) 4 =
          (decoder.geometry.count - 1).toNat := by
    rw [Contents.record_split _ _ hleaves,
      ← (farthest decoder.geometry.count).front_length hheader before]
    exact Leaf.Content.encode_longText _ _ _ Int32.maxValue (decoder.geometry.count - 1)
  rw [argSteps, leafSteps_longText h.fields_nodup hsize hleaves, mapError_eq_ok_iff, hstated.1,
    hstated.2, hlast] at hvalue
  obtain ⟨result, hresult⟩ := reassembleSteps_of_longTextSteps hsource (by decide) hvalue
  have hsums := Chunk.sums_of_reassembleSteps (by omega) hneeded hchunk hresult
  have hlarge := decoder.geometry.count.toNat_lt
  have hwords : UInt32.size = 2 ^ 32 := rfl
  by_contra hover
  have hlast := hsums (decoder.geometry.chunksNeeded Ring.longest - 1) (by omega)
  omega

theorem chunksNeeded_longest {spec : ProbeSpec} (hsize : spec.tuning.chunkSize ≠ 0) :
    spec.geometry.chunksNeeded Ring.longest = (2 ^ 31 - 1) ⌈/⌉ spec.tuning.chunkSize.toNat :=
  Geometry.chunksNeeded_eq_ceilDiv hsize Ring.longest

theorem chunked_of_longText {spec : ProbeSpec} (h : spec.Accepted)
    (hlong : ∃ arg ∈ spec.args, arg.isLongText) :
    ∃ place lengthArg, Arg.leaf place (.longText lengthArg) ∈ spec.args ∧
      spec.tuning.chunkSize ≠ 0 := by
  obtain ⟨arg, harg, hlong⟩ := hlong
  cases arg with
  | struct place members => cases hlong
  | leaf place kind =>
    cases kind with
    | longText lengthArg => exact ⟨place, lengthArg, harg, (h.chunked harg).1⟩
    | _ => cases hlong

/-- Only the sum for a chunk of a long text can fail. -/
theorem decodeSteps_eq_or_sum {spec : ProbeSpec} (h : spec.Accepted)
    (chunks : Option ChunkSource) (payload : Option PayloadDecoder) (cpu : Int) (data : Bytes) :
    decodeSteps ⟨spec, chunks, payload⟩ cpu data =
        (decode ⟨spec, chunks, payload⟩ cpu data).mapError .refused ∨
      (∃ arg ∈ spec.args, arg.isLongText) ∧
        ∃ start i, start < spec.tuning.chunkCount.toNat ∧ i < spec.tuning.chunkCount.toNat ∧
          i < (2 ^ 31 - 1) ⌈/⌉ spec.tuning.chunkSize.toNat ∧ 2 ^ 32 ≤ start + i ∧
          decodeSteps ⟨spec, chunks, payload⟩ cpu data = .error (.fault (.sum start i)) := by
  rcases decodeSteps_agrees ⟨spec, chunks, payload⟩ h cpu data with
    hsteps | ⟨fault, ⟨hlong, start, i, rfl, hstart, hi, hneeded, hlarge⟩, hsteps⟩
  · exact .inl hsteps
  · obtain ⟨place, lengthArg, harg, hsize⟩ := chunked_of_longText h hlong
    rw [← chunksNeeded_longest hsize]
    exact .inr ⟨hlong, start, i, hstart, hi, hneeded, hlarge, hsteps⟩

theorem count_le_of_decodeSteps {spec : ProbeSpec} (h : spec.Accepted)
    (hlong : ∃ arg ∈ spec.args, arg.isLongText)
    (hall : ∀ chunks payload cpu data, decodeSteps ⟨spec, chunks, payload⟩ cpu data =
      (decode ⟨spec, chunks, payload⟩ cpu data).mapError .refused) :
    spec.tuning.chunkCount.toNat + (2 ^ 31 - 1) ⌈/⌉ spec.tuning.chunkSize.toNat ≤
      2 ^ 32 + 1 := by
  obtain ⟨place, lengthArg, harg, hsize⟩ := chunked_of_longText h hlong
  have hpos : 0 < spec.geometry.size.toNat := Geometry.size_pos hsize
  have hlongest : (2 ^ 31 - 1) ⌈/⌉ spec.tuning.chunkSize.toNat ≤ 2 ^ 31 - 1 :=
    (ceilDiv_le_iff_le_mul hpos).2 (Nat.le_mul_of_pos_left _ hpos)
  rw [← chunksNeeded_longest hsize] at hlongest ⊢
  by_contra hlarge
  have hcount := spec.tuning.chunkCount.toNat_lt
  have hneeded : spec.geometry.chunksNeeded Ring.longest ≤ spec.tuning.chunkCount.toNat := by
    omega
  -- a source that has every chunk, and a record of the farthest payload
  let decoder : RecordDecoder :=
    ⟨spec, some fun _ _ => some (List.replicate spec.tuning.chunkSize.toNat 0), none⟩
  have hfits : decoder.layout.size ≤ ((farthest spec.tuning.chunkCount).record
      (List.replicate 32 0) spec.args []).length :=
    Contents.size_le_record _ List.length_replicate _ _
  have hdecode := hall decoder.chunks none 0
    ((farthest spec.tuning.chunkCount).record (List.replicate 32 0) spec.args [])
  have haccepted : decoder.spec.Accepted := h
  rw [decode_eq_hitAt haccepted 0 hfits] at hdecode
  exact hlarge (count_le_of_farthest haccepted harg rfl List.length_replicate.ge hneeded hdecode)

/-- Decoding has a result at every step, whatever it is given, exactly if the places of the
chunks can be summed up for the longest payload, from the last chunk on. No other step fails
in any case, and no slot goes beyond the record. -/
theorem decode_faultless_iff {spec : ProbeSpec} (h : spec.Accepted) :
    ((∀ chunks payload cpu data, decodeSteps ⟨spec, chunks, payload⟩ cpu data =
        (decode ⟨spec, chunks, payload⟩ cpu data).mapError .refused) ↔
      ((∃ arg ∈ spec.args, arg.isLongText) →
        spec.tuning.chunkCount.toNat + (2 ^ 31 - 1) ⌈/⌉ spec.tuning.chunkSize.toNat ≤
          2 ^ 32 + 1)) ∧
    (∀ chunks payload cpu data,
      decodeSteps ⟨spec, chunks, payload⟩ cpu data =
          (decode ⟨spec, chunks, payload⟩ cpu data).mapError .refused ∨
        ∃ start i, start < spec.tuning.chunkCount.toNat ∧ i < spec.tuning.chunkCount.toNat ∧
          i < (2 ^ 31 - 1) ⌈/⌉ spec.tuning.chunkSize.toNat ∧ 2 ^ 32 ≤ start + i ∧
          decodeSteps ⟨spec, chunks, payload⟩ cpu data = .error (.fault (.sum start i))) ∧
    ∀ slot ∈ spec.layout.slots, slot.offset + slot.kind.size ≤ spec.layout.size := by
  refine ⟨⟨fun hall hlong => count_le_of_decodeSteps h hlong hall, ?faultless⟩, ?faults,
    arrange_end_le headerSize (slotsOf spec.args)⟩
  case faultless =>
    intro hbound chunks payload cpu data
    rcases decodeSteps_eq_or_sum h chunks payload cpu data with
      hsteps | ⟨hlong, start, i, hstart, -, hi, hlarge, -⟩
    · exact hsteps
    · have hplaces := hbound hlong
      omega
  case faults =>
    intro chunks payload cpu data
    exact (decodeSteps_eq_or_sum h chunks payload cpu data).imp_right And.right

/-- On a ring of four chunks nothing fails. -/
theorem sizedSpec_faultless :
    sizedSpec.Accepted ∧ ∀ chunks payload cpu data,
      decodeSteps ⟨sizedSpec, chunks, payload⟩ cpu data =
        (decode ⟨sizedSpec, chunks, payload⟩ cpu data).mapError .refused := by
  refine ⟨sizedSpec_accepted, (decode_faultless_iff sizedSpec_accepted).1.2 ?_⟩
  intro _
  rw [Nat.ceilDiv_eq_add_pred_div]
  decide

/-- A long text in chunks of a byte, on the largest ring. -/
def widestSpec : ProbeSpec where
  name := "p"
  provider := none
  args := ArgDecl.placedFrom [] 0 [.leaf (some "doc") (.longText none)]
  tuning := ⟨1.0, 1, 4294967295⟩

theorem widestSpec_accepted : widestSpec.Accepted :=
  ⟨[.leaf (some "doc") (.longText none)], rfl⟩

/-- Three bytes from the last chunk but one on: the last of them has no place. -/
theorem decodeSteps_widest : widestSpec.Accepted ∧
    decodeSteps ⟨widestSpec, some fun _ _ => some [1], none⟩ 0
        (List.replicate 32 0 ++ [3, 0, 0, 0, 254, 255, 255, 255]) =
      .error (.fault (.sum 4294967294 2)) := by
  refine ⟨widestSpec_accepted, ?_⟩
  rfl

end RecordDecoder
end ProbeTrace
