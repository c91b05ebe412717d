import Mathlib.Algebra.Order.Floor.Div
import ProbeTrace.Proofs.Chunk.Writes
import ProbeTrace.Proofs.Record.Reading
import ProbeTrace.Proofs.Record.Shape

/-!
# Long texts from the ring to the hit

A writer puts a payload on the ring and states its length and its first chunk in
the record. A reader of the record finds exactly that payload, whatever was on the
ring before, or the fault that kept it from being written.
-/

set_option autoImplicit false

namespace ProbeTrace

open RecordLayout Outcome

theorem Arg.mem_leavesOf {place : Place} {kind : Leaf} {args : List Arg}
    (h : Arg.leaf place kind ∈ args) : (place, kind) ∈ Arg.leavesOf args := by
  induction args with
  | nil => cases h
  | cons arg rest ih =>
    rw [leavesOf]
    rcases List.mem_cons.1 h with rfl | hrest
    · exact List.mem_append_left _ List.mem_cons_self
    · exact List.mem_append_right _ (ih hrest)

namespace ProbeSpec

/-- The slots of a long text hold a length and a first chunk. -/
def Carries (spec : ProbeSpec) (field : String) (data : Bytes) (length : Int) (first : Nat) :
    Prop :=
  ∃ lengthSlot indexSlot, spec.layout.slot? (lengthField field) = some lengthSlot ∧
    spec.layout.slot? (indexField field) = some indexSlot ∧
    data.signedAt lengthSlot.offset 4 = length ∧ data.wordAt indexSlot.offset 4 = first

end ProbeSpec

namespace RecordDecoder

variable {decoder : RecordDecoder} {data : Bytes}

theorem slot?_of_slot {name : String} {slot : Slot} (h : decoder.slot name = .ok slot) :
    decoder.spec.layout.slot? name = some slot := by
  rw [RecordDecoder.slot, layout] at h
  cases hfound : decoder.spec.layout.slot? name with
  | none =>
    rw [hfound] at h
    cases h
  | some found =>
    rw [hfound] at h
    cases h
    rfl

variable (decoder) in
/-- A long text is looked for where the record says that it is. -/
theorem decodeArg_of_carries (h : decoder.spec.Accepted) {place : Place} {lengthArg : Option Nat}
    (harg : Arg.leaf place (.longText lengthArg) ∈ decoder.spec.args)
    (hsize : decoder.layout.size ≤ data.length) {length : Int} {first : Nat}
    (hcarries : decoder.spec.Carries place.field data length first) :
    decoder.decodeArg data (.leaf place (.longText lengthArg)) =
      .ok (decoder.longText (framingOf lengthArg) length first) := by
  obtain ⟨lengthSlot, indexSlot, hlengthSlot, hindexSlot, rfl, rfl⟩ := hcarries
  obtain ⟨before, after, hleaves⟩ := List.append_of_mem (Arg.mem_leavesOf harg)
  have hsplit := slotsOf_split hleaves
  have hnodup : ((slotsOf decoder.spec.args).map Prod.fst).Nodup := by
    rw [slotsOf_names]
    exact h.fields_nodup
  obtain ⟨hfirst, hsecond⟩ := longText_slots hsplit hnodup
  rw [slotsOfLeaves_size] at hfirst hsecond
  obtain rfl := Option.some.inj (hlengthSlot.symm.trans (slot?_of_slot hfirst))
  obtain rfl := Option.some.inj (hindexSlot.symm.trans (slot?_of_slot hsecond))
  rw [decodeArg, decodeLeaf_eq h.fields_nodup hsize hleaves]
  rfl

theorem decode_arg? (h : decoder.spec.Accepted) {cpu : Int} {hit : Hit}
    (hhit : decoder.decode cpu data = .ok hit) {arg : Arg} (harg : arg ∈ decoder.spec.args)
    {value : Value} (hvalue : decoder.decodeArg data arg = .ok value) :
    hit.arg? arg.name = some value := by
  obtain ⟨hsize, rfl⟩ := (decode_eq_ok_iff h cpu).1 hhit
  have hargs := decodeArgs_eq h.fields_nodup hsize [] [] decoder.spec.args
    (List.append_nil _).symm []
  obtain ⟨-, hentries⟩ := decodeArgs_eq_insertAll hargs
  have hnames : (decoder.spec.args.map fun arg => (arg.name, decoder.argValue data arg)).map
      Prod.fst = decoder.spec.args.map Arg.name :=
    List.map_map
  have hmem : (arg.name, value) ∈
      decoder.spec.args.map fun arg => (arg.name, decoder.argValue data arg) := by
    rw [← argValue_eq hvalue]
    exact List.mem_map_of_mem harg
  have hfound := Keyed.Sorted.get?_insertAll .nil (hnames ▸ h.names_nodup) hmem
  rw [← hentries] at hfound
  exact hfound

theorem longText_of_fault {framing : Framing} {length : Int} {first : Nat} {fault : TransferFault}
    (h : TransferFault.ofSentinel? length = some fault) :
    decoder.longText framing length first = .transfer fault := by
  rw [longText, h]

theorem longText_of_reassemble {source : ChunkSource} {framing : Framing} {payload : Bytes}
    {first : Nat} (hsource : decoder.chunks = some source)
    (h : Chunk.reassemble source decoder.geometry first payload.length = .ok payload) :
    decoder.longText framing payload.length first = decoder.payloadValue framing payload := by
  have hlength : TransferFault.ofSentinel? (payload.length : Int) = none :=
    (TransferFault.ofSentinel?_eq_none_iff _).2 (Int.natCast_nonneg _)
  rw [longText, hlength, hsource]
  simp only [Int.toNat_natCast, h]

end RecordDecoder

namespace ProbeSpec

def geometry (spec : ProbeSpec) : Geometry :=
  ⟨spec.tuning.chunkSize, spec.tuning.chunkCount⟩

theorem fits_iff {spec : ProbeSpec} (hsize : spec.tuning.chunkSize ≠ 0) (payload : Bytes) :
    Ring.Fits spec.geometry payload ↔
      payload.length < 2 ^ 31 ∧
        payload.length ⌈/⌉ spec.tuning.chunkSize.toNat ≤ spec.tuning.chunkCount.toNat := by
  have hlongest : Ring.longest = 2 ^ 31 - 1 := rfl
  have hneeded : spec.geometry.chunksNeeded payload.length =
      payload.length ⌈/⌉ spec.tuning.chunkSize.toNat := by
    rw [Nat.ceilDiv_eq_add_pred_div]
    exact Geometry.chunksNeeded_eq hsize payload.length
  rw [Ring.Fits, hlongest, hneeded]
  refine and_congr_left fun _ => ?_
  omega

end ProbeSpec

namespace RecordDecoder

variable {spec : ProbeSpec} {read : Option PayloadDecoder}

/-- What the write of a payload states is read as that payload. -/
theorem longText_of_written (hsize : spec.tuning.chunkSize ≠ 0)
    (hcount : spec.tuning.chunkCount ≠ 0) (hhalf : spec.tuning.chunkCount.toNat ≤ 2 ^ 31)
    (history : List Bytes) {payload : Bytes} (hfits : Ring.Fits spec.geometry payload)
    (framing : Framing) {written : (Int × Nat) × Ring}
    (hwritten : (Ring.ofWrites spec.geometry history).write payload = written) :
    longText ⟨spec, some written.2.source, read⟩ framing written.1.1 written.1.2 =
      payloadValue ⟨spec, some written.2.source, read⟩ framing payload := by
  have hgeometry := Ring.ofWrites_geometry spec.geometry history
  have hchunks := Ring.ofWrites_size spec.geometry history
  generalize Ring.ofWrites spec.geometry history = ring at hwritten hgeometry hchunks
  have hpos : 0 < ring.geometry.count.toNat := Geometry.count_pos (hgeometry ▸ hcount)
  have hfitsRing : Ring.Fits ring.geometry payload := hgeometry ▸ hfits
  have hstart := Nat.mod_lt ring.next.toNat hpos
  have hneeded := hfitsRing.2
  have hwords : UInt32.size = 2 ^ 31 + 2 ^ 31 := rfl
  have hcountRing : ring.geometry.count.toNat ≤ 2 ^ 31 := hgeometry ▸ hhalf
  have hread := Ring.write_reassemble (hgeometry ▸ hsize) hpos hchunks hfitsRing (by omega)
  rw [hwritten] at hread
  have hstated : written.1 = (((payload.length : Int)), ring.next.toNat %
      ring.geometry.count.toNat) := by
    rw [← hwritten, Ring.write_of_fits hfitsRing]
  rw [hstated]
  rw [hgeometry] at hread ⊢
  exact longText_of_reassemble rfl hread

/-- A payload that fits comes out of the ring and the record as it went in, and as a
document if there is a format that takes it. One that does not fit leaves the ring as it
is and comes out as the fault. -/
theorem decode_written_payload (h : spec.Accepted) {place : Place} {lengthArg : Option Nat}
    (harg : Arg.leaf place (.longText lengthArg) ∈ spec.args)
    (hhalf : spec.tuning.chunkCount.toNat ≤ 2 ^ 31) (history : List Bytes) (payload : Bytes)
    (read : Option PayloadDecoder) (cpu : Int) {data : Bytes}
    (hsize : spec.layout.size ≤ data.length) {length : Int} {first : Nat} {ring : Ring}
    (hwritten : (Ring.ofWrites spec.geometry history).write payload = ((length, first), ring))
    (hcarries : spec.Carries place.field data length first) :
    ∃ hit, decode ⟨spec, some ring.source, read⟩ cpu data = .ok hit ∧
      (payload.length < 2 ^ 31 ∧
          payload.length ⌈/⌉ spec.tuning.chunkSize.toNat ≤ spec.tuning.chunkCount.toNat →
        (read = none → hit.arg? place.name = some (.bytes payload)) ∧
        ∀ format, read = some format →
          (∀ document, format payload (framingOf lengthArg) = some document →
            hit.arg? place.name = some (.document document)) ∧
          (format payload (framingOf lengthArg) = none →
            hit.arg? place.name = some (.malformed payload))) ∧
      (¬ (payload.length < 2 ^ 31 ∧
          payload.length ⌈/⌉ spec.tuning.chunkSize.toNat ≤ spec.tuning.chunkCount.toNat) →
        ring = Ring.ofWrites spec.geometry history ∧
        hit.arg? place.name = some (.transfer .lengthMismatch)) := by
  obtain ⟨hsizePos, hcountPos⟩ := h.chunked harg
  have haccepted : (RecordDecoder.mk spec (some ring.source) read).spec.Accepted := h
  have hdecode : decode ⟨spec, some ring.source, read⟩ cpu data =
      .ok (hitAt ⟨spec, some ring.source, read⟩ data cpu) := decode_eq_hitAt haccepted cpu hsize
  have harg? : decodeArg ⟨spec, some ring.source, read⟩ data (.leaf place (.longText lengthArg)) =
      .ok (longText ⟨spec, some ring.source, read⟩ (framingOf lengthArg) length first) :=
    decodeArg_of_carries ⟨spec, some ring.source, read⟩ h harg hsize hcarries
  have hvalue : (hitAt ⟨spec, some ring.source, read⟩ data cpu).arg? place.name =
      some (longText ⟨spec, some ring.source, read⟩ (framingOf lengthArg) length first) :=
    decode_arg? haccepted hdecode harg harg?
  rw [← ProbeSpec.fits_iff hsizePos]
  refine ⟨_, hdecode, ?fits, ?refused⟩
  case fits =>
    intro hfits
    have hpayload : longText ⟨spec, some ring.source, read⟩ (framingOf lengthArg) length first =
        payloadValue ⟨spec, some ring.source, read⟩ (framingOf lengthArg) payload :=
      longText_of_written hsizePos hcountPos hhalf history hfits (framingOf lengthArg) hwritten
    rw [hpayload, payloadValue] at hvalue
    refine ⟨?_, ?_⟩
    · rintro rfl
      exact hvalue
    · rintro format rfl
      refine ⟨?_, ?_⟩
      · intro document hdocument
        simp only [hdocument] at hvalue
        exact hvalue
      · intro hnone
        simp only [hnone] at hvalue
        exact hvalue
  case refused =>
    intro hrefused
    have hring : ¬ Ring.Fits (Ring.ofWrites spec.geometry history).geometry payload := by
      rw [Ring.ofWrites_geometry]
      exact hrefused
    rw [Ring.write_of_not_fits hring] at hwritten
    obtain ⟨hstated, rfl⟩ := Prod.mk.inj hwritten
    obtain ⟨rfl, rfl⟩ := Prod.mk.inj hstated
    exact ⟨rfl, hvalue.trans (congrArg some (longText_of_fault rfl))⟩

/-- A number, and a long text of that length on a ring of four chunks of two bytes. -/
def sizedSpec : ProbeSpec where
  name := "p"
  provider := none
  args := ArgDecl.placedFrom [] 0
    [.leaf (some "len") .long, .leaf (some "doc") (.longText (some 0))]
  tuning := ⟨1.0, 2, 4⟩

theorem sizedSpec_accepted : sizedSpec.Accepted :=
  ⟨[.leaf (some "len") .long, .leaf (some "doc") (.longText (some 0))], rfl⟩

/-- A record of it that states five bytes from the last chunk on. -/
def sizedRecord : Bytes :=
  List.replicate 32 0 ++ ([5, 0, 0, 0, 0, 0, 0, 0] ++ [5, 0, 0, 0, 3, 0, 0, 0])

/-- Three chunks are taken, so the payload goes round the end of the ring. -/
theorem decode_wrapped_payload :
    ∃ hit, decode ⟨sizedSpec,
        some ((Ring.ofWrites sizedSpec.geometry [[9, 9, 9, 9, 9]]).write
          [1, 2, 3, 4, 5]).2.source, none⟩ 0 sizedRecord = .ok hit ∧
      hit.arg? "doc" = some (.bytes [1, 2, 3, 4, 5]) := by
  have hcarries : sizedSpec.Carries "doc" sizedRecord 5 3 :=
    ⟨⟨"doc_sz", 40, .chunkLength⟩, ⟨"doc_idx", 44, .chunkIndex⟩, by decide, by decide,
      by decide +kernel, by decide +kernel⟩
  have harg : Arg.leaf ⟨some "doc", 1, []⟩ (.longText (some 0)) ∈ sizedSpec.args :=
    List.mem_cons_of_mem _ List.mem_cons_self
  have hfits : Ring.Fits sizedSpec.geometry [1, 2, 3, 4, 5] := by decide
  obtain ⟨hit, hhit, hread, -⟩ := decode_written_payload sizedSpec_accepted harg (by decide)
    [[9, 9, 9, 9, 9]] [1, 2, 3, 4, 5] none 0 (by decide) rfl hcarries
  exact ⟨hit, hhit, (hread ((ProbeSpec.fits_iff (by decide) _).1 hfits)).1 rfl⟩

end RecordDecoder
end ProbeTrace
