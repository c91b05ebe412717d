import ProbeTrace.Proofs.Chunk.Steps
import ProbeTrace.Proofs.Record.Reading

/-!
# Decoding step by step

A record is decoded here in steps that may have no result: slices of the record and of
chunks, differences, quotients and sums of 32 bits. For an accepted description they come
to the outcome of decoding, whatever the record, the chunks and the format of payloads,
but for the sum that gives the place of a chunk.
-/

set_option autoImplicit false

namespace ProbeTrace

open RecordLayout Outcome

/-- What keeps a record from being decoded: it is refused, or a step has no result. -/
inductive Failure where
  | refused (error : DecodeError)
  | fault (fault : Fault)
  deriving DecidableEq, Repr

/-! ## Steps -/

namespace Bytes

/-- The text of a slot, cut off at its first zero byte or where the slot ends. -/
def textSteps (data : Bytes) : Except Fault String := do
  let part ← Step.slice data 0 (data.findIdx (· = 0))
  return Text.Utf8.decodeLenient part

theorem textSteps_eq (data : Bytes) : data.textSteps = .ok data.text := by
  have hbefore : data.beforeNul = data.take (data.findIdx (· = 0)) := by
    simp [beforeNul, List.takeWhile_eq_take_findIdx_not]
  rw [textSteps, Step.slice_front List.findIdx_le_length, ok_bind, text, hbefore]
  rfl

end Bytes

namespace SlotKind

def valueSteps (kind : SlotKind) (data : Bytes) : Except Fault Value :=
  match kind with
  | .bytes _ => Value.text <$> data.textSteps
  | kind => .ok (kind.value data)

theorem valueSteps_eq (kind : SlotKind) (data : Bytes) :
    kind.valueSteps data = .ok (kind.value data) := by
  cases kind with
  | bytes n =>
    rw [valueSteps, Bytes.textSteps_eq]
    rfl
  | _ => rfl

end SlotKind

namespace RecordDecoder

variable (decoder : RecordDecoder)

def longTextSteps (framing : Framing) (length : Int) (start : Nat) : Except Fault Value :=
  match TransferFault.ofSentinel? length with
  | some fault => .ok (.transfer fault)
  | none =>
    match decoder.chunks with
    | none => .ok (.transfer .badChunkIndex)
    | some source => do
      match ← Chunk.reassembleSteps source decoder.geometry start length.toNat with
      | .error fault => return .transfer fault
      | .ok payload => return decoder.payloadValue framing payload

def leafSteps (data : Bytes) (place : Place) : Leaf → Except Failure Value
  | .longText lengthArg => do
    let lengthSlot ← (decoder.slot (lengthField place.field)).mapError .refused
    let indexSlot ← (decoder.slot (indexField place.field)).mapError .refused
    let length ← (slotBytes data lengthSlot).mapError .refused
    let start ← (slotBytes data indexSlot).mapError .refused
    (decoder.longTextSteps (framingOf lengthArg) length.toInt start.toNat).mapError .fault
  | _ => do
    let slot ← (decoder.slot place.field).mapError .refused
    let part ← (slotBytes data slot).mapError .refused
    (slot.kind.valueSteps part).mapError .fault

mutual
def argSteps (data : Bytes) : Arg → Except Failure Value
  | .leaf place kind => decoder.leafSteps data place kind
  | .struct _ members => Value.struct <$> argsSteps data members []

def argsSteps (data : Bytes) : List Arg → Keyed String Value → Except Failure (Keyed String Value)
  | [], done => .ok done
  | arg :: rest, done => do
    let value ← argSteps data arg
    argsSteps data rest (Keyed.insert arg.name value done)
end

def decodeSteps (cpu : Int) (data : Bytes) : Except Failure Hit := do
  if data.length < decoder.layout.size then
    .error (.refused (.truncated decoder.layout.size data.length))
  let header ← (Step.slice data 0 headerSize).mapError .fault
  let args ← decoder.argsSteps data decoder.spec.args []
  let comm ← (headerPart header 0 commSize).textSteps.mapError .fault
  return {
    probe := decoder.spec.name
    pid := (headerPart header 16 4).toNat
    tid := (headerPart header 20 4).toNat
    comm
    ns := (headerPart header 24 8).toNat
    cpu
    size := data.length
    args }

end RecordDecoder

/-! ## Agreement -/

/-- Steps come to an outcome, or stop at one of some faults. -/
def Agrees {α : Type} (faults : Fault → Prop) (steps : Except Failure α)
    (outcome : Except DecodeError α) : Prop :=
  steps = outcome.mapError .refused ∨ ∃ fault, faults fault ∧ steps = .error (.fault fault)

section

variable {α β : Type} {faults : Fault → Prop}

theorem agrees_mapError (outcome : Except DecodeError α) :
    Agrees faults (outcome.mapError .refused) outcome :=
  .inl rfl

theorem agrees_ok (a : α) : Agrees faults (.ok a) (.ok a) :=
  .inl rfl

theorem Agrees.bind {steps : Except Failure α} {outcome : Except DecodeError α}
    (h : Agrees faults steps outcome) {next : α → Except Failure β}
    {after : α → Except DecodeError β}
    (hnext : ∀ a, outcome = .ok a → Agrees faults (next a) (after a)) :
    Agrees faults (steps >>= next) (outcome >>= after) := by
  rcases h with rfl | ⟨fault, hfault, rfl⟩
  · cases outcome with
    | error e => exact .inl rfl
    | ok a => exact hnext a rfl
  · exact .inr ⟨fault, hfault, rfl⟩

theorem Agrees.map {steps : Except Failure α} {outcome : Except DecodeError α}
    (h : Agrees faults steps outcome) (f : α → β) :
    Agrees faults (f <$> steps) (f <$> outcome) := by
  rcases h with rfl | ⟨fault, hfault, rfl⟩
  · cases outcome <;> exact .inl rfl
  · exact .inr ⟨fault, hfault, rfl⟩

end

namespace Geometry

variable {geometry : Geometry}

/-- A longer payload needs no fewer chunks. -/
theorem chunksNeeded_mono {a b : Nat} (h : a ≤ b) :
    geometry.chunksNeeded a ≤ geometry.chunksNeeded b := by
  by_cases hsize : geometry.size = 0
  · rw [chunksNeeded, chunksNeeded, if_pos hsize, if_pos hsize]
  · rw [chunksNeeded_eq hsize, chunksNeeded_eq hsize]
    exact Nat.div_le_div_right (by omega)

/-- The sum for the place of a chunk that a payload may have is too large. -/
def Overrun (geometry : Geometry) (fault : Fault) : Prop :=
  ∃ start i, fault = .sum start i ∧ start < geometry.count.toNat ∧ i < geometry.count.toNat ∧
    i < geometry.chunksNeeded Ring.longest ∧ UInt32.size ≤ start + i

end Geometry

theorem Bytes.signedAt_toNat_le (data : Bytes) (offset : Nat) :
    (data.signedAt offset 4).toNat ≤ Ring.longest := by
  have hbound : data.signedAt offset 4 < 2 ^ 31 := Int.bmod_lt (by decide)
  have hlongest : Ring.longest = 2 ^ 31 - 1 := rfl
  omega

theorem Arg.mem_of_longText {args : List Arg} (h : AllWellFormed args) {place : Place} {kind : Leaf}
    (hleaf : (place, kind) ∈ leavesOf args) (hlong : kind.isLongText) :
    Arg.leaf place kind ∈ args := by
  induction args with
  | nil => cases hleaf
  | cons arg rest ih =>
    obtain ⟨harg, hrest⟩ := h
    rw [leavesOf] at hleaf
    rcases List.mem_append.1 hleaf with hhere | hlater
    · cases arg with
      | leaf place' kind' =>
        obtain ⟨rfl, rfl⟩ := Prod.mk.inj (List.mem_singleton.1 hhere)
        exact List.mem_cons_self
      | struct place' members =>
        have hnone : anyLongText members = false := harg.2.2.1
        exact absurd hlong (List.any_eq_false.1 hnone _ hhere)
    · exact List.mem_cons_of_mem _ (ih hrest hlater)

namespace RecordDecoder

variable {decoder : RecordDecoder} {data : Bytes}

variable (decoder) in
theorem longTextSteps_eq (framing : Framing) {length : Int} (hlength : length.toNat ≤ Ring.longest)
    (start : Nat) :
    decoder.longTextSteps framing length start = .ok (decoder.longText framing length start) ∨
      ∃ fault, decoder.geometry.Overrun fault ∧
        decoder.longTextSteps framing length start = .error fault := by
  rw [longTextSteps, longText]
  cases TransferFault.ofSentinel? length with
  | some fault => exact .inl rfl
  | none =>
    cases decoder.chunks with
    | none => exact .inl rfl
    | some source =>
      dsimp only
      rcases Chunk.reassembleSteps_eq source decoder.geometry start length.toNat with
        hsteps | ⟨i, hi, hneeded, hstart, hlarge, hsteps⟩
      · rw [hsteps, ok_bind]
        cases Chunk.reassemble source decoder.geometry start length.toNat <;> exact .inl rfl
      · have hlongest : decoder.geometry.chunksNeeded length.toNat ≤
            decoder.geometry.chunksNeeded Ring.longest := Geometry.chunksNeeded_mono hlength
        rw [hsteps, error_bind]
        exact .inr ⟨_, ⟨start, i, rfl, hstart, by omega, by omega, hlarge⟩, rfl⟩

theorem slot_agrees {faults : Fault → Prop} (slot : Except DecodeError Slot) (data : Bytes) :
    Agrees faults
      (do
        let slot ← slot.mapError .refused
        let part ← (slotBytes data slot).mapError .refused
        (slot.kind.valueSteps part).mapError .fault)
      (do
        let slot ← slot
        let part ← slotBytes data slot
        return slot.kind.value part) := by
  apply (agrees_mapError slot).bind
  intro slot _
  apply (agrees_mapError (slotBytes data slot)).bind
  intro part _
  rw [SlotKind.valueSteps_eq]
  exact agrees_ok _

theorem leafSteps_longText (hnodup : (fieldsOf (Arg.leavesOf decoder.spec.args)).Nodup)
    (hsize : decoder.layout.size ≤ data.length) {before after : List (Place × Leaf)}
    {place : Place} {lengthArg : Option Nat}
    (hleaves : Arg.leavesOf decoder.spec.args = before ++ (place, .longText lengthArg) :: after) :
    decoder.leafSteps data place (.longText lengthArg) =
      (decoder.longTextSteps (framingOf lengthArg) (data.signedAt (headerSize + widthOf before) 4)
        (data.wordAt (headerSize + widthOf before + 4) 4)).mapError .fault := by
  have hfit : headerSize + widthOf before + 8 ≤ data.length := leaf_fits hsize hleaves
  have hlengthFit : headerSize + widthOf before + 4 ≤ data.length := by omega
  rw [← slotsOf_names] at hnodup
  obtain ⟨hlengthSlot, hindexSlot⟩ := longText_slots (slotsOf_split hleaves) hnodup
  rw [slotsOfLeaves_size] at hlengthSlot hindexSlot
  rw [leafSteps, hlengthSlot, mapError_ok, ok_bind, hindexSlot, mapError_ok, ok_bind,
    slotBytes_eq hlengthFit, mapError_ok, ok_bind, slotBytes_eq hfit, mapError_ok, ok_bind,
    ← Bytes.window_toInt hlengthFit, ← Bytes.window_toNat]
  rfl

/-- The only faults there can be are those of a long text. -/
theorem leafSteps_agrees (hnodup : (fieldsOf (Arg.leavesOf decoder.spec.args)).Nodup)
    (hsize : decoder.layout.size ≤ data.length) {leaf : Place × Leaf}
    (hleaf : leaf ∈ Arg.leavesOf decoder.spec.args) :
    Agrees (fun fault => leaf.2.isLongText ∧ decoder.geometry.Overrun fault)
      (decoder.leafSteps data leaf.1 leaf.2) (decoder.decodeLeaf data leaf.1 leaf.2) := by
  obtain ⟨place, kind⟩ := leaf
  cases kind with
  | longText lengthArg =>
    obtain ⟨before, after, hleaves⟩ := List.append_of_mem hleaf
    rw [leafSteps_longText hnodup hsize hleaves, decodeLeaf_eq hnodup hsize hleaves, leafAt]
    rcases decoder.longTextSteps_eq (framingOf lengthArg)
        (data.signedAt_toNat_le (headerSize + widthOf before))
        (data.wordAt (headerSize + widthOf before + 4) 4) with hsteps | ⟨fault, hfault, hsteps⟩
    · rw [hsteps]
      exact agrees_ok _
    · rw [hsteps]
      exact .inr ⟨fault, ⟨rfl, hfault⟩, rfl⟩
  | _ => exact slot_agrees (decoder.slot place.field) data

section

variable {faults : Fault → Prop}

mutual
theorem argSteps_agrees : (arg : Arg) →
    (∀ leaf ∈ arg.leaves,
      Agrees faults (decoder.leafSteps data leaf.1 leaf.2)
        (decoder.decodeLeaf data leaf.1 leaf.2)) →
    Agrees faults (decoder.argSteps data arg) (decoder.decodeArg data arg)
  | .leaf place kind, h => by
    rw [argSteps, decodeArg]
    exact h (place, kind) List.mem_cons_self
  | .struct place members, h => by
    rw [argSteps, decodeArg]
    exact (argsSteps_agrees members h []).map Value.struct

theorem argsSteps_agrees : (args : List Arg) →
    (∀ leaf ∈ Arg.leavesOf args,
      Agrees faults (decoder.leafSteps data leaf.1 leaf.2)
        (decoder.decodeLeaf data leaf.1 leaf.2)) →
    ∀ done, Agrees faults (decoder.argsSteps data args done) (decoder.decodeArgs data args done)
  | [], _, done => by
    rw [argsSteps, decodeArgs]
    exact agrees_ok done
  | arg :: rest, h, done => by
    rw [Arg.leavesOf, List.forall_mem_append] at h
    rw [argsSteps, decodeArgs]
    apply (argSteps_agrees arg h.1).bind
    intro value _
    exact argsSteps_agrees rest h.2 _
end

end

theorem headerPart_take {offset size : Nat} (h : offset + size ≤ headerSize) :
    headerPart (data.take headerSize) offset size = headerPart data offset size :=
  Bytes.window_take h

variable (decoder) in
theorem decodeSteps_agrees (h : decoder.spec.Accepted) (cpu : Int) (data : Bytes) :
    Agrees (fun fault => (∃ arg ∈ decoder.spec.args, arg.isLongText) ∧
        decoder.geometry.Overrun fault)
      (decoder.decodeSteps cpu data) (decoder.decode cpu data) := by
  by_cases hshort : data.length < decoder.layout.size
  · rw [decodeSteps, if_pos hshort, decode, if_pos hshort]
    exact .inl rfl
  · have hsize : decoder.layout.size ≤ data.length := Nat.not_lt.1 hshort
    have hheader : headerSize ≤ data.length := by
      have hlayout : decoder.layout.size = headerSize + widthOf (Arg.leavesOf decoder.spec.args) :=
        ofArgs_size decoder.spec.args
      omega
    have hleaves : ∀ leaf ∈ Arg.leavesOf decoder.spec.args,
        Agrees (fun fault => (∃ arg ∈ decoder.spec.args, arg.isLongText) ∧
            decoder.geometry.Overrun fault)
          (decoder.leafSteps data leaf.1 leaf.2) (decoder.decodeLeaf data leaf.1 leaf.2) := by
      intro leaf hleaf
      apply (leafSteps_agrees h.fields_nodup hsize hleaf).imp_right
      rintro ⟨fault, ⟨hlong, hfault⟩, hsteps⟩
      exact ⟨fault, ⟨⟨_, Arg.mem_of_longText h.wellFormed hleaf hlong, hlong⟩, hfault⟩, hsteps⟩
    rw [decodeSteps, if_neg hshort, decode, if_neg hshort, Step.slice_front hheader]
    apply (argsSteps_agrees decoder.spec.args hleaves []).bind
    intro args _
    rw [Bytes.textSteps_eq, mapError_ok, ok_bind, headerPart_take (by decide),
      headerPart_take (by decide), headerPart_take (by decide), headerPart_take (by decide)]
    exact agrees_ok _

end RecordDecoder
end ProbeTrace
