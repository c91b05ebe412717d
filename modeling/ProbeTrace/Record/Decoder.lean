import ProbeTrace.Chunk.Geometry
import ProbeTrace.Hit
import ProbeTrace.Payload
import ProbeTrace.Probe.Spec
import ProbeTrace.Text.Utf8

/-!
# Reading records

A record is read field by field, each from its own slot of the layout. A long
text is fetched from where chunks are kept; what stands in its slots is a length
and a first chunk, or the fault that kept the payload from arriving.
-/

set_option autoImplicit false

namespace ProbeTrace

inductive DecodeError where
  | truncated (need size : Nat)
  | missingField (name : String)
  deriving DecidableEq, Repr

namespace DecodeError

def message : DecodeError → String
  | .truncated need size => s!"record too short: need {need} bytes, have {size}"
  | .missingField name => s!"record has no field {name}"

end DecodeError

namespace Bytes

def toUInt64 (data : Bytes) : UInt64 :=
  UInt64.ofNat data.toNat

def toInt64 (data : Bytes) : Int64 :=
  Int64.ofInt data.toInt

/-- The text of a slot, with a mark in place of what is not UTF-8. -/
def text (data : Bytes) : String :=
  Text.Utf8.decodeLenient data.beforeNul

end Bytes

def SlotKind.value (kind : SlotKind) (data : Bytes) : Value :=
  match kind with
  | .i8 | .i32 | .i64 | .chunkLength => .int data.toInt64
  | .u64 | .chunkIndex => .uint data.toUInt64
  | .pointer => .pointer data.toUInt64
  | .bytes _ => .text data.text

/-- A reader of one probe's records, with the chunks and the payload format it may use. -/
structure RecordDecoder where
  spec : ProbeSpec
  chunks : Option ChunkSource
  payload : Option PayloadDecoder

namespace RecordDecoder

def layout (decoder : RecordDecoder) : RecordLayout :=
  decoder.spec.layout

def geometry (decoder : RecordDecoder) : Geometry :=
  ⟨decoder.spec.tuning.chunkSize, decoder.spec.tuning.chunkCount⟩

def slot (decoder : RecordDecoder) (name : String) : Except DecodeError Slot :=
  match decoder.layout.slot? name with
  | some slot => .ok slot
  | none => .error (.missingField name)

def slotBytes (data : Bytes) (slot : Slot) : Except DecodeError Bytes :=
  match data.slice? slot.offset slot.kind.size with
  | some part => .ok part
  | none => .error (.truncated (slot.offset + slot.kind.size) data.length)

/-- A payload as a document if there is a format for it and it has that format. -/
def payloadValue (decoder : RecordDecoder) (framing : Framing) (payload : Bytes) : Value :=
  match decoder.payload with
  | none => .bytes payload
  | some read =>
    match read payload framing with
    | some document => .document document
    | none => .malformed payload

/-- How a long text carries its length. -/
def framingOf (lengthArg : Option Nat) : Framing :=
  if lengthArg.isSome then .sized else .prefixed

/-- The value of a long text, by the length and the first chunk its record states. -/
def longText (decoder : RecordDecoder) (framing : Framing) (length : Int) (start : Nat) : Value :=
  match TransferFault.ofSentinel? length with
  | some fault => .transfer fault
  | none =>
    match decoder.chunks with
    | none => .transfer .badChunkIndex
    | some source =>
      match Chunk.reassemble source decoder.geometry start length.toNat with
      | .error fault => .transfer fault
      | .ok payload => decoder.payloadValue framing payload

def decodeLeaf (decoder : RecordDecoder) (data : Bytes) (place : Place) :
    Leaf → Except DecodeError Value
  | .longText lengthArg => do
    let lengthSlot ← decoder.slot (RecordLayout.lengthField place.field)
    let indexSlot ← decoder.slot (RecordLayout.indexField place.field)
    let length ← slotBytes data lengthSlot
    let start ← slotBytes data indexSlot
    return decoder.longText (framingOf lengthArg) length.toInt start.toNat
  | _ => do
    let slot ← decoder.slot place.field
    let part ← slotBytes data slot
    return slot.kind.value part

mutual
def decodeArg (decoder : RecordDecoder) (data : Bytes) : Arg → Except DecodeError Value
  | .leaf place kind => decoder.decodeLeaf data place kind
  | .struct _ members => Value.struct <$> decodeArgs decoder data members []

/-- Decodes arguments from left to right, each under its effective name. -/
def decodeArgs (decoder : RecordDecoder) (data : Bytes) :
    List Arg → Keyed String Value → Except DecodeError (Keyed String Value)
  | [], done => .ok done
  | arg :: rest, done => do
    let value ← decodeArg decoder data arg
    decodeArgs decoder data rest (Keyed.insert arg.name value done)
end

/-- The part of a record between two offsets, as far as the record reaches. -/
def headerPart (data : Bytes) (offset size : Nat) : Bytes :=
  (data.drop offset).take size

/-- The hit a record on a processor stands for. -/
def decode (decoder : RecordDecoder) (cpu : Int) (data : Bytes) : Except DecodeError Hit := do
  if data.length < decoder.layout.size then
    .error (.truncated decoder.layout.size data.length)
  let args ← decoder.decodeArgs data decoder.spec.args []
  return {
    probe := decoder.spec.name
    pid := (headerPart data 16 4).toNat
    tid := (headerPart data 20 4).toNat
    comm := (headerPart data 0 RecordLayout.commSize).text
    ns := (headerPart data 24 8).toNat
    cpu
    size := data.length
    args }

end RecordDecoder
end ProbeTrace
