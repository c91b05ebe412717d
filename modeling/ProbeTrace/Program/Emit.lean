import ProbeTrace.Program.Sampling
import ProbeTrace.Program.Shape
import ProbeTrace.Program.Entry
import ProbeTrace.Program.Printer

/-!
# Emitted programs

One program for a group of probes: the declarations that all share, and then for
each probe its structures, its record, its maps, the chunk ring if it has a long
text, and the function that runs when the probe fires.
-/

set_option autoImplicit false

namespace ProbeTrace

namespace Program

open Code CopyRoutine

def prologue : List Item :=
  [.preamble "Generated by usdtrace. Do not edit."
      ["linux/types.h", "linux/bpf.h", "linux/ptrace.h", "bpf/bpf_helpers.h",
        "bpf/bpf_tracing.h", "bpf/usdt.bpf.h"],
    .defines
      [(Names.badChunkIndex, .signed TransferFault.badChunkIndexCode),
        (Names.badProbeRead, .signed TransferFault.badProbeReadCode),
        (Names.lengthFault, .signed TransferFault.lengthMismatchCode)],
    .license "GPL"]

/-- A map with one entry for each processor. -/
def scratchMap (name tag : String) : Item :=
  .map (arrayMap name "BPF_MAP_TYPE_PERCPU_ARRAY" (.number 1) (.struct tag))

def slotMember (slot : Slot) : Member :=
  match slot.kind with
  | .i8 => ⟨.s8, slot.name, none⟩
  | .i32 | .chunkLength => ⟨.s32, slot.name, none⟩
  | .i64 => ⟨.s64, slot.name, none⟩
  | .u64 | .pointer => ⟨.u64, slot.name, none⟩
  | .chunkIndex => ⟨.u32, slot.name, none⟩
  | .bytes n => ⟨.char, slot.name, some (.number n)⟩

def headerMembers : List Member :=
  [⟨.char, "comm", some (.number RecordLayout.commSize)⟩, ⟨.u32, "pid", none⟩,
    ⟨.u32, "tid", none⟩, ⟨.u64, "ns", none⟩]

def recordDef (spec : ProbeSpec) : StructDef :=
  ⟨Names.output spec.name, headerMembers ++ spec.layout.slots.map slotMember, true⟩

def channelMap (probe : String) : Item :=
  .map ⟨Names.channel probe,
    [.number "type" (.name "BPF_MAP_TYPE_PERF_EVENT_ARRAY"),
      .number "key_size" (.sizeOfType .u32), .number "value_size" (.sizeOfType .u32)]⟩

def thresholdItems (probe : String) (gate : SampleGate) : List Item :=
  match gate.threshold with
  | some threshold => [.defines [(Names.threshold probe, .unsigned threshold.toNat)]]
  | none => []

def structItems (spec : ProbeSpec) : List Item :=
  if spec.args.any Arg.isStruct then
    (shapesOf spec.name spec.args).map Item.struct ++
      [.struct (structsDef spec.name spec.args),
        scratchMap (Names.structScratch spec.name) (Names.structs spec.name)]
  else []

def payloadItems (spec : ProbeSpec) : List Item :=
  if spec.longText?.isSome then
    CopyRoutine.store spec.name spec.tuning.chunkSize.toNat spec.tuning.chunkCount.toNat ++
      [.function (CopyRoutine.function spec.name spec.tuning.chunkCount.toNat)]
  else []

/-- The part of a program that belongs to one probe. -/
def probeItems (spec : ProbeSpec) : List Item :=
  let gate := SampleGate.ofFraction spec.tuning.sampling
  [.heading spec.name] ++ thresholdItems spec.name gate ++ structItems spec ++
    [.struct (recordDef spec), scratchMap (Names.scratch spec.name) (Names.output spec.name),
      channelMap spec.name] ++
    payloadItems spec ++ [.function (Entry.function spec gate.threshold.isSome)]

end Program

structure Program where
  probes : List ProbeSpec
  deriving Repr

namespace Program

def items (program : Program) : List Code.Item :=
  prologue ++ program.probes.flatMap probeItems

def source (program : Program) : String :=
  Code.render program.items

def probeNames (program : Program) : List String :=
  program.probes.map ProbeSpec.name

def probe? (program : Program) (name : String) : Option ProbeSpec :=
  program.probes.find? fun spec => spec.name = name

def chunkStore? (spec : ProbeSpec) : Option String :=
  spec.longText?.map fun _ => Names.chunkStore spec.name

end Program

namespace SlotKind

/-- A slot as a member of the emitted record. -/
def declaration (kind : SlotKind) (name : String) : String :=
  let member := Program.slotMember ⟨name, 0, kind⟩
  member.type.declare member.name ++
    (match member.extent with
      | some extent => "[" ++ extent.text 0 ++ "]"
      | none => "")

end SlotKind
end ProbeTrace
