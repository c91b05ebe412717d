import ProbeTrace.Program.Emit

/-!
# The record as a packed structure

Members of a packed structure lie one after the other, so the sizes of their
types give their places. Those of the emitted record are the offsets of the
layout, and the structure has the size of the layout.
-/

set_option autoImplicit false

namespace ProbeTrace

namespace Code

/-- Bytes of a value on the machine that runs the program; none for a structure, whose size
depends on what it declares. -/
def CType.width? : CType → Option Nat
  | .s8 | .char => some 1
  | .s32 | .u32 | .int => some 4
  | .s64 | .u64 | .long | .longLong | .unsignedLongLong | .pointer _ => some 8
  | .constant type => type.width?
  | .void | .struct _ => none

def Member.width? (member : Member) : Option Nat :=
  match member.extent with
  | none => member.type.width?
  | some (.number n) => member.type.width?.map (· * n)
  | some _ => none

/-- The places of members without padding from an offset on, and where they end. -/
def packedPlaces? (offset : Nat) : List Member → Option (List (String × Nat) × Nat)
  | [] => some ([], offset)
  | member :: rest =>
    member.width?.bind fun width =>
      (packedPlaces? (offset + width) rest).map fun (places, stop) =>
        ((member.name, offset) :: places, stop)

end Code

namespace Slot

/-- A slot as it is declared in C. -/
def declared (slot : Slot) : String :=
  match slot.kind with
  | .i8 => "__s8 " ++ slot.name
  | .i32 | .chunkLength => "__s32 " ++ slot.name
  | .i64 => "__s64 " ++ slot.name
  | .u64 | .pointer => "__u64 " ++ slot.name
  | .chunkIndex => "__u32 " ++ slot.name
  | .bytes n => "char " ++ slot.name ++ "[" ++ toString n ++ "]"

end Slot

namespace Program

open Code RecordLayout

theorem slotMember_text (slot : Slot) :
    (slotMember slot).text = "\t" ++ slot.declared ++ ";\n" := by
  obtain ⟨name, offset, kind⟩ := slot
  cases kind <;>
    simp [slotMember, Slot.declared, Member.text, CType.declare, CType.text, Expr.text,
      String.append_assoc]

theorem slotMember_name (slot : Slot) : (slotMember slot).name = slot.name := by
  unfold slotMember
  split <;> rfl

theorem slotMember_width? (slot : Slot) : (slotMember slot).width? = some slot.kind.size := by
  obtain ⟨name, offset, kind⟩ := slot
  cases kind <;> simp [slotMember, Member.width?, CType.width?, SlotKind.size]

theorem packedPlaces?_arrange (offset : Nat) (slots : List (String × SlotKind)) :
    packedPlaces? offset ((arrange offset slots).map slotMember) =
      some ((arrange offset slots).map fun slot => (slot.name, slot.offset),
        offset + totalSize slots) := by
  induction slots generalizing offset with
  | nil => rfl
  | cons slot rest ih =>
    obtain ⟨name, kind⟩ := slot
    simp [arrange, packedPlaces?, slotMember_width?, slotMember_name, ih, totalSize,
      Nat.add_assoc]

theorem recordDef_packedPlaces? (spec : ProbeSpec) :
    packedPlaces? 0 (recordDef spec).members =
      some ([("comm", 0), ("pid", 16), ("tid", 20), ("ns", 24)] ++
        spec.layout.slots.map (fun slot => (slot.name, slot.offset)), spec.layout.size) := by
  have hslots := packedPlaces?_arrange headerSize (slotsOf spec.args)
  simp only [recordDef, headerMembers, List.cons_append, List.nil_append, packedPlaces?,
    Member.width?, CType.width?, Option.map_some, Option.bind_some]
  change Option.map _ (Option.map _ (Option.map _ (Option.map _ (packedPlaces? headerSize _)))) = _
  rw [ProbeSpec.layout, ofArgs, hslots]
  rfl

theorem recordDef_text (spec : ProbeSpec) :
    (recordDef spec).text =
      "struct " ++ spec.name ++ "_output \x7b\n" ++
        "\tchar comm[16];\n\t__u32 pid;\n\t__u32 tid;\n\t__u64 ns;\n" ++
        String.join (spec.layout.slots.map fun slot => "\t" ++ slot.declared ++ ";\n") ++
        "\x7d __attribute__((packed));\n" := by
  have hheader : String.join (headerMembers.map Member.text) =
      "\tchar comm[16];\n\t__u32 pid;\n\t__u32 tid;\n\t__u64 ns;\n" := by
    decide
  have hslots : (spec.layout.slots.map slotMember).map Member.text =
      spec.layout.slots.map fun slot => "\t" ++ slot.declared ++ ";\n" := by
    rw [List.map_map]
    exact List.map_congr_left fun slot _ => slotMember_text slot
  simp only [StructDef.text, recordDef, Names.output, List.map_append, String.join_append, hheader,
    hslots, if_true, String.append_assoc]
  rfl

end Program
end ProbeTrace
