import Mathlib.Algebra.Ring.Nat
import Mathlib.Data.List.Chain
import ProbeTrace.Proofs.Probe.Checks

/-!
# Slots of a record

The slots of a layout follow each other without gap or overlap, from the header
to the end of the record. When field names differ, the slot found by name is the
one that stands where the sizes of all earlier slots say.
-/

set_option autoImplicit false

namespace ProbeTrace

/-- The bytes a leaf takes up in a record. -/
def Leaf.width : Leaf → Nat
  | .int => 4
  | .long | .ulong | .pointer => 8
  | .char => 1
  | .text length => length
  | .longText _ => 8

namespace RecordLayout

def widthOf (leaves : List (Place × Leaf)) : Nat :=
  (leaves.map fun leaf => leaf.2.width).sum

theorem widthOf_append (a b : List (Place × Leaf)) :
    widthOf (a ++ b) = widthOf a + widthOf b := by
  simp [widthOf]

theorem totalSize_append (a b : List (String × SlotKind)) :
    totalSize (a ++ b) = totalSize a + totalSize b := by
  induction a with
  | nil => simp [totalSize]
  | cons slot rest ih => simp [totalSize, ih, Nat.add_assoc]

theorem leafSlots_size (place : Place) (kind : Leaf) :
    totalSize (leafSlots place kind) = kind.width := by
  cases kind <;> rfl

def slotsOfLeaves (leaves : List (Place × Leaf)) : List (String × SlotKind) :=
  leaves.flatMap fun leaf => leafSlots leaf.1 leaf.2

theorem slotsOfLeaves_size (leaves : List (Place × Leaf)) :
    totalSize (slotsOfLeaves leaves) = widthOf leaves := by
  induction leaves with
  | nil => rfl
  | cons leaf rest ih =>
    rw [slotsOfLeaves, List.flatMap_cons, totalSize_append, leafSlots_size]
    simpa [widthOf, slotsOfLeaves] using ih

theorem slotsOf_split {before after : List (Place × Leaf)} {place : Place} {kind : Leaf}
    {args : List Arg} (h : Arg.leavesOf args = before ++ (place, kind) :: after) :
    slotsOf args = slotsOfLeaves before ++ (leafSlots place kind ++ slotsOfLeaves after) := by
  rw [slotsOf, h, List.flatMap_append, List.flatMap_cons]
  rfl

theorem ofArgs_size (args : List Arg) :
    (ofArgs args).size = headerSize + widthOf (Arg.leavesOf args) := by
  rw [← slotsOfLeaves_size]
  rfl

/-- Slots that fill a stretch of a record, one right after the other. -/
structure Tiles (slots : List Slot) (start stop : Nat) : Prop where
  contiguous : slots.IsChain fun a b => a.offset + a.kind.size = b.offset
  disjoint : slots.Pairwise fun a b => a.offset + a.kind.size ≤ b.offset
  covers : ∀ i, (∃ slot ∈ slots, slot.offset ≤ i ∧ i < slot.offset + slot.kind.size) ↔
    start ≤ i ∧ i < stop

theorem arrange_offset_le (offset : Nat) (slots : List (String × SlotKind)) :
    ∀ slot ∈ arrange offset slots, offset ≤ slot.offset := by
  induction slots generalizing offset with
  | nil => simp [arrange]
  | cons slot rest ih =>
    obtain ⟨name, kind⟩ := slot
    rintro later (- | ⟨-, hlater⟩)
    · exact Nat.le_refl offset
    · have := ih (offset + kind.size) later hlater
      omega

/-- No slot goes beyond the sizes of all. -/
theorem arrange_end_le (offset : Nat) (slots : List (String × SlotKind)) :
    ∀ slot ∈ arrange offset slots, slot.offset + slot.kind.size ≤ offset + totalSize slots := by
  induction slots generalizing offset with
  | nil => simp [arrange]
  | cons slot rest ih =>
    obtain ⟨name, kind⟩ := slot
    simp only [arrange, totalSize, List.forall_mem_cons]
    constructor
    · omega
    · intro later hlater
      have hend := ih (offset + kind.size) later hlater
      omega

theorem sum_arrange_sizes (offset : Nat) (slots : List (String × SlotKind)) :
    ((arrange offset slots).map fun slot => slot.kind.size).sum = totalSize slots := by
  induction slots generalizing offset with
  | nil => rfl
  | cons slot rest ih =>
    obtain ⟨name, kind⟩ := slot
    rw [arrange, List.map_cons, List.sum_cons, ih, totalSize]

theorem arrange_covers (offset : Nat) (slots : List (String × SlotKind)) (i : Nat) :
    (∃ slot ∈ arrange offset slots, slot.offset ≤ i ∧ i < slot.offset + slot.kind.size) ↔
      offset ≤ i ∧ i < offset + totalSize slots := by
  induction slots generalizing offset with
  | nil =>
    simp only [arrange, totalSize, List.not_mem_nil, false_and, exists_false, false_iff]
    omega
  | cons slot rest ih =>
    obtain ⟨name, kind⟩ := slot
    simp only [arrange, totalSize, List.exists_mem_cons_iff, ih]
    omega

theorem arrange_tiles (offset : Nat) (slots : List (String × SlotKind)) :
    Tiles (arrange offset slots) offset (offset + totalSize slots) := by
  refine ⟨?_, ?_, arrange_covers offset slots⟩
  · induction slots generalizing offset with
    | nil => exact .nil
    | cons slot rest ih =>
      obtain ⟨name, kind⟩ := slot
      cases rest with
      | nil => exact .singleton _
      | cons next rest => exact .cons_cons rfl (ih (offset + kind.size))
  · induction slots generalizing offset with
    | nil => exact .nil
    | cons slot rest ih =>
      obtain ⟨name, kind⟩ := slot
      exact .cons (arrange_offset_le (offset + kind.size) rest) (ih (offset + kind.size))

/-- The first slot of a name that no earlier slot has stands at the sizes of those. -/
theorem arrange_find? (offset : Nat) (front back : List (String × SlotKind)) (name : String)
    (kind : SlotKind) (hname : name ∉ front.map Prod.fst) :
    (arrange offset (front ++ (name, kind) :: back)).find? (fun slot => slot.name = name) =
      some ⟨name, offset + totalSize front, kind⟩ := by
  have hfront : (arrange offset front).find? (fun slot => slot.name = name) = none := by
    apply List.find?_eq_none.2
    intro slot hslot
    rw [decide_eq_true_eq]
    rintro rfl
    exact hname (arrange_names offset front ▸ List.mem_map_of_mem hslot)
  rw [arrange_append, List.find?_append, hfront, Option.none_or, arrange]
  simp

end RecordLayout
end ProbeTrace
