import ProbeTrace.Probe.Arg

/-!
# Record layout

A record is a header and then the slots of the arguments, one after the other
without padding. A long text takes two slots, for its length and for its first
chunk. The program that writes records and the reader of records use one layout.
-/

set_option autoImplicit false

namespace ProbeTrace

inductive SlotKind where
  | i8
  | i32
  | i64
  | u64
  | pointer
  | bytes (n : Nat)
  /-- Length of a long text, or the fault that kept it from arriving. -/
  | chunkLength
  /-- First chunk of a long text. -/
  | chunkIndex
  deriving DecidableEq, Repr

namespace SlotKind

def size : SlotKind → Nat
  | .i8 => 1
  | .i32 | .chunkLength | .chunkIndex => 4
  | .i64 | .u64 | .pointer => 8
  | .bytes n => n

end SlotKind

structure Slot where
  name : String
  offset : Nat
  kind : SlotKind
  deriving DecidableEq, Repr

structure RecordLayout where
  slots : List Slot
  size : Nat
  deriving DecidableEq, Repr

namespace RecordLayout

/-- Bytes of the command name at the start of the header. -/
def commSize : Nat := 16

/-- Command name, process, thread and time. -/
def headerSize : Nat := 32

/-- The fields of the header. -/
def reserved : List String := ["comm", "pid", "tid", "ns"]

def lengthField (field : String) : String := field ++ "_sz"

def indexField (field : String) : String := field ++ "_idx"

def leafSlots (place : Place) : Leaf → List (String × SlotKind)
  | .int => [(place.field, .i32)]
  | .long => [(place.field, .i64)]
  | .ulong => [(place.field, .u64)]
  | .char => [(place.field, .i8)]
  | .pointer => [(place.field, .pointer)]
  | .text length => [(place.field, .bytes length)]
  | .longText _ => [(lengthField place.field, .chunkLength), (indexField place.field, .chunkIndex)]

/-- Sets slots one after the other from an offset on. -/
def arrange (offset : Nat) : List (String × SlotKind) → List Slot
  | [] => []
  | (name, kind) :: rest => ⟨name, offset, kind⟩ :: arrange (offset + kind.size) rest

def totalSize : List (String × SlotKind) → Nat
  | [] => 0
  | slot :: rest => slot.2.size + totalSize rest

def slotsOf (args : List Arg) : List (String × SlotKind) :=
  (Arg.leavesOf args).flatMap fun leaf => leafSlots leaf.1 leaf.2

def ofArgs (args : List Arg) : RecordLayout :=
  ⟨arrange headerSize (slotsOf args), headerSize + totalSize (slotsOf args)⟩

def slot? (layout : RecordLayout) (name : String) : Option Slot :=
  layout.slots.find? fun slot => slot.name = name

theorem arrange_append (offset : Nat) (a b : List (String × SlotKind)) :
    arrange offset (a ++ b) = arrange offset a ++ arrange (offset + totalSize a) b := by
  induction a generalizing offset with
  | nil => simp [arrange, totalSize]
  | cons slot rest ih =>
    obtain ⟨name, kind⟩ := slot
    simp only [List.cons_append, arrange, ih, totalSize, Nat.add_assoc]

theorem arrange_names (offset : Nat) (slots : List (String × SlotKind)) :
    (arrange offset slots).map Slot.name = slots.map Prod.fst := by
  induction slots generalizing offset with
  | nil => rfl
  | cons slot rest ih => simp [arrange, ih]

end RecordLayout
end ProbeTrace
