import ProbeTrace.Proofs.Bytes
import ProbeTrace.Proofs.Probe.Accepted
import ProbeTrace.Proofs.Record.Slots
import ProbeTrace.Record.Decoder

/-!
# Reading by position

The reader of records finds slots by name. Here a record is read by position:
every leaf stands behind the leaves declared before it. For an accepted
description the two readings agree, and no record that is long enough is refused.
-/

set_option autoImplicit false

namespace ProbeTrace

open RecordLayout Outcome

namespace RecordDecoder

variable (decoder : RecordDecoder) (data : Bytes)

/-- What a leaf at an offset stands for. -/
def leafAt (offset : Nat) : Leaf → Value
  | .int => .int (Int64.ofInt (data.signedAt offset 4))
  | .long => .int (Int64.ofInt (data.signedAt offset 8))
  | .ulong => .uint (UInt64.ofNat (data.wordAt offset 8))
  | .char => .int (Int64.ofInt (data.signedAt offset 1))
  | .pointer => .pointer (UInt64.ofNat (data.wordAt offset 8))
  | .text length => .text (data.textAt offset length)
  | .longText lengthArg =>
    decoder.longText (framingOf lengthArg) (data.signedAt offset 4) (data.wordAt (offset + 4) 4)

mutual
/-- What an argument at an offset stands for, its members one behind the other. -/
def argAt (offset : Nat) : Arg → Value
  | .leaf _ kind => leafAt decoder data offset kind
  | .struct _ members => .struct (argsAt offset members [])

def argsAt (offset : Nat) : List Arg → Keyed String Value → Keyed String Value
  | [], done => done
  | arg :: rest, done =>
    argsAt (offset + widthOf arg.leaves) rest (Keyed.insert arg.name (argAt offset arg) done)
end

variable {decoder data}

/-- A name that no earlier slot has is found where the sizes of those say. -/
theorem slot_eq {front back : List (String × SlotKind)} {name : String} {kind : SlotKind}
    (hsplit : slotsOf decoder.spec.args = front ++ (name, kind) :: back)
    (hnodup : ((slotsOf decoder.spec.args).map Prod.fst).Nodup) :
    decoder.slot name = .ok ⟨name, headerSize + totalSize front, kind⟩ := by
  rw [hsplit, List.map_append, List.map_cons] at hnodup
  have hname : name ∉ front.map Prod.fst := fun h =>
    (List.nodup_append.1 hnodup).2.2 name h name List.mem_cons_self rfl
  have hfind : decoder.layout.slot? name = some ⟨name, headerSize + totalSize front, kind⟩ := by
    rw [layout, ProbeSpec.layout, ofArgs, slot?, hsplit]
    exact arrange_find? headerSize front back name kind hname
  rw [slot, hfind]

theorem slotBytes_eq {slot : Slot} (h : slot.offset + slot.kind.size ≤ data.length) :
    slotBytes data slot = .ok (data.window slot.offset slot.kind.size) := by
  rw [slotBytes, Bytes.slice?_eq_some h]

theorem slot_value {front back : List (String × SlotKind)} {name : String} {kind : SlotKind}
    (hsplit : slotsOf decoder.spec.args = front ++ (name, kind) :: back)
    (hnodup : ((slotsOf decoder.spec.args).map Prod.fst).Nodup)
    (hfit : headerSize + totalSize front + kind.size ≤ data.length) :
    (do
      let slot ← decoder.slot name
      let part ← slotBytes data slot
      return slot.kind.value part : Except DecodeError Value) =
        .ok (kind.value (data.window (headerSize + totalSize front) kind.size)) := by
  rw [slot_eq hsplit hnodup, ok_bind, slotBytes_eq hfit, ok_bind]
  rfl

/-- The length is in the slot behind all earlier ones, the first chunk in the next. -/
theorem longText_slots {front back : List (String × SlotKind)} {field : String}
    (hsplit : slotsOf decoder.spec.args = front ++
      (lengthField field, .chunkLength) :: (indexField field, .chunkIndex) :: back)
    (hnodup : ((slotsOf decoder.spec.args).map Prod.fst).Nodup) :
    decoder.slot (lengthField field) =
        .ok ⟨lengthField field, headerSize + totalSize front, .chunkLength⟩ ∧
      decoder.slot (indexField field) =
        .ok ⟨indexField field, headerSize + totalSize front + 4, .chunkIndex⟩ := by
  have hindex : slotsOf decoder.spec.args =
      (front ++ [(lengthField field, .chunkLength)]) ++
        (indexField field, .chunkIndex) :: back := by
    rw [hsplit, List.append_assoc, List.singleton_append]
  have hindexSlot := slot_eq hindex hnodup
  rw [totalSize_append] at hindexSlot
  exact ⟨slot_eq hsplit hnodup, hindexSlot⟩

theorem decodeLongText_eq {front back : List (String × SlotKind)} {place : Place}
    {lengthArg : Option Nat}
    (hsplit : slotsOf decoder.spec.args = front ++
      (lengthField place.field, .chunkLength) :: (indexField place.field, .chunkIndex) :: back)
    (hnodup : ((slotsOf decoder.spec.args).map Prod.fst).Nodup)
    (hfit : headerSize + totalSize front + 8 ≤ data.length) :
    decoder.decodeLeaf data place (.longText lengthArg) =
      .ok (decoder.leafAt data (headerSize + totalSize front) (.longText lengthArg)) := by
  have hlengthFit : headerSize + totalSize front + 4 ≤ data.length := by omega
  obtain ⟨hlengthSlot, hindexSlot⟩ := longText_slots hsplit hnodup
  rw [leafAt, ← Bytes.window_toInt hlengthFit, ← Bytes.window_toNat]
  rw [decodeLeaf, hlengthSlot, ok_bind, hindexSlot, ok_bind, slotBytes_eq hlengthFit, ok_bind,
    slotBytes_eq hfit, ok_bind]
  rfl

/-- A record that is long enough for the layout is so for every leaf. -/
theorem leaf_fits (hsize : decoder.layout.size ≤ data.length) {before after : List (Place × Leaf)}
    {place : Place} {kind : Leaf}
    (hleaves : Arg.leavesOf decoder.spec.args = before ++ (place, kind) :: after) :
    headerSize + widthOf before + kind.width ≤ data.length := by
  have htotal : decoder.layout.size = headerSize +
      (widthOf before + (kind.width + widthOf after)) := by
    rw [layout, ProbeSpec.layout, ofArgs_size, hleaves, widthOf_append]
    rfl
  omega

/-- A leaf is read from behind the leaves that were declared before it. -/
theorem decodeLeaf_eq (hnodup : (fieldsOf (Arg.leavesOf decoder.spec.args)).Nodup)
    (hsize : decoder.layout.size ≤ data.length) {before after : List (Place × Leaf)}
    {place : Place} {kind : Leaf}
    (hleaves : Arg.leavesOf decoder.spec.args = before ++ (place, kind) :: after) :
    decoder.decodeLeaf data place kind =
      .ok (decoder.leafAt data (headerSize + widthOf before) kind) := by
  have hsplit := slotsOf_split hleaves
  have hfit := leaf_fits hsize hleaves
  rw [← slotsOf_names] at hnodup
  rw [← slotsOfLeaves_size] at hfit ⊢
  cases kind with
  | int | long | char =>
    rw [Leaf.width] at hfit
    rw [leafAt, ← Bytes.window_toInt hfit]
    exact slot_value hsplit hnodup hfit
  | ulong | pointer =>
    rw [leafAt, ← Bytes.window_toNat]
    exact slot_value hsplit hnodup hfit
  | text length => exact slot_value hsplit hnodup hfit
  | longText lengthArg => exact decodeLongText_eq hsplit hnodup hfit

mutual
/-- What is read of an argument by field names is what stands at its position. -/
theorem decodeArg_eq (hnodup : (fieldsOf (Arg.leavesOf decoder.spec.args)).Nodup)
    (hsize : decoder.layout.size ≤ data.length) (before after : List (Place × Leaf)) :
    (arg : Arg) → Arg.leavesOf decoder.spec.args = before ++ (arg.leaves ++ after) →
      decoder.decodeArg data arg = .ok (argAt decoder data (headerSize + widthOf before) arg)
  | .leaf place kind, hleaves => by
    rw [decodeArg, argAt]
    exact decodeLeaf_eq hnodup hsize hleaves
  | .struct place members, hleaves => by
    rw [decodeArg, argAt, decodeArgs_eq hnodup hsize before after members hleaves []]
    rfl

theorem decodeArgs_eq (hnodup : (fieldsOf (Arg.leavesOf decoder.spec.args)).Nodup)
    (hsize : decoder.layout.size ≤ data.length) (before after : List (Place × Leaf)) :
    (args : List Arg) → Arg.leavesOf decoder.spec.args = before ++ (Arg.leavesOf args ++ after) →
      ∀ done, decoder.decodeArgs data args done =
        .ok (argsAt decoder data (headerSize + widthOf before) args done)
  | [], _, done => rfl
  | arg :: rest, hleaves, done => by
    rw [Arg.leavesOf, List.append_assoc] at hleaves
    have harg := decodeArg_eq hnodup hsize before (Arg.leavesOf rest ++ after) arg hleaves
    -- The rest is read from behind the leaves of the argument.
    rw [← List.append_assoc] at hleaves
    have hrest := decodeArgs_eq hnodup hsize (before ++ arg.leaves) after rest hleaves
    rw [widthOf_append, ← Nat.add_assoc] at hrest
    rw [decodeArgs, harg, ok_bind, hrest, argsAt]
end

theorem leafAt_take {offset n : Nat} {kind : Leaf} (h : offset + kind.width ≤ n) :
    decoder.leafAt (data.take n) offset kind = decoder.leafAt data offset kind := by
  cases kind with
  | int | long | char =>
    rw [Leaf.width] at h
    rw [leafAt, leafAt, Bytes.signedAt_take h]
  | ulong | pointer =>
    rw [Leaf.width] at h
    rw [leafAt, leafAt, Bytes.wordAt_take h]
  | text length =>
    rw [Leaf.width] at h
    rw [leafAt, leafAt, Bytes.textAt_take h]
  | longText lengthArg =>
    rw [Leaf.width] at h
    have hlength : offset + 4 ≤ n := by omega
    have hindex : offset + 4 + 4 ≤ n := h
    rw [leafAt, leafAt, Bytes.signedAt_take hlength, Bytes.wordAt_take hindex]

mutual
theorem argAt_take {n : Nat} : (arg : Arg) → ∀ offset, offset + widthOf arg.leaves ≤ n →
    argAt decoder (data.take n) offset arg = argAt decoder data offset arg
  | .leaf place kind, offset, h => by
    have hwidth : widthOf (Arg.leaf place kind).leaves = kind.width := Nat.add_zero _
    rw [argAt, argAt, leafAt_take (hwidth ▸ h)]
  | .struct place members, offset, h => by
    rw [argAt, argAt, argsAt_take members offset h]

theorem argsAt_take {n : Nat} : (args : List Arg) → ∀ offset,
    offset + widthOf (Arg.leavesOf args) ≤ n → ∀ done,
      argsAt decoder (data.take n) offset args done = argsAt decoder data offset args done
  | [], _, _, _ => rfl
  | arg :: rest, offset, h, done => by
    rw [Arg.leavesOf, widthOf_append] at h
    rw [argsAt, argsAt, argAt_take arg offset (by omega),
      argsAt_take rest (offset + widthOf arg.leaves) (by omega)]
end

variable (decoder data)

/-- The hit that a record read by position stands for. -/
def hitAt (cpu : Int) : Hit where
  probe := decoder.spec.name
  pid := data.wordAt 16 4
  tid := data.wordAt 20 4
  comm := data.textAt 0 16
  ns := data.wordAt 24 8
  cpu := cpu
  size := data.length
  args := argsAt decoder data headerSize decoder.spec.args []

variable {decoder data}

theorem hitAt_take (cpu : Int) :
    decoder.hitAt (data.take decoder.layout.size) cpu =
      { decoder.hitAt data cpu with size := (data.take decoder.layout.size).length } := by
  have hlayout : decoder.layout.size = headerSize + widthOf (Arg.leavesOf decoder.spec.args) :=
    ofArgs_size decoder.spec.args
  have hns : 24 + 8 ≤ decoder.layout.size := by
    rw [hlayout]
    exact Nat.le_add_right headerSize _
  have hpid : 16 + 4 ≤ decoder.layout.size := by omega
  have htid : 20 + 4 ≤ decoder.layout.size := by omega
  have hcomm : 0 + 16 ≤ decoder.layout.size := by omega
  simp only [hitAt, Bytes.wordAt_take hpid, Bytes.wordAt_take htid, Bytes.textAt_take hcomm,
    Bytes.wordAt_take hns,
    argsAt_take decoder.spec.args headerSize (Nat.le_of_eq hlayout.symm) []]

/-- A record long enough for the layout is read, and read by position. -/
theorem decode_eq_hitAt (h : decoder.spec.Accepted) (cpu : Int)
    (hsize : decoder.layout.size ≤ data.length) :
    decoder.decode cpu data = .ok (decoder.hitAt data cpu) := by
  have hargs := decodeArgs_eq h.fields_nodup hsize [] [] decoder.spec.args
    (List.append_nil _).symm []
  rw [decode, if_neg (Nat.not_lt.2 hsize), hargs, hitAt]
  simp only [← Bytes.window_toNat]
  rfl

theorem decode_eq_truncated (cpu : Int) (hsize : data.length < decoder.layout.size) :
    decoder.decode cpu data = .error (.truncated decoder.layout.size data.length) := by
  rw [decode, if_pos hsize]
  rfl

theorem decode_eq_ok_iff (h : decoder.spec.Accepted) (cpu : Int) {hit : Hit} :
    decoder.decode cpu data = .ok hit ↔
      decoder.layout.size ≤ data.length ∧ hit = decoder.hitAt data cpu := by
  by_cases hsize : decoder.layout.size ≤ data.length
  · rw [decode_eq_hitAt h cpu hsize, Except.ok.injEq, and_iff_right hsize]
    exact eq_comm
  · rw [decode_eq_truncated cpu (Nat.not_le.1 hsize)]
    exact ⟨nofun, fun hlong => absurd hlong.1 hsize⟩

theorem slots_split {before after : List (Place × Leaf)} {place : Place} {kind : Leaf}
    (hleaves : Arg.leavesOf decoder.spec.args = before ++ (place, kind) :: after) :
    ∃ earlier later, decoder.layout.slots =
        earlier ++ (arrange (headerSize + widthOf before) (leafSlots place kind) ++ later) ∧
      (earlier.map fun slot => slot.kind.size).sum = widthOf before := by
  have hsplit : decoder.layout.slots = arrange headerSize (slotsOf decoder.spec.args) := rfl
  rw [slotsOf_split hleaves, arrange_append, arrange_append, slotsOfLeaves_size] at hsplit
  refine ⟨_, _, hsplit, ?_⟩
  rw [sum_arrange_sizes, slotsOfLeaves_size]

/-- Every record of an accepted description is read field by field, each from its
own slot. It is refused when it is shorter than the layout and only then, and what
is behind the layout counts for nothing but the size of the hit. -/
theorem decode_reads_own_slots {decoder : RecordDecoder} (h : decoder.spec.Accepted) (cpu : Int)
    (data : Bytes) :
    (decoder.decode cpu data = .error (.truncated decoder.layout.size data.length) ↔
      data.length < decoder.layout.size) ∧
    ((∃ hit, decoder.decode cpu data = .ok hit) ↔ decoder.layout.size ≤ data.length) ∧
    (∀ hit, decoder.decode cpu data = .ok hit →
      hit.comm = data.textAt 0 16 ∧ hit.pid = data.wordAt 16 4 ∧ hit.tid = data.wordAt 20 4 ∧
      hit.ns = data.wordAt 24 8 ∧ hit.args = decoder.argsAt data 32 decoder.spec.args [] ∧
      hit.size = data.length ∧
      decoder.decode cpu (data.take decoder.layout.size) =
        .ok { hit with size := decoder.layout.size }) ∧
    (∀ before place kind after,
      Arg.leavesOf decoder.spec.args = before ++ (place, kind) :: after →
      (∃ earlier later, decoder.layout.slots =
          earlier ++ (arrange (32 + widthOf before) (leafSlots place kind) ++ later) ∧
        (earlier.map fun slot => slot.kind.size).sum = widthOf before) ∧
      (decoder.layout.size ≤ data.length → decoder.decodeArg data (.leaf place kind) =
        .ok (decoder.leafAt data (32 + widthOf before) kind))) ∧
    Tiles decoder.layout.slots 32 decoder.layout.size := by
  refine ⟨?refused, ?read, ?parts, ?leaves, arrange_tiles headerSize (slotsOf decoder.spec.args)⟩
  case refused =>
    refine ⟨fun hrefused => ?_, decode_eq_truncated cpu⟩
    by_contra hlong
    rw [decode_eq_hitAt h cpu (Nat.not_lt.1 hlong)] at hrefused
    cases hrefused
  case read =>
    constructor
    · rintro ⟨hit, hhit⟩
      exact ((decode_eq_ok_iff h cpu).1 hhit).1
    · intro hsize
      exact ⟨_, decode_eq_hitAt h cpu hsize⟩
  case parts =>
    intro hit hhit
    obtain ⟨hsize, rfl⟩ := (decode_eq_ok_iff h cpu).1 hhit
    have htake : (data.take decoder.layout.size).length = decoder.layout.size :=
      List.length_take_of_le hsize
    refine ⟨rfl, rfl, rfl, rfl, rfl, rfl, ?_⟩
    rw [decode_eq_hitAt h cpu htake.ge, hitAt_take cpu, htake]
  case leaves =>
    intro before place kind after hleaves
    refine ⟨slots_split hleaves, fun hsize => ?_⟩
    rw [decodeArg]
    exact decodeLeaf_eq h.fields_nodup hsize hleaves

/-- A structure with a text and an unnamed number in it, then a long text. -/
def nestedSpec : ProbeSpec where
  name := "p"
  provider := none
  args := ArgDecl.placedFrom [] 0
    [.struct (some "s") [.leaf (some "t") (.text 3), .leaf none .int],
      .leaf (some "doc") (.longText none)]
  tuning := Tuning.standard

theorem nestedSpec_accepted : nestedSpec.Accepted :=
  ⟨[.struct (some "s") [.leaf (some "t") (.text 3), .leaf none .int],
    .leaf (some "doc") (.longText none)], rfl⟩

/-- Its records are 47 bytes long, and the unnamed number stands at byte 35. -/
theorem decode_nested : nestedSpec.Accepted ∧
    (∃ hit, decode ⟨nestedSpec, none, none⟩ 0 (List.replicate 48 1) = .ok hit) ∧
    decode ⟨nestedSpec, none, none⟩ 0 (List.replicate 46 1) = .error (.truncated 47 46) ∧
    decodeArg ⟨nestedSpec, none, none⟩ (List.replicate 48 1) (.leaf ⟨none, 1, [0]⟩ .int) =
      .ok (leafAt ⟨nestedSpec, none, none⟩ (List.replicate 48 1) 35 .int) := by
  refine ⟨nestedSpec_accepted, ?_, ?_, ?_⟩
  · exact (decode_reads_own_slots nestedSpec_accepted 0 _).2.1.2 (by decide)
  · exact (decode_reads_own_slots nestedSpec_accepted 0 _).1.2 (by decide)
  · exact ((decode_reads_own_slots nestedSpec_accepted 0 _).2.2.2.1
      [(⟨some "t", 0, [0]⟩, .text 3)] _ _ [(⟨some "doc", 1, []⟩, .longText none)] rfl).2 (by decide)

end RecordDecoder
end ProbeTrace
