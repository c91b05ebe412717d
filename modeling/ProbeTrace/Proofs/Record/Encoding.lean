import ProbeTrace.Proofs.Record.Reading
import ProbeTrace.Proofs.Text.Utf8

/-!
# Records of given contents

A record is written leaf by leaf, each as wide as its slots. Read back, every leaf
has the value that was written, whatever stands before and behind it.
-/

set_option autoImplicit false

namespace ProbeTrace

open RecordLayout

/-- What can be written to the slots of a leaf: a number of its width, a text that
fits and has no zero character, or the length and the first chunk of a payload. -/
inductive Leaf.Content : Leaf → Type where
  | int (number : Int32) : Content .int
  | long (number : Int64) : Content .long
  | ulong (number : UInt64) : Content .ulong
  | char (number : Int8) : Content .char
  | pointer (handle : UInt64) : Content .pointer
  | text {length : Nat} (written : String) (fits : (Text.Utf8.encode written).length ≤ length)
      (sound : '\x00' ∉ written.toList) : Content (.text length)
  | longText {lengthArg : Option Nat} (length : Int32) (first : UInt32) :
      Content (.longText lengthArg)

namespace Leaf.Content

/-- The bytes of a leaf. A text is filled up with zeros. -/
def encode {kind : Leaf} : kind.Content → Bytes
  | .int number => Bytes.word 4 number.toBitVec.toNat
  | .long number => Bytes.word 8 number.toBitVec.toNat
  | .ulong number => Bytes.word 8 number.toNat
  | .char number => Bytes.word 1 number.toBitVec.toNat
  | .pointer handle => Bytes.word 8 handle.toNat
  | @text length written _ _ => Bytes.textSlot length written
  | .longText length first => Bytes.word 4 length.toBitVec.toNat ++ Bytes.word 4 first.toNat

theorem encode_length {kind : Leaf} (content : kind.Content) :
    content.encode.length = kind.width := by
  cases content with
  | text written fits sound => exact Bytes.textSlot_length fits
  | longText length first => rw [encode, List.length_append, Bytes.word_length, Bytes.word_length, width]
  | _ => exact Bytes.word_length _ _

def value (decoder : RecordDecoder) {kind : Leaf} : kind.Content → Value
  | .int number => .int number.toInt64
  | .long number => .int number
  | .ulong number => .uint number
  | .char number => .int number.toInt64
  | .pointer handle => .pointer handle
  | .text written _ _ => .text written
  | @longText lengthArg length first =>
    decoder.longText (RecordDecoder.framingOf lengthArg) length.toInt first.toNat

/-- The first chunk of a long text stands behind its length. -/
theorem encode_longText (front back : Bytes) (lengthArg : Option Nat) (length : Int32)
    (first : UInt32) :
    let data := front ++ ((@longText lengthArg length first).encode ++ back)
    data.signedAt front.length 4 = length.toInt ∧
      data.wordAt (front.length + 4) 4 = first.toNat := by
  have hlength := Bytes.signedAt_append front (Bytes.word 4 first.toNat ++ back) 4 length.toBitVec
  have hfirst := Bytes.wordAt_append (front ++ Bytes.word 4 length.toBitVec.toNat) back 4 first.toNat
  rw [List.length_append, Bytes.word_length, List.append_assoc] at hfirst
  have hmod : first.toNat % 256 ^ 4 = first.toNat := Nat.mod_eq_of_lt first.toNat_lt
  intro data
  have hdata : data = front ++
      (Bytes.word 4 length.toBitVec.toNat ++ (Bytes.word 4 first.toNat ++ back)) :=
    congrArg (front ++ ·) (List.append_assoc ..)
  rw [hdata, hlength, hfirst, hmod, Int32.toInt_toBitVec]
  exact ⟨rfl, rfl⟩

theorem leafAt_encode (decoder : RecordDecoder) (front back : Bytes) {kind : Leaf}
    (content : kind.Content) :
    decoder.leafAt (front ++ (content.encode ++ back)) front.length kind = content.value decoder := by
  cases content with
  | int number =>
    have hnumber := Bytes.signedAt_append front back 4 number.toBitVec
    rw [RecordDecoder.leafAt, encode, hnumber, value, Int32.toInt_toBitVec, Int64.ofInt_int32ToInt]
  | long number =>
    have hnumber := Bytes.signedAt_append front back 8 number.toBitVec
    rw [RecordDecoder.leafAt, encode, hnumber, value, Int64.toInt_toBitVec, Int64.ofInt_toInt]
  | ulong number =>
    have hnumber : number.toNat % 256 ^ 8 = number.toNat := Nat.mod_eq_of_lt number.toNat_lt
    rw [RecordDecoder.leafAt, encode, Bytes.wordAt_append, hnumber, value, UInt64.ofNat_toNat]
  | char number =>
    have hnumber := Bytes.signedAt_append front back 1 number.toBitVec
    rw [RecordDecoder.leafAt, encode, hnumber, value, Int8.toInt_toBitVec, Int64.ofInt_int8ToInt]
  | pointer handle =>
    have hhandle : handle.toNat % 256 ^ 8 = handle.toNat := Nat.mod_eq_of_lt handle.toNat_lt
    rw [RecordDecoder.leafAt, encode, Bytes.wordAt_append, hhandle, value, UInt64.ofNat_toNat]
  | text written fits sound =>
    rw [RecordDecoder.leafAt, encode, Bytes.textAt_append front back fits sound, value]
  | longText length first =>
    obtain ⟨hlength, hfirst⟩ := encode_longText front back _ length first
    rw [RecordDecoder.leafAt, hlength, hfirst, value]

end Leaf.Content

/-- A content for every leaf there can be. -/
abbrev Contents : Type :=
  (place : Place) → (kind : Leaf) → kind.Content

namespace Contents

variable (contents : Contents)

/-- The bytes of some leaves, in order. -/
def encode (leaves : List (Place × Leaf)) : Bytes :=
  leaves.flatMap fun leaf => (contents leaf.1 leaf.2).encode

theorem encode_length (leaves : List (Place × Leaf)) :
    (contents.encode leaves).length = widthOf leaves := by
  induction leaves with
  | nil => rfl
  | cons leaf rest ih =>
    rw [encode, List.flatMap_cons, List.length_append, ← encode, ih, Leaf.Content.encode_length]
    rfl

/-- A record with these contents, whatever is behind them. -/
def record (header : Bytes) (args : List Arg) (trailing : Bytes) : Bytes :=
  header ++ (contents.encode (Arg.leavesOf args) ++ trailing)

theorem size_le_record {header : Bytes} (hheader : header.length = headerSize) (args : List Arg)
    (trailing : Bytes) :
    (ofArgs args).size ≤ (contents.record header args trailing).length := by
  rw [ofArgs_size, record, List.length_append, List.length_append, encode_length, hheader]
  omega

theorem front_length {header : Bytes} (hheader : header.length = headerSize)
    (before : List (Place × Leaf)) :
    (header ++ contents.encode before).length = headerSize + widthOf before := by
  rw [List.length_append, hheader, encode_length]

variable {contents}

/-- What is written to a leaf stands behind the header and the leaves before it. -/
theorem record_split (header trailing : Bytes) {args : List Arg}
    {before after : List (Place × Leaf)} {leaf : Place × Leaf}
    (h : Arg.leavesOf args = before ++ leaf :: after) :
    contents.record header args trailing =
      (header ++ contents.encode before) ++
        ((contents leaf.1 leaf.2).encode ++ (contents.encode after ++ trailing)) := by
  rw [record, h, encode, List.flatMap_append, List.flatMap_cons]
  simp only [encode, List.append_assoc]

/-- The leaves of a record are what was written to them. -/
theorem decodeLeaf_record {decoder : RecordDecoder}
    (hnodup : (fieldsOf (Arg.leavesOf decoder.spec.args)).Nodup)
    {header trailing : Bytes} (hheader : header.length = headerSize) {leaf : Place × Leaf}
    (hleaf : leaf ∈ Arg.leavesOf decoder.spec.args) :
    decoder.decodeLeaf (contents.record header decoder.spec.args trailing) leaf.1 leaf.2 =
      .ok ((contents leaf.1 leaf.2).value decoder) := by
  obtain ⟨before, after, hleaves⟩ := List.append_of_mem hleaf
  rw [RecordDecoder.decodeLeaf_eq hnodup (contents.size_le_record hheader _ _) hleaves,
    record_split header trailing hleaves, ← contents.front_length hheader before,
    Leaf.Content.leafAt_encode]

end Contents
end ProbeTrace
