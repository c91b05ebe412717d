import ProbeTrace.Proofs.Record.Encoding
import ProbeTrace.Proofs.Record.Shape

/-!
# What decoding keeps

Hits name arguments by their paths, records by their fields. The checks on a
description keep fields apart, and names at top level, but not the names of the
members of a structure. Where such a name is declared twice, one value is lost.
-/

set_option autoImplicit false

namespace ProbeTrace.RecordDecoder

open RecordLayout

variable {decoder : RecordDecoder} {data : Bytes}

theorem hitAt_mirrors_iff (h : decoder.spec.Accepted) (cpu : Int)
    (hsize : decoder.layout.size ≤ data.length) :
    MirrorsAll (decoder.Decoded data) decoder.spec.args (decoder.hitAt data cpu).args ↔
      (Arg.pathsOf decoder.spec.args).Nodup := by
  have hargs := decodeArgs_eq h.fields_nodup hsize [] [] decoder.spec.args
    (List.append_nil _).symm []
  exact mirrorsAll_iff_of_members (mirrors_iff_of_mem decoder.spec.args) hargs

/-- A hit has the shape of the description exactly when no two arguments share a
path, and exactly then every value that was written to the record is found in it. -/
theorem decode_keeps_every_value_iff {decoder : RecordDecoder} (h : decoder.spec.Accepted)
    (cpu : Int) :
    (∀ data : Bytes, decoder.layout.size ≤ data.length →
      ∃ hit, decoder.decode cpu data = .ok hit ∧
        (MirrorsAll (decoder.Decoded data) decoder.spec.args hit.args ↔
          (Arg.pathsOf decoder.spec.args).Nodup)) ∧
    ∀ (contents : Contents) (header trailing : Bytes), header.length = headerSize →
      ∃ hit, decoder.decode cpu (contents.record header decoder.spec.args trailing) = .ok hit ∧
        (MirrorsAll (fun place kind value => value = (contents place kind).value decoder)
            decoder.spec.args hit.args ↔
          (Arg.pathsOf decoder.spec.args).Nodup) := by
  constructor
  · intro data hsize
    exact ⟨_, decode_eq_hitAt h cpu hsize, hitAt_mirrors_iff h cpu hsize⟩
  · intro contents header trailing hheader
    have hsize := contents.size_le_record hheader decoder.spec.args trailing
    refine ⟨_, decode_eq_hitAt h cpu hsize, ?_⟩
    rw [← hitAt_mirrors_iff h cpu hsize]
    -- What is decoded for a leaf is what was written for it, and nothing else.
    refine and_congr_right fun _ => mirrorsEach_congr _ (fun leaf hleaf value => ?_) _
    rw [Decoded, Contents.decodeLeaf_record h.fields_nodup hheader hleaf, Except.ok.injEq]
    exact eq_comm

/-- A seven in every number, and no text. -/
def sevens : Contents
  | _, .int => .int 7
  | _, .long => .long 7
  | _, .ulong => .ulong 7
  | _, .char => .char 7
  | _, .pointer => .pointer 7
  | _, .text length => .text "" (Nat.zero_le length) List.not_mem_nil
  | _, .longText _ => .longText 7 7

theorem decode_sevens :
    ∃ hit, decode ⟨nestedSpec, none, none⟩ 0
        (sevens.record (List.replicate 32 0) nestedSpec.args [1, 2]) = .ok hit ∧
      MirrorsAll (fun place kind value => value = (sevens place kind).value ⟨nestedSpec, none, none⟩)
        nestedSpec.args hit.args := by
  have haccepted : (⟨nestedSpec, none, none⟩ : RecordDecoder).spec.Accepted := nestedSpec_accepted
  obtain ⟨hit, hhit, hiff⟩ := (decode_keeps_every_value_iff haccepted 0).2 sevens
    (List.replicate 32 0) [1, 2] List.length_replicate
  exact ⟨hit, hhit, hiff.2 (by decide)⟩

/-- A structure that has a number and a structure of one name in it. -/
def shadowed : RecordDecoder where
  spec :=
    { name := "p"
      provider := none
      args := ArgDecl.placedFrom [] 0
        [.struct (some "s") [.leaf (some "a") .int, .struct (some "a") [.leaf (some "x") .int]]]
      tuning := Tuning.standard }
  chunks := none
  payload := none

/-- A record of it, with 1 for the number and 2 inside the inner structure. -/
def shadowedRecord : Bytes :=
  List.replicate 32 0 ++ [1, 0, 0, 0, 2, 0, 0, 0]

/-- The description is accepted, and the number is missing from its hits. -/
theorem decode_shadowed : shadowed.spec.Accepted ∧
    shadowed.layout.size ≤ shadowedRecord.length ∧
    ∃ hit, shadowed.decode 0 shadowedRecord = .ok hit ∧
      hit.args = [("s", .struct [("a", .struct [("x", .int 2)])])] ∧
      ¬ MirrorsAll (shadowed.Decoded shadowedRecord) shadowed.spec.args hit.args := by
  have haccepted : shadowed.spec.Accepted :=
    ⟨[.struct (some "s") [.leaf (some "a") .int, .struct (some "a") [.leaf (some "x") .int]]], rfl⟩
  have hsize : shadowed.layout.size ≤ shadowedRecord.length := by decide
  have hinner : shadowedRecord.signedAt 36 4 = 2 := by decide +kernel
  refine ⟨haccepted, hsize, _, decode_eq_hitAt haccepted 0 hsize, ?_, ?_⟩
  · change argsAt shadowed shadowedRecord 32 shadowed.spec.args [] = _
    simp [shadowed, ArgDecl.placedFrom, ArgDecl.placed, argsAt, argAt, leafAt, Keyed.insert,
      Keyed.update, Arg.name, Arg.place, Place.name, widthOf, Arg.leaves, Leaf.width, hinner]
  · rw [hitAt_mirrors_iff haccepted 0 hsize]
    decide

end ProbeTrace.RecordDecoder
