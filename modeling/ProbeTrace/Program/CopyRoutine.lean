import ProbeTrace.Chunk.Transfer
import ProbeTrace.Program.Code
import ProbeTrace.Program.Names

/-!
# The copy routine

The function that moves a payload into the chunk ring. It reserves chunks by
moving a shared counter on and then copies in as many unrolled steps as the ring
has chunks, since the verifier accepts no loop. It gives back the length of the
payload or a fault, and leaves the first chunk behind a pointer.
-/

set_option autoImplicit false

namespace ProbeTrace.Program.CopyRoutine

open Code

def var (name : String) : Expr := .name name

def sizeConstant (probe : String) : Expr := .name (Names.chunkSize probe)

def countConstant (probe : String) : Expr := .name (Names.chunkCount probe)

def fail (fault : String) : Stmt := .give (.name fault)

def lookup (map : String) (key : String) : Expr :=
  .call "bpf_map_lookup_elem" [.addressOf (.name map), .addressOf (.name key)]

/-- Checks the length, reserves chunks and reports the first of them. -/
def reservation (probe : String) : List Stmt :=
  [.assign (.deref (var "start")) (.number 0),
    .when (.binary .lt (var "len") (.number 0)) (fail Names.lengthFault),
    .assign (var "needed")
      (.binary .div
        (.binary .sub (.binary .add (.cast .u32 (var "len")) (sizeConstant probe)) (.number 1))
        (sizeConstant probe)),
    .when (.binary .gt (var "needed") (countConstant probe)) (fail Names.lengthFault),
    .assign (var "next") (lookup (Names.nextChunk probe) "zero"),
    .when (.not (var "next")) (fail Names.badChunkIndex),
    .assign (var "first")
      (.binary .mod (.call "__sync_fetch_and_add" [var "next", var "needed"])
        (countConstant probe)),
    .assign (.deref (var "start")) (var "first")]

/-- The `i`-th step: copies one piece, or returns when nothing is left. -/
def step (probe : String) (i : Nat) : List Stmt :=
  [.when (.binary .le (var "remaining") (.number 0)) (.give (var "len")),
    .assign (var "idx")
      (.binary .mod (.binary .add (var "first") (.number i)) (countConstant probe)),
    .when (.binary .ge (var "idx") (countConstant probe)) (fail Names.badChunkIndex),
    .assign (var "chunk") (lookup (Names.chunkStore probe) "idx"),
    .when (.not (var "chunk")) (fail Names.badChunkIndex),
    .assign (var "step")
      (.choose (.binary .lt (var "remaining") (sizeConstant probe))
        (.cast .u32 (var "remaining")) (sizeConstant probe)),
    .when (.binary .gt (var "step") (sizeConstant probe)) (fail Names.lengthFault),
    .when
      (.call "bpf_probe_read_user"
        [.arrow (var "chunk") "data", var "step",
          .binary .add (var "src")
            (.binary .mul (.cast .u64 (.number i)) (sizeConstant probe))])
      (fail Names.badProbeRead),
    .decrease (var "remaining") (var "step")]

def final : List Stmt :=
  [.when (.binary .ne (var "remaining") (.number 0)) (fail Names.lengthFault),
    .give (var "len")]

def function (probe : String) (count : Nat) : Function where
  attachment := none
  result := .s32
  name := Names.copyRoutine probe
  params := [(.pointer (.constant .char), "src"), (.s32, "len"), (.pointer .u32, "start")]
  locals :=
    [⟨.pointer (.struct (Names.chunk probe)), [("chunk", none)]⟩,
      ⟨.u32, [("zero", some (.number 0)), ("needed", none), ("first", none), ("idx", none),
        ("step", none)]⟩,
      ⟨.pointer .u32, [("next", none)]⟩,
      ⟨.s32, [("remaining", some (var "len"))]⟩]
  body := reservation probe :: (List.range count).map (step probe) ++ [final]

/-- A map of one kind with so many entries of a type. -/
def arrayMap (name kind : String) (entries : Expr) (value : CType) : MapDef :=
  ⟨name,
    [.number "type" (.name kind), .number "max_entries" entries, .type "key" .u32,
      .type "value" value]⟩

/-- The ring itself: its constants, the chunk type, the chunks and the counter. -/
def store (probe : String) (size count : Nat) : List Item :=
  [.defines [(Names.chunkSize probe, .plain size), (Names.chunkCount probe, .plain count)],
    .struct ⟨Names.chunk probe, [⟨.char, "data", some (sizeConstant probe)⟩], false⟩,
    .map (arrayMap (Names.chunkStore probe) "BPF_MAP_TYPE_ARRAY" (countConstant probe)
      (.struct (Names.chunk probe))),
    .map (arrayMap (Names.nextChunk probe) "BPF_MAP_TYPE_ARRAY" (.number 1) .u32)]

end ProbeTrace.Program.CopyRoutine
