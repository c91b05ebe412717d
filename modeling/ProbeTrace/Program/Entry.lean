import ProbeTrace.Program.CopyRoutine

/-!
# Entry functions

The function that runs when a probe fires: it takes a record from its scratch
map, fills the header and then one argument after the other, and sends the
record to the probe's channel. A sampled probe draws first.
-/

set_option autoImplicit false

namespace ProbeTrace.Program.Entry

open Code CopyRoutine

def out (field : String) : Expr := .arrow (var "out") field

/-- Copies text into a field of the record, up to the size of the field. -/
def readText (function field : String) (source : Expr) : Stmt :=
  .run (.call function [out field, .sizeOf (out field), source])

def fetchArg (index : Nat) : Stmt :=
  .run (.call "bpf_usdt_arg" [var "ctx", .number index, .addressOf (var "arg")])

def userPointer : Expr := .cast (.pointer (.constant .void)) (var "arg")

mutual
/-- Stores the members of a structure that has been read to `source`. -/
def memberStores (source : Expr) : Arg → List Stmt
  | .leaf place (.text _) =>
    [readText "bpf_probe_read_kernel_str" place.field (.dot source place.name)]
  | .leaf place _ => [.assign (out place.field) (.dot source place.name)]
  | .struct place members => memberStoresOf (.dot source place.name) members

def memberStoresOf (source : Expr) : List Arg → List Stmt
  | [] => []
  | arg :: rest => memberStores source arg ++ memberStoresOf source rest
end

/-- Moves a payload of `len` bytes at `src` and stores what became of it. -/
def copyPayload (probe field : String) : Stmt :=
  .assign (out (RecordLayout.lengthField field))
    (.call (Names.copyRoutine probe) [var "src", var "len", .addressOf (var "start")])

/-- Finds the length of a payload and moves it. -/
def payloadStores (probe field : String) : Option Nat → List Stmt
  | some index =>
    [fetchArg index, .assign (var "len") (.cast .s32 (var "arg")), copyPayload probe field]
  | none =>
    [.choose
      (.call "bpf_probe_read_user" [.addressOf (var "len"), .sizeOf (var "len"), var "src"])
      (.assign (out (RecordLayout.lengthField field)) (.name Names.badProbeRead))
      (copyPayload probe field)]

/-- Stores one top-level argument, which has been fetched. -/
def argStores (probe : String) : Arg → List Stmt
  | .leaf place kind =>
    match kind with
    | .int => [.assign (out place.field) (.cast .s32 (var "arg"))]
    | .long => [.assign (out place.field) (.cast .s64 (var "arg"))]
    | .ulong | .pointer => [.assign (out place.field) (.cast .u64 (var "arg"))]
    | .char => [.assign (out place.field) (.cast .s8 (var "arg"))]
    | .text _ => [readText "bpf_probe_read_user_str" place.field userPointer]
    | .longText lengthArg =>
      .assign (var "src") (.cast (.pointer (.constant .char)) (var "arg")) ::
        payloadStores probe place.field lengthArg ++
        [.assign (out (RecordLayout.indexField place.field)) (var "start")]
  | .struct place members =>
    .run (.call "bpf_probe_read_user"
      [.addressOf (.arrow (var "structs") place.field),
        .sizeOf (.arrow (var "structs") place.field), userPointer]) ::
      memberStoresOf (.arrow (var "structs") place.field) members

def argParagraph (probe : String) (index : Nat) (arg : Arg) : List Stmt :=
  fetchArg index :: argStores probe arg

def argParagraphs (probe : String) (index : Nat) : List Arg → List (List Stmt)
  | [] => []
  | arg :: rest => argParagraph probe index arg :: argParagraphs probe (index + 1) rest

def gate (probe : String) : List Stmt :=
  [.when (.binary .gt (.call "bpf_get_prandom_u32" []) (.name (Names.threshold probe)))
    (.give (.number 0))]

/-- Takes a scratch entry or gives up. -/
def takeScratch (name map : String) : List Stmt :=
  [.assign (var name) (lookup map "zero"), .when (.not (var name)) (.give (.number 0))]

def header : List Stmt :=
  [.assign (out "ns") (.call "bpf_ktime_get_ns" []),
    .assign (var "tgid_pid") (.call "bpf_get_current_pid_tgid" []),
    .assign (out "pid") (.binary .shiftRight (var "tgid_pid") (.number 32)),
    .assign (out "tid") (.cast .u32 (var "tgid_pid")),
    .run (.call "bpf_get_current_comm" [.addressOf (out "comm"), .sizeOf (out "comm")])]

def send (probe : String) : List Stmt :=
  [.run (.call "bpf_perf_event_output"
      [var "ctx", .addressOf (.name (Names.channel probe)), .name "BPF_F_CURRENT_CPU", var "out",
        .sizeOf (.deref (var "out"))]),
    .give (.number 0)]

def locals (probe : String) (hasStructs hasPayload : Bool) : List Locals :=
  [⟨.pointer (.struct (Names.output probe)), [("out", none)]⟩] ++
    (if hasStructs then [⟨.pointer (.struct (Names.structs probe)), [("structs", none)]⟩]
      else []) ++
    (if hasPayload then
      [⟨.pointer (.constant .char), [("src", none)]⟩, ⟨.s32, [("len", some (.number 0))]⟩,
        ⟨.u32, [("start", some (.number 0))]⟩]
      else []) ++
    [⟨.u64, [("tgid_pid", none)]⟩, ⟨.u32, [("zero", some (.number 0))]⟩,
      ⟨.long, [("arg", some (.number 0))]⟩]

def function (spec : ProbeSpec) (sampled : Bool) : Function :=
  let probe := spec.name
  let hasStructs := spec.args.any Arg.isStruct
  { attachment := some "usdt"
    result := .int
    name := Names.entry probe
    params := [(.pointer (.struct "pt_regs"), "ctx")]
    locals := locals probe hasStructs spec.longText?.isSome
    body :=
      (if sampled then [gate probe] else []) ++
        [takeScratch "out" (Names.scratch probe) ++
          (if hasStructs then takeScratch "structs" (Names.structScratch probe) else []),
        header] ++
        argParagraphs probe 0 spec.args ++ [send probe] }

end ProbeTrace.Program.Entry
