import ProbeTrace.Bytes
import ProbeTrace.Keyed
import ProbeTrace.Chunk.Transfer
import ProbeTrace.Json.Value

/-!
# Hits

One firing of a probe: who fired it, when, and the decoded arguments by name.
Members of a structure are values by name again; both are kept in the order of
their names.
-/

set_option autoImplicit false

namespace ProbeTrace

/-- A decoded argument. A long string is a document if its decoder takes it, raw
bytes if there is no decoder, and the fault that kept it from arriving else. -/
inductive Value where
  | int (value : Int64)
  | uint (value : UInt64)
  | pointer (value : UInt64)
  | text (value : String)
  | bytes (data : Bytes)
  | document (document : Json)
  | malformed (data : Bytes)
  | struct (members : List (String × Value))
  | transfer (fault : TransferFault)
  deriving Inhabited

namespace Value

/-- The value as a signed number; unsigned ones are read modulo `2 ^ 64`. -/
def asInt64? : Value → Option Int64
  | .int value => some value
  | .uint value | .pointer value => some value.toInt64
  | _ => none

def asUInt64? : Value → Option UInt64
  | .int value => some value.toUInt64
  | .uint value | .pointer value => some value
  | _ => none

mutual
def transferFaults : Value → List TransferFault
  | .transfer fault => [fault]
  | .struct members => memberFaults members
  | _ => []

/-- The transfer faults among named values, those inside structures included. -/
def memberFaults : List (String × Value) → List TransferFault
  | [] => []
  | (_, value) :: rest => transferFaults value ++ memberFaults rest
end

def kind : Value → String
  | .int _ => "int"
  | .uint _ => "u_int"
  | .pointer _ => "pointer"
  | .text _ => "str"
  | .bytes _ => "bytes"
  | .document _ => "document"
  | .malformed _ => "malformed"
  | .struct _ => "struct"
  | .transfer _ => "transfer"

end Value

structure Hit where
  probe : String
  pid : Nat
  tid : Nat
  comm : String
  /-- Time of the firing in nanoseconds. -/
  ns : Nat
  cpu : Int
  /-- Size of the raw record in bytes. -/
  size : Nat
  args : Keyed String Value
  deriving Inhabited

namespace Hit

def arg? (hit : Hit) (name : String) : Option Value :=
  Keyed.get? name hit.args

def argInt64? (hit : Hit) (name : String) : Option Int64 :=
  (hit.arg? name).bind Value.asInt64?

def transferFaults (hit : Hit) : List TransferFault :=
  Value.memberFaults hit.args

/-- The hit without its arguments, on one line. -/
def headline (hit : Hit) : String :=
  " | ".intercalate
    [hit.probe, hit.comm, toString hit.pid, toString hit.tid, toString hit.ns,
      toString hit.cpu, toString hit.size]

end Hit
end ProbeTrace
