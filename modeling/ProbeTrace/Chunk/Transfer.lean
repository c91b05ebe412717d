/-!
# Transfer faults

A payload that could not be moved is reported in place of its length, as one of
a few negative numbers. Lengths are never negative, so a report is either a
length or a fault, and a fault and its number determine each other.
-/

set_option autoImplicit false

namespace ProbeTrace

inductive TransferFault where
  | badChunkIndex
  | badProbeRead
  | lengthMismatch
  | unknown (code : Int)
  deriving DecidableEq, Repr

namespace TransferFault

def badChunkIndexCode : Int := -1
def badProbeReadCode : Int := -2
def lengthMismatchCode : Int := -3

/-- The fault a report stands for, none for a length. -/
def ofSentinel? (value : Int) : Option TransferFault :=
  if 0 ≤ value then none
  else if value = badChunkIndexCode then some .badChunkIndex
  else if value = badProbeReadCode then some .badProbeRead
  else if value = lengthMismatchCode then some .lengthMismatch
  else some (.unknown value)

def sentinel : TransferFault → Int
  | .badChunkIndex => badChunkIndexCode
  | .badProbeRead => badProbeReadCode
  | .lengthMismatch => lengthMismatchCode
  | .unknown code => code

def kind : TransferFault → String
  | .badChunkIndex => "BAD_CHUNK_IDX"
  | .badProbeRead => "BAD_PROBE_READ"
  | .lengthMismatch => "LENGTH_FAULT"
  | .unknown _ => "UNKNOWN_TRANSFER_ERROR"

def text (fault : TransferFault) : String :=
  fault.kind ++ " (" ++ toString fault.sentinel ++ ")"

theorem ofSentinel?_eq_none_iff (value : Int) : ofSentinel? value = none ↔ 0 ≤ value := by
  simp only [ofSentinel?]
  repeat' split
  all_goals simp_all

end TransferFault
end ProbeTrace
