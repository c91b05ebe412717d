import ProbeTrace.Decimal.Layout

/-!
# Errors of probe descriptions

The ways in which the description of a probe can be wrong, and their wording.
-/

set_option autoImplicit false

namespace ProbeTrace

inductive SpecError where
  | multipleLongTexts (probe : String)
  | nestedLongText (probe field : String)
  | invalidName (name : String)
  | invalidSampling (probe : String) (fraction : Float)
  | invalidChunking (probe : String)
  | badLengthArg (probe field : String) (index : Nat)
  | duplicateField (probe field : String)
  | duplicateArg (probe arg : String)
  | emptyStruct (probe field : String)
  | zeroLengthText (probe field : String)
  | duplicateProbe (probe : String)
  deriving Repr

namespace SpecError

/-- A fraction is written out in full, a whole one without a point. -/
def fractionText (x : Float) : String :=
  Decimal.Layout.full.text x

def message : SpecError → String
  | .multipleLongTexts probe => s!"probe {probe} has more than one long string argument"
  | .nestedLongText probe field => s!"probe {probe}: struct {field} contains a long string"
  | .invalidName name => s!"'{name}' is not a valid C identifier"
  | .invalidSampling probe fraction =>
    s!"probe {probe}: sampling fraction {fractionText fraction} is outside (0, 1]"
  | .invalidChunking probe => s!"probe {probe}: chunk size and chunk count must be non-zero"
  | .badLengthArg probe field index =>
    s!"probe {probe}: long string {field} takes its length from argument {index}, " ++
      "which is not an integer argument"
  | .duplicateField probe field =>
    s!"probe {probe}: output field {field} is generated more than once"
  | .duplicateArg probe arg => s!"probe {probe}: argument {arg} is declared more than once"
  | .emptyStruct probe field => s!"probe {probe}: struct {field} has no fields"
  | .zeroLengthText probe field => s!"probe {probe}: string {field} has zero length"
  | .duplicateProbe probe => s!"probe {probe} is defined more than once"

end SpecError
end ProbeTrace
