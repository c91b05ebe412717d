import ProbeTrace.Bytes
import ProbeTrace.Text.Base64
import ProbeTrace.Text.Hex
import ProbeTrace.Json.Value
import ProbeTrace.Bson.Calendar
import ProbeTrace.Bson.Decimal128

/-!
# Binary documents

The values of a BSON document and their forms as JSON: what JSON has is written
as itself, everything else as an object with one marked member. The scope of code
is written in a plainer form: plain bytes are an array of numbers there, every
instant is a number, and a number that JSON does not have is null.
-/

set_option autoImplicit false

namespace ProbeTrace

inductive Bson where
  | double (bits : UInt64)
  | string (text : String)
  | document (members : List (String × Bson))
  | array (items : List Bson)
  | binary (subtype : UInt8) (data : Bytes)
  | undefinedValue
  | objectId (id : Bytes)
  | bool (value : Bool)
  | dateTime (milliseconds : Int)
  | null
  | regularExpression (pattern options : String)
  | dbPointer (collection : String) (id : Bytes)
  | code (text : String)
  | symbol (text : String)
  | codeWithScope (text : String) (scope : List (String × Bson))
  | int32 (value : Int)
  | timestamp (time increment : Nat)
  | int64 (value : Int)
  | decimal128 (pattern : Nat)
  | minKey
  | maxKey

namespace Bson

/-- The form of a value in a document at large, and in the scope of code. -/
inductive Form where
  | relaxed
  | scoped
  deriving DecidableEq, Repr

def marked (name : String) (value : Json) : Json :=
  .object [(name, value)]

/-- A finite double is a JSON number; the others are named, with their sign. -/
def doubleJson (form : Form) (bits : UInt64) : Json :=
  let sign := if bits.toNat < Nat.pow 2 63 then "" else "-"
  let named := fun name : String =>
    match form with
    | .relaxed => marked "$numberDouble" (.string (sign ++ name))
    | .scoped => .null
  match Decimal.Binary.ofBits bits with
  | .finite _ _ => .fraction (Float.ofBits bits)
  | .infinite _ => named "Infinity"
  | .undefined => named "NaN"

/-- An instant within the years 1970 to 9999 is a text at large, any other a number. -/
def dateJson (form : Form) (milliseconds : Int) : Json :=
  marked "$date"
    (if form = .relaxed ∧ 0 ≤ milliseconds ∧ milliseconds ≤ Calendar.lastInstant then
      .string (Calendar.instant milliseconds.toNat)
    else marked "$numberLong" (.string (toString milliseconds)))

/-- The subtype of bytes without a meaning of their own. -/
def plainSubtype : UInt8 := 0

def binaryJson (form : Form) (subtype : UInt8) (data : Bytes) : Json :=
  if form = .scoped ∧ subtype = plainSubtype then
    .array (data.map fun b => .integer b.toNat)
  else
    marked "$binary" (.object
      [("base64", .string (String.ofList (Text.Base64.encode data))),
        ("subType", .string (Text.Hex.ofBytes [subtype]))])

def objectIdJson (id : Bytes) : Json :=
  marked "$oid" (.string (Text.Hex.ofBytes id))

def ordered (text : String) : String :=
  String.ofList (text.toList.mergeSort fun a b => decide (a ≤ b))

mutual
/-- A value in one of the forms. A repeated member keeps its first place and last value. -/
def json (form : Form) : Bson → Json
  | .double bits => doubleJson form bits
  | .string text => .string text
  | .document members => .object (Json.settle (jsonMembers form members))
  | .array items => .array (jsonItems form items)
  | .binary subtype data => binaryJson form subtype data
  | .undefinedValue => marked "$undefined" (.bool true)
  | .objectId id => objectIdJson id
  | .bool value => .bool value
  | .dateTime milliseconds => dateJson form milliseconds
  | .null => .null
  | .regularExpression pattern options =>
    marked "$regularExpression" (.object
      [("pattern", .string pattern), ("options", .string (ordered options))])
  | .dbPointer collection id =>
    marked "$dbPointer" (.object [("$ref", .string collection), ("$id", objectIdJson id)])
  | .code text => marked "$code" (.string text)
  | .symbol text => marked "$symbol" (.string text)
  | .codeWithScope text scope =>
    .object [("$code", .string text),
      ("$scope", .object (Json.settle (jsonMembers .scoped scope)))]
  | .int32 value => .integer value
  | .timestamp time increment =>
    marked "$timestamp" (.object [("t", .integer time), ("i", .integer increment)])
  | .int64 value => .integer value
  | .decimal128 pattern =>
    marked "$numberDecimal" (.string (Decimal128.ofPattern pattern).text)
  | .minKey => marked "$minKey" (.integer 1)
  | .maxKey => marked "$maxKey" (.integer 1)

def jsonItems (form : Form) : List Bson → List Json
  | [] => []
  | item :: rest => json form item :: jsonItems form rest

def jsonMembers (form : Form) : List (String × Bson) → List (String × Json)
  | [] => []
  | (name, value) :: rest => (name, json form value) :: jsonMembers form rest
end

def relaxed (value : Bson) : Json :=
  value.json .relaxed

end Bson
end ProbeTrace
