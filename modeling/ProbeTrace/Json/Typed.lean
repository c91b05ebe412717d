import ProbeTrace.Json.Reader
import ProbeTrace.Decimal.Layout

/-!
# Readers for documents of a known shape

Readers that ask for a shape while they read, so that the first fault from the
left is found, be it one of form or of shape. A record is an object with known
members, or an array of its members in order. The second part reads the same
shapes from a document that was read before it was known what it should be.
-/

set_option autoImplicit false

namespace ProbeTrace.Json

def Found.of : Json → Found
  | .null => .null
  | .bool value => .bool value
  | .integer value => .integer value
  | .fraction value => .fraction (Decimal.Layout.document.text value)
  | .string value => .string value
  | .array _ => .array
  | .object _ => .object

/-- A whole number as the double nearest to it. -/
def wholeFloat (n : Int) : Float :=
  if n < 0 then -(UInt64.ofNat n.natAbs).toFloat else (UInt64.ofNat n.natAbs).toFloat

/-! ## From a document -/

/-- The document does not have the shape that was expected. -/
def refuse {α : Type} (expected : String) (document : Json) : Except Mismatch α :=
  .error (.shape (Found.of document) expected)

def toText : Json → Except Mismatch String
  | .string text => .ok text
  | other => refuse "a string" other

def toWhole (bound : Nat) (expected : String) : Json → Except Mismatch Nat
  | .integer n =>
    if 0 ≤ n ∧ n < bound then .ok n.toNat else .error (.range (.integer n) expected)
  | other => refuse expected other

def toFloat : Json → Except Mismatch Float
  | .integer n => .ok (wholeFloat n)
  | .fraction x => .ok x
  | other => refuse "f64" other

/-- Null stands for nothing. -/
def toOption {α : Type} (read : Json → Except Mismatch α) : Json → Except Mismatch (Option α)
  | .null => .ok none
  | other => some <$> read other

namespace Reader

/-! ## While reading -/

/-- A number, a string or a word; of an array or object nothing but its bracket is looked at. -/
def scalar (expected : String) : Reader Json := do
  match ← peekToken with
  | some 0x5B => mismatch (.shape .array expected)
  | some 0x7B => mismatch (.shape .object expected)
  | _ => value id 0

/-- Reads a scalar and takes it as something; it is refused at the place after it. -/
def taking {α : Type} (expected : String) (read : Json → Except Mismatch α) : Reader α :=
  placed do
    match read (← scalar expected) with
    | .ok a => return a
    | .error found => mismatch found

def text : Reader String :=
  taking "a string" toText

def word32 : Reader UInt32 :=
  UInt32.ofNat <$> taking "u32" (toWhole (Nat.pow 2 32) "u32")

def float : Reader Float :=
  taking "f64" toFloat

def optional {α : Type} (reader : Reader α) : Reader (Option α) := do
  match ← peekToken with
  | some 0x6E => advance; word [0x75, 0x6C, 0x6C]; return none
  | _ => some <$> reader

/-- Runs a reader for what is in an array and one for what is in an object. -/
def bracketed {α : Type} (expected : String) (inArray inObject : Option (Reader α)) : Reader α :=
  placed do
    match ← peekToken, inArray, inObject with
    | some 0x5B, some reader, _ => closedBy (advance *> reader) endArray
    | some 0x7B, _, some reader => closedBy (advance *> reader) endObject
    | _, _, _ =>
      let document ← scalar expected
      mismatch (.shape (Found.of document) expected)

def list {α : Type} (item : Reader α) : Reader (List α) :=
  bracketed "a sequence" (some do items item (← steps) true) none

/-! ## Records -/

/-- A member of a record: its name, whether it must be there, and how it is taken in. -/
structure Field (σ : Type) where
  name : String
  required : Bool
  take : σ → Reader σ

structure Record (σ : Type) where
  title : String
  blank : σ
  fields : List (Field σ)

namespace Record

variable {σ : Type}

def names (record : Record σ) : List String :=
  record.fields.map Field.name

/-- The members of an object. No name may be foreign or come twice, and none that
is required may be missing. -/
def members (record : Record σ) : Bytes → List String → σ → Reader σ
  | [], _, done => pure done
  | _ :: steps, seen, done => do
    if ← nextMember seen.isEmpty then
      let name ← memberName
      match record.fields.find? fun field => field.name = name with
      | none => mismatch (.unknownMember name record.names)
      | some field =>
        if name ∈ seen then mismatch (.repeatedMember name)
        colon
        members record steps (name :: seen) (← field.take done)
    else
      match record.fields.find? fun field => field.required && field.name ∉ seen with
      | some field => mismatch (.missingMember field.name)
      | none => return done

/-- The members of a record in order, after so many of them. -/
def positions (record : Record σ) : Nat → List (Field σ) → σ → Reader σ
  | _, [], done => pure done
  | n, field :: rest, done => do
    if ← nextItem (n = 0) then
      positions record (n + 1) rest (← field.take done)
    else
      mismatch (.count n s!"{record.title} with {record.fields.length} elements")

def reader (record : Record σ) : Reader σ :=
  bracketed record.title
    (some (positions record 0 record.fields record.blank))
    (some do members record (← steps) [] record.blank)

end Record

/-! ## Tagged values -/

/-- The members of an object, of which one is the tag. The others are kept as they are. -/
def taggedMembers {τ : Type} (key : String) (tag : Reader τ) (depth : Nat) :
    Bytes → Bool → Option τ → Reader (τ × List (String × Json))
  | [], _, _ => mismatch (.missingMember key)
  | _ :: steps, first, found => do
    if ← nextMember first then
      let name ← memberName
      if name = key then
        if found.isSome then mismatch (.repeatedMember key)
        colon
        taggedMembers key tag depth steps false (some (← tag))
      else
        colon
        let document ← value id depth
        let (tag, rest) ← taggedMembers key tag depth steps false found
        return (tag, (name, document) :: rest)
    else
      match found with
      | some tag => return (tag, [])
      | none => mismatch (.missingMember key)

/-- The items of an array, of which the first is the tag. -/
def taggedItems {τ : Type} (key : String) (tag : Reader τ) (depth : Nat) :
    Reader (τ × List Json) := do
  if ← nextItem true then
    let tag ← tag
    let rest ← items (value id depth) (← steps) false
    return (tag, rest)
  else mismatch (.missingMember key)

/-- A value that says of what kind it is. What it holds is a document of at most
`depth` levels, an array or an object like the value itself. -/
def tagged {τ : Type} (title key : String) (tag : Reader τ) (depth : Nat) : Reader (τ × Json) :=
  bracketed title
    (some do
      let (tag, rest) ← taggedItems key tag depth
      return (tag, .array rest))
    (some do
      let (tag, rest) ← taggedMembers key tag depth (← steps) true none
      return (tag, .object rest))

def run {α : Type} (reader : Reader α) (data : Bytes) : Except Fault α :=
  ((do let a ← reader; finish; return a : Reader α) data).1

end Reader
end ProbeTrace.Json
