import ProbeTrace.Text.Utf8
import ProbeTrace.Bson.Value

/-!
# Reading binary documents

A document states its length, holds tagged elements and ends in a zero byte.
Every length must fit, every text must be sound, and nothing may be left over.
Fuel bounds the elements and the nesting; a document's own length is enough.
-/

set_option autoImplicit false

namespace ProbeTrace.Bson

def split? (n : Nat) (data : Bytes) : Option (Bytes × Bytes) :=
  let part := data.take n
  if part.length < n then none else some (part, data.drop n)

/-- A length field: 32 bits, not negative. -/
def length? (data : Bytes) : Option (Nat × Bytes) := do
  let (word, rest) ← split? 4 data
  let n := Bytes.toNat word
  if n < Nat.pow 2 31 then some (n, rest) else none

/-- Text up to a zero byte. -/
def terminated? (data : Bytes) : Option (String × Bytes) := do
  let text := data.takeWhile (· ≠ 0)
  match data.drop text.length with
  | [] => none
  | _ :: rest => (Text.Utf8.decode? text).map fun text => (text, rest)

/-- Text behind its length; the length counts the zero byte at its end. -/
def counted? (data : Bytes) : Option (String × Bytes) := do
  let (n, rest) ← length? data
  let (text, rest) ← split? n rest
  if text.getLast? = some 0 then
    (Text.Utf8.decode? text.dropLast).map fun text => (text, rest)
  else none

/-- Binary data. The old generic subtype repeats its length inside. -/
def binary? (data : Bytes) : Option (Bson × Bytes) := do
  let (n, rest) ← length? data
  let (subtype, rest) ← split? 1 rest
  let (content, rest) ← split? n rest
  if subtype = [2] then
    let (word, inner) ← split? 4 content
    if Bytes.toNat word = inner.length then some (.binary 2 inner, rest) else none
  else some (.binary (subtype.headD 0) content, rest)

def bool? (data : Bytes) : Option (Bson × Bytes) :=
  match data with
  | 0 :: rest => some (.bool false, rest)
  | 1 :: rest => some (.bool true, rest)
  | _ => none

mutual
/-- The members of a document that takes up all of `data`. -/
def members? : Nat → Bytes → Option (List (String × Bson))
  | 0, _ => none
  | fuel + 1, data => do
    let (word, rest) ← split? 4 data
    if Bytes.toNat word = data.length ∧ rest.getLast? = some 0 then elements? fuel rest.dropLast
    else none

def elements? : Nat → Bytes → Option (List (String × Bson))
  | _, [] => some []
  | 0, _ => none
  | fuel + 1, tag :: rest => do
    let (name, rest) ← terminated? rest
    let (value, rest) ← value? fuel tag.toNat rest
    let more ← elements? fuel rest
    some ((name, value) :: more)

/-- The members of a document at the start of `data`. -/
def nested? : Nat → Bytes → Option (List (String × Bson) × Bytes)
  | 0, _ => none
  | fuel + 1, data => do
    let (n, _) ← length? data
    let (inner, rest) ← split? n data
    let members ← members? fuel inner
    some (members, rest)

/-- Code and its scope, behind the length of both. -/
def scoped? : Nat → Bytes → Option (Bson × Bytes)
  | 0, _ => none
  | fuel + 1, data => do
    let (n, _) ← length? data
    let (inner, rest) ← split? n data
    if n < 14 then none
    let (text, scope) ← counted? (inner.drop 4)
    let members ← members? fuel scope
    some (.codeWithScope text members, rest)

/-- The value of an element, by the tag in front of it. -/
def value? : Nat → Nat → Bytes → Option (Bson × Bytes)
  | 0, _, _ => none
  | fuel + 1, tag, data =>
    match tag with
    | 0x01 => (split? 8 data).map fun (w, rest) => (.double (UInt64.ofNat (Bytes.toNat w)), rest)
    | 0x02 => (counted? data).map fun (text, rest) => (.string text, rest)
    | 0x03 => (nested? fuel data).map fun (members, rest) => (.document members, rest)
    | 0x04 => (nested? fuel data).map fun (members, rest) => (.array (members.map Prod.snd), rest)
    | 0x05 => binary? data
    | 0x06 => some (.undefinedValue, data)
    | 0x07 => (split? 12 data).map fun (id, rest) => (.objectId id, rest)
    | 0x08 => bool? data
    | 0x09 => (split? 8 data).map fun (w, rest) => (.dateTime (Bytes.toInt w), rest)
    | 0x0A => some (.null, data)
    | 0x0B => do
      let (pattern, rest) ← terminated? data
      let (options, rest) ← terminated? rest
      some (.regularExpression pattern options, rest)
    | 0x0C => do
      let (collection, rest) ← counted? data
      let (id, rest) ← split? 12 rest
      some (.dbPointer collection id, rest)
    | 0x0D => (counted? data).map fun (text, rest) => (.code text, rest)
    | 0x0E => (counted? data).map fun (text, rest) => (.symbol text, rest)
    | 0x0F => scoped? fuel data
    | 0x10 => (split? 4 data).map fun (w, rest) => (.int32 (Bytes.toInt w), rest)
    | 0x11 => do
      let (increment, rest) ← split? 4 data
      let (time, rest) ← split? 4 rest
      some (.timestamp (Bytes.toNat time) (Bytes.toNat increment), rest)
    | 0x12 => (split? 8 data).map fun (w, rest) => (.int64 (Bytes.toInt w), rest)
    | 0x13 => (split? 16 data).map fun (w, rest) => (.decimal128 (Bytes.toNat w), rest)
    | 0x7F => some (.maxKey, data)
    | 0xFF => some (.minKey, data)
    | _ => none
end

def read? (data : Bytes) : Option Bson :=
  (members? (2 * data.length + 2) data).map Bson.document

end ProbeTrace.Bson
