import ProbeTrace.Json.Value
import ProbeTrace.Json.Fault

/-!
# Reading documents

Strict readers over the bytes of a document. A reader keeps its place when it
fails, because the place is part of the report. Loops are bounded by the bytes
that are left, which are handed on as the steps that may still be taken, and
nesting by the levels that are allowed. A number is a whole number if it is
written as one and fits in a 64-bit word, and a fraction else.
-/

set_option autoImplicit false

namespace ProbeTrace.Json

abbrev Reader := ExceptT Fault (StateM Bytes)

namespace Reader

/-- Nesting levels a document may have. -/
def maxDepth : Nat := 127

/-- Fails at the place reached so far. -/
def failHere {α : Type} (cause : Cause) : Reader α := do
  let rest ← get
  throw ⟨cause, some rest.length⟩

/-- Fails at the byte that comes next. -/
def failAhead {α : Type} (cause : Cause) : Reader α := do
  let rest ← get
  throw ⟨cause, some (rest.length - 1)⟩

def mismatch {α : Type} (found : Mismatch) : Reader α :=
  throw ⟨.mismatch found, none⟩

/-- Gives a mismatch without a place the place reached so far. -/
def placed {α : Type} (reader : Reader α) : Reader α := fun data =>
  match reader data with
  | (.error fault, rest) => (.error ⟨fault.cause, fault.left.or (some rest.length)⟩, rest)
  | done => done

/-- Runs the closing reader whether or not the body fails; the body's fault comes first. -/
def closedBy {α : Type} (body : Reader α) (close : Reader Unit) : Reader α := fun data =>
  let (result, middle) := body data
  let (closing, rest) := close middle
  match result, closing with
  | .ok a, .ok () => (.ok a, rest)
  | .error fault, _ => (.error fault, rest)
  | .ok _, .error fault => (.error fault, rest)

def isBlank (b : UInt8) : Bool :=
  b = 0x20 || b = 0x0A || b = 0x09 || b = 0x0D

def isDigit (b : UInt8) : Bool :=
  0x30 ≤ b && b ≤ 0x39

def peek : Reader (Option UInt8) := do
  return (← get).head?

def advance : Reader Unit :=
  modify (List.drop 1)

/-- The next byte that is not blank, left unread. -/
def peekToken : Reader (Option UInt8) := do
  modify (List.dropWhile isBlank)
  peek

/-- A step for each byte that is left and one more. -/
def steps : Reader Bytes := do
  return 0 :: (← get)

/-- Reads the rest of a word whose first letter is taken. -/
def word : Bytes → Reader Unit
  | [] => pure ()
  | expected :: more => do
    match ← peek with
    | none => failHere .endInValue
    | some b =>
      advance
      if b = expected then word more else failHere .expectedWord

/-! ## Numbers -/

def digitOf (b : UInt8) : Nat :=
  b.toNat - 0x30

/-- Takes digits into a significand for as long as it fits in a 64-bit word. -/
def absorb (significand : Nat) : Bytes → Nat × Nat
  | [] => (significand, 0)
  | b :: rest =>
    if 10 * significand + digitOf b < Nat.pow 2 64 then
      let (total, taken) := absorb (10 * significand + digitOf b) rest
      (total, taken + 1)
    else (significand, 0)

/-- A significand times a power of ten, in one multiplication or division by a
double for each 308 places; none when it leaves the range of doubles. -/
def scaled : Nat → Float → Int → Option Float
  | 0, x, _ => some x
  | steps + 1, x, exponent =>
    if exponent.natAbs ≤ 308 then
      let power := Float.ofScientific 1 false exponent.natAbs
      if 0 ≤ exponent then
        let product := x * power
        if product.isInf then none else some product
      else some (x / power)
    else if x == 0.0 then some x
    else if 0 ≤ exponent then none
    else scaled steps (x / Float.ofScientific 1 false 308) (exponent + 308)

def fraction (negative : Bool) (significand : Nat) (exponent : Int) : Reader Json :=
  match scaled 4 (UInt64.ofNat significand).toFloat exponent with
  | some x => pure (.fraction (if negative then -x else x))
  | none => failHere .numberOutOfRange

/-- A number without point and exponent: minus zero is a fraction. -/
def whole (negative : Bool) (significand : Nat) : Json :=
  if negative then
    if significand = 0 ∨ Nat.pow 2 63 < significand then
      .fraction (-(UInt64.ofNat significand).toFloat)
    else .integer (-significand)
  else .integer significand

def takeDigits : Reader Bytes := do
  let digits := (← get).takeWhile isDigit
  modify (List.drop digits.length)
  return digits

/-- The greatest exponent that is told from a boundless one. -/
def exponentLimit : Nat := Nat.pow 2 31 - 1

/-- Takes the digits of an exponent; none when they go beyond the limit, and then what
is behind the first digit too many is left. -/
def exponentDigits (total : Nat) : Bytes → Option Nat × Bytes
  | [] => (some total, [])
  | b :: rest =>
    if isDigit b then
      let next := 10 * total + digitOf b
      if exponentLimit < next then (none, rest) else exponentDigits next rest
    else (some total, b :: rest)

/-- A significand with the exponent that is written behind its mark. An exponent beyond
the limit makes the number zero, or puts it out of range at once. -/
def withExponent (negative : Bool) (significand : Nat) (exponent : Int) : Reader Json := do
  advance
  let sign ← peek
  let isNegative := sign = some 0x2D
  if isNegative || sign = some 0x2B then advance
  match ← peek with
  | none => failHere .endInValue
  | some b =>
    if !isDigit b then
      advance
      failHere .badNumber
    let (total, rest) := exponentDigits 0 (← get)
    set rest
    match total with
    | some n =>
      fraction negative significand (exponent + if isNegative then -(n : Int) else n)
    | none =>
      if significand ≠ 0 && !isNegative then failHere .numberOutOfRange
      let _ ← takeDigits
      return .fraction (if negative then -0.0 else 0.0)

def number (negative : Bool) : Reader Json := do
  match ← peek with
  | none => failHere .endInValue
  | some first =>
    if !isDigit first then
      advance
      failHere .badNumber
    let digits ← if first = 0x30 then advance *> pure [first] else takeDigits
    if first = 0x30 && ((← peek).any isDigit) then
      failAhead .badNumber
    let (significand, taken) := absorb 0 digits
    let dropped : Int := digits.length - taken
    match ← peek with
    | some 0x2E =>
      advance
      let places ← takeDigits
      if places.isEmpty then
        match ← peek with
        | none => failHere .endInValue
        | some _ => failAhead .badNumber
      let (significand, taken) := absorb significand places
      let exponent : Int := dropped - taken
      match ← peek with
      | some 0x65 | some 0x45 => withExponent negative significand exponent
      | _ => fraction negative significand exponent
    | some 0x65 | some 0x45 => withExponent negative significand dropped
    | _ =>
      if dropped = 0 then return whole negative significand
      else fraction negative significand dropped

/-! ## Strings -/

def hexValue? (b : UInt8) : Option Nat :=
  if isDigit b then some (b.toNat - 0x30)
  else if 0x61 ≤ b && b ≤ 0x66 then some (b.toNat - 0x61 + 10)
  else if 0x41 ≤ b && b ≤ 0x46 then some (b.toNat - 0x41 + 10)
  else none

def hexQuad : Reader Nat := do
  match ← get with
  | a :: b :: c :: d :: rest =>
    set rest
    match hexValue? a, hexValue? b, hexValue? c, hexValue? d with
    | some a, some b, some c, some d => return ((16 * a + b) * 16 + c) * 16 + d
    | _, _, _, _ => failHere .badEscape
  | _ =>
    set ([] : Bytes)
    failHere .endInString

def pairByte (expected : UInt8) : Reader Unit := do
  match ← peek with
  | none => failHere .endInString
  | some b =>
    advance
    if b ≠ expected then failHere .brokenSurrogate

/-- The character of a numeric escape, which may take two of them. -/
def escapedScalar : Reader Char := do
  let first ← hexQuad
  if 0xDC00 ≤ first && first ≤ 0xDFFF then failHere .loneSurrogate
  if 0xD800 ≤ first && first ≤ 0xDBFF then
    pairByte 0x5C
    pairByte 0x75
    let second ← hexQuad
    if second < 0xDC00 || 0xDFFF < second then failHere .loneSurrogate
    return Char.ofNat (0x10000 + (first - 0xD800) * 0x400 + (second - 0xDC00))
  return Char.ofNat first

def escaped : Reader Bytes := do
  match ← peek with
  | none => failHere .endInString
  | some b =>
    advance
    if b = 0x22 || b = 0x5C || b = 0x2F then return [b]
    else if b = 0x62 then return [0x08]
    else if b = 0x66 then return [0x0C]
    else if b = 0x6E then return [0x0A]
    else if b = 0x72 then return [0x0D]
    else if b = 0x74 then return [0x09]
    else if b = 0x75 then return String.utf8EncodeChar (← escapedScalar)
    else failHere .badEscape

/-- The bytes of a string up to its closing quote, given in reverse what is read already. -/
def stringBytes : Bytes → Bytes → Reader Bytes
  | [], _ => failHere .endInString
  | _ :: steps, done => do
    match ← peek with
    | none => failHere .endInString
    | some b =>
      advance
      if b = 0x22 then return done.reverse
      else if b = 0x5C then
        let more ← escaped
        stringBytes steps (more.reverse ++ done)
      else if b < 0x20 then failHere .controlCharacter
      else stringBytes steps (b :: done)

def stringBody : Reader String := do
  let data ← stringBytes (← steps) []
  match Text.Utf8.decode? data with
  | some text => return text
  | none => failHere .badText

/-! ## Arrays and objects -/

/-- Whether another item follows; takes the comma before it. -/
def nextItem (first : Bool) : Reader Bool := do
  match ← peekToken with
  | none => failHere .endInArray
  | some 0x5D => return false
  | some b =>
    if first then return true
    else if b = 0x2C then
      advance
      match ← peekToken with
      | none => failHere .endInValue
      | some 0x5D => failAhead .trailingComma
      | some _ => return true
    else failAhead .expectedCommaOrBracket

/-- Whether another member follows; takes the comma before it and stops at its name. -/
def nextMember (first : Bool) : Reader Bool := do
  match ← peekToken with
  | none => failHere .endInObject
  | some 0x7D => return false
  | some b =>
    if first then
      if b = 0x22 then return true else failAhead .nameNotString
    else if b = 0x2C then
      advance
      match ← peekToken with
      | none => failHere .endInValue
      | some 0x22 => return true
      | some 0x7D => failAhead .trailingComma
      | some _ => failAhead .nameNotString
    else failAhead .expectedCommaOrBrace

def memberName : Reader String := do
  advance
  stringBody

def colon : Reader Unit := do
  match ← peekToken with
  | none => failHere .endInObject
  | some 0x3A => advance
  | some _ => failAhead .expectedColon

/-- Items up to the end of the array, as many as there are steps for. -/
def items {α : Type} (item : Reader α) : Bytes → Bool → Reader (List α)
  | [], _ => pure []
  | _ :: steps, first => do
    if ← nextItem first then
      let a ← item
      let rest ← items item steps false
      return a :: rest
    else return []

def members {α : Type} (value : Reader α) : Bytes → Bool → Reader (List (String × α))
  | [], _ => pure []
  | _ :: steps, first => do
    if ← nextMember first then
      let name ← memberName
      colon
      let a ← value
      let rest ← members value steps false
      return (name, a) :: rest
    else return []

def endArray : Reader Unit := do
  match ← peekToken with
  | none => failHere .endInArray
  | some 0x5D => advance
  | some 0x2C =>
    advance
    match ← peekToken with
    | some 0x5D => failAhead .trailingComma
    | _ => failAhead .trailingCharacters
  | some _ => failAhead .trailingCharacters

def endObject : Reader Unit := do
  match ← peekToken with
  | none => failHere .endInObject
  | some 0x7D => advance
  | some 0x2C => failAhead .trailingComma
  | some _ => failAhead .trailingCharacters

/-- Any document of at most `depth` levels. Members are handed to `assemble`. -/
def value (assemble : List (String × Json) → List (String × Json)) (depth : Nat) : Reader Json := do
  match ← peekToken with
  | none => failHere .endInValue
  | some 0x6E => advance; word [0x75, 0x6C, 0x6C]; return .null
  | some 0x74 => advance; word [0x72, 0x75, 0x65]; return .bool true
  | some 0x66 => advance; word [0x61, 0x6C, 0x73, 0x65]; return .bool false
  | some 0x2D => advance; number true
  | some 0x22 => advance; return .string (← stringBody)
  | some 0x5B =>
    match depth with
    | 0 => failAhead .tooDeep
    | depth + 1 =>
      advance
      .array <$> closedBy (items (value assemble depth) (← steps) true) endArray
  | some 0x7B =>
    match depth with
    | 0 => failAhead .tooDeep
    | depth + 1 =>
      advance
      (fun list => .object (assemble list)) <$>
        closedBy (members (value assemble depth) (← steps) true) endObject
  | some b => if isDigit b then number false else failAhead .expectedValue

/-- Nothing but blanks may follow a document. -/
def finish : Reader Unit := do
  match ← peekToken with
  | none => pure ()
  | some _ => failAhead .trailingCharacters

def document : Reader Json := do
  let doc ← value settle maxDepth
  finish
  return doc

end Reader

def read (data : Bytes) : Except Fault Json :=
  (Reader.document data).1

end ProbeTrace.Json
