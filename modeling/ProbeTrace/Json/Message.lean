import ProbeTrace.Json.Fault
import ProbeTrace.Text.Quoted

/-!
# Wording of faults

A fault is told by its cause and the line and column where it was noticed.
Columns count bytes, so that the first byte of a line has been passed in column
one and an empty text ends in column zero.
-/

set_option autoImplicit false

namespace ProbeTrace.Json

def Found.text : Found → String
  | .null => "null"
  | .bool true => "boolean `true`"
  | .bool false => "boolean `false`"
  | .integer value => "integer `" ++ toString value ++ "`"
  | .fraction text => "floating point `" ++ text ++ "`"
  | .string value => "string " ++ Text.Quoted.encode value
  | .array => "sequence"
  | .object => "map"

def named (name : String) : String :=
  "`" ++ name ++ "`"

def choice : List String → String
  | [name] => named name
  | [a, b] => named a ++ " or " ++ named b
  | names => "one of " ++ ", ".intercalate (names.map named)

def Mismatch.message : Mismatch → String
  | .shape found expected => s!"invalid type: {found.text}, expected {expected}"
  | .range found expected => s!"invalid value: {found.text}, expected {expected}"
  | .count n expected => s!"invalid length {n}, expected {expected}"
  | .unknownKind name known => s!"unknown variant {named name}, expected {choice known}"
  | .unknownMember name known => s!"unknown field {named name}, expected {choice known}"
  | .missingMember name => s!"missing field {named name}"
  | .repeatedMember name => s!"duplicate field {named name}"

def Cause.message : Cause → String
  | .endInArray => "EOF while parsing a list"
  | .endInObject => "EOF while parsing an object"
  | .endInString => "EOF while parsing a string"
  | .endInValue => "EOF while parsing a value"
  | .expectedColon => "expected `:`"
  | .expectedCommaOrBracket => "expected `,` or `]`"
  | .expectedCommaOrBrace => "expected `,` or `\x7d`"
  | .expectedWord => "expected ident"
  | .expectedValue => "expected value"
  | .badEscape => "invalid escape"
  | .badNumber => "invalid number"
  | .numberOutOfRange => "number out of range"
  | .badText => "invalid unicode code point"
  | .controlCharacter => "control character (\\u0000-\\u001F) found while parsing a string"
  | .nameNotString => "key must be a string"
  | .loneSurrogate => "lone leading surrogate in hex escape"
  | .brokenSurrogate => "unexpected end of hex escape"
  | .trailingComma => "trailing comma"
  | .trailingCharacters => "trailing characters"
  | .tooDeep => "recursion limit exceeded"
  | .mismatch what => what.message

/-- Line and column after a number of bytes. -/
def position (passed : Bytes) : Nat × Nat :=
  (1 + passed.count 0x0A, (passed.reverse.takeWhile (· ≠ 0x0A)).length)

def Fault.message (fault : Fault) (data : Bytes) : String :=
  match fault.left with
  | none => fault.cause.message
  | some left =>
    let (line, column) := position (data.take (data.length - left))
    s!"{fault.cause.message} at line {line} column {column}"

end ProbeTrace.Json
