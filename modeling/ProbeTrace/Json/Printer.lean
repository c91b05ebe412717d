import ProbeTrace.Decimal.Layout
import ProbeTrace.Json.Value
import ProbeTrace.Text.Hex

/-!
# Printing documents

Two layouts: everything on one line, or one member or item a line with two
spaces for each level. Strings escape quotes, backslashes and control characters
and nothing else.
-/

set_option autoImplicit false

namespace ProbeTrace.Json

def escape (c : Char) : List Char :=
  if c = '"' then ['\\', '"']
  else if c = '\\' then ['\\', '\\']
  else if c = '\x08' then ['\\', 'b']
  else if c = '\x0c' then ['\\', 'f']
  else if c = '\n' then ['\\', 'n']
  else if c = '\r' then ['\\', 'r']
  else if c = '\t' then ['\\', 't']
  else if c.toNat < 0x20 then ['\\', 'u', '0', '0'] ++ Text.Hex.pair (UInt8.ofNat c.toNat)
  else [c]

def quoted (text : String) : String :=
  String.ofList ('"' :: text.toList.flatMap escape ++ ['"'])

/-- A fraction is written with its shortest digits; it is never infinite. -/
def fractionText (x : Float) : String :=
  Decimal.Layout.document.text x

mutual
def compactParts : Json → List String
  | .null => ["null"]
  | .bool value => [if value then "true" else "false"]
  | .integer value => [toString value]
  | .fraction value => [fractionText value]
  | .string value => [quoted value]
  | .array items => "[" :: (compactItems items ++ ["]"])
  | .object members => "\x7b" :: (compactMembers members ++ ["\x7d"])

def compactItems : List Json → List String
  | [] => []
  | [item] => compactParts item
  | item :: rest => compactParts item ++ "," :: compactItems rest

def compactMembers : List (String × Json) → List String
  | [] => []
  | [(name, value)] => quoted name :: ":" :: compactParts value
  | (name, value) :: rest =>
    quoted name :: ":" :: (compactParts value ++ "," :: compactMembers rest)
end

def compact (document : Json) : String :=
  String.join (compactParts document)

def newLine (level : Nat) : String :=
  String.ofList ('\n' :: List.replicate (2 * level) ' ')

mutual
/-- The pieces of the document with one member or item a line, `level` levels in. -/
def indentedParts (level : Nat) : Json → List String
  | .null => ["null"]
  | .bool value => [if value then "true" else "false"]
  | .integer value => [toString value]
  | .fraction value => [fractionText value]
  | .string value => [quoted value]
  | .array [] => ["[]"]
  | .array (item :: rest) =>
    "[" :: (indentedItems (level + 1) (item :: rest) ++ [newLine level, "]"])
  | .object [] => ["\x7b\x7d"]
  | .object (member :: rest) =>
    "\x7b" :: (indentedMembers (level + 1) (member :: rest) ++ [newLine level, "\x7d"])

def indentedItems (level : Nat) : List Json → List String
  | [] => []
  | [item] => newLine level :: indentedParts level item
  | item :: rest =>
    newLine level :: (indentedParts level item ++ "," :: indentedItems level rest)

def indentedMembers (level : Nat) : List (String × Json) → List String
  | [] => []
  | [(name, value)] => newLine level :: quoted name :: ": " :: indentedParts level value
  | (name, value) :: rest =>
    newLine level :: quoted name :: ": " ::
      (indentedParts level value ++ "," :: indentedMembers level rest)
end

def pretty (document : Json) : String :=
  String.join (indentedParts 0 document)

end ProbeTrace.Json
