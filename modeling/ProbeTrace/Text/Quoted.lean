import ProbeTrace.Text.Hex
import ProbeTrace.Text.Combining
import ProbeTrace.Text.Unprintable

/-!
# Quoted text

Text between quotes in which every character can be seen. What has no shape of
its own, or would attach to its neighbour, is written as its code point.
-/

set_option autoImplicit false

namespace ProbeTrace.Text.Quoted

/-- A character by its code point, in lower-case hexadecimal digits. -/
def codePoint (c : Char) : String :=
  "\\u\x7b" ++ Hex.ofNat c.toNat ++ "\x7d"

def isPlain (c : Char) : Bool :=
  (' ' ≤ c && c ≤ '~') || !(combining.covers c.toNat || unprintable.covers c.toNat)

def encodeChar (c : Char) : String :=
  if c = '"' then "\\\""
  else if c = '\\' then "\\\\"
  else if c = '\n' then "\\n"
  else if c = '\r' then "\\r"
  else if c = '\t' then "\\t"
  else if c = '\x00' then "\\0"
  else if isPlain c then String.singleton c
  else codePoint c

def encode (text : String) : String :=
  "\"" ++ String.join (text.toList.map encodeChar) ++ "\""

end ProbeTrace.Text.Quoted
