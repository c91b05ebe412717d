import ProbeTrace.Bytes
import ProbeTrace.Text.Utf8

/-!
# Faults in documents

Why a text is refused as a document, and where. A text can be malformed, can end
early, or can be a document of another shape than the reader asked for; the
first fault from the left is the one reported.
-/

set_option autoImplicit false

namespace ProbeTrace.Json

/-- What a reader met where it expected something else. -/
inductive Found where
  | null
  | bool (value : Bool)
  | integer (value : Int)
  | fraction (text : String)
  | string (value : String)
  | array
  | object
  deriving DecidableEq, Repr

/-- A sound document whose shape is not the one asked for. -/
inductive Mismatch where
  | shape (found : Found) (expected : String)
  | range (found : Found) (expected : String)
  | count (n : Nat) (expected : String)
  | unknownKind (name : String) (known : List String)
  | unknownMember (name : String) (known : List String)
  | missingMember (name : String)
  | repeatedMember (name : String)
  deriving DecidableEq, Repr

inductive Cause where
  | endInArray
  | endInObject
  | endInString
  | endInValue
  | expectedColon
  | expectedCommaOrBracket
  | expectedCommaOrBrace
  | expectedWord
  | expectedValue
  | badEscape
  | badNumber
  | numberOutOfRange
  | badText
  | controlCharacter
  | nameNotString
  | loneSurrogate
  | brokenSurrogate
  | trailingComma
  | trailingCharacters
  | tooDeep
  | mismatch (mismatch : Mismatch)
  deriving DecidableEq, Repr

/-- The three classes of refusal: badly formed, ended early, or of another shape. -/
inductive Category where
  | malformed
  | truncated
  | mismatched
  deriving DecidableEq, Repr

def Cause.category : Cause → Category
  | .endInArray | .endInObject | .endInString | .endInValue => .truncated
  | .mismatch _ => .mismatched
  | _ => .malformed

/-- A cause, with the number of bytes after the place where it was noticed. A
mismatch gets its place from the reader that surrounds it. -/
structure Fault where
  cause : Cause
  left : Option Nat
  deriving DecidableEq, Repr

end ProbeTrace.Json
