import ProbeTrace.Json.Reader
import ProbeTrace.Bson.Reader

/-!
# Payloads

A long string carries a document. Its length comes either from another argument
or from a word in front of it; a binary document counts that word as its own
first field, a JSON text does not. Padding with zero bytes is no part of a text.
-/

set_option autoImplicit false

namespace ProbeTrace

/-- Where the length of a payload is found. -/
inductive Framing where
  | sized
  | prefixed
  deriving DecidableEq, Repr

/-- Reads a payload as a document, or refuses it. -/
abbrev PayloadDecoder := Bytes → Framing → Option Json

inductive PayloadFormat where
  | json
  | bson
  deriving DecidableEq, Repr

namespace Payload

def jsonBody? (payload : Bytes) : Framing → Option Bytes
  | .sized => some payload
  | .prefixed => if payload.length < 4 then none else some (payload.drop 4)

def json : PayloadDecoder := fun payload framing => do
  let body ← jsonBody? payload framing
  (Json.read body.withoutTrailingNuls).toOption

def bson : PayloadDecoder := fun payload _ =>
  (Bson.read? payload).map Bson.relaxed

end Payload

def PayloadFormat.decoder : PayloadFormat → PayloadDecoder
  | .json => Payload.json
  | .bson => Payload.bson

end ProbeTrace
