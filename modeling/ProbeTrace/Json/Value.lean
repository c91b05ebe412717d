/-!
# Documents

A document is a JSON value. Objects are lists of members: their order is part of
the document, and `settle` gives a repeated name its first place and last value.
Whole numbers and fractions are kept apart, as their texts are.
-/

set_option autoImplicit false

namespace ProbeTrace

inductive Json where
  | null
  | bool (value : Bool)
  | integer (value : Int)
  | fraction (value : Float)
  | string (value : String)
  | array (items : List Json)
  | object (members : List (String × Json))
  deriving Repr, Inhabited

namespace Json

/-- Gives a member its value: in its old place if there is one, else at the end. -/
def put (name : String) (value : Json) : List (String × Json) → List (String × Json)
  | [] => [(name, value)]
  | (key, old) :: rest =>
    if key = name then (key, value) :: rest else (key, old) :: put name value rest

/-- One member for each name, in order of first appearance, each with its last value. -/
def settle (members : List (String × Json)) : List (String × Json) :=
  members.foldl (fun done member => put member.1 member.2 done) []

end Json
end ProbeTrace
