import ProbeTrace.Program.Code
import ProbeTrace.Program.Names

/-!
# Shape structures

A structure argument is read in one piece into a structure of the same shape.
Members that are structures themselves are declared first, so that every type
is complete where it is used.
-/

set_option autoImplicit false

namespace ProbeTrace.Program

open Code

/-- The type of a member that holds one value. A long text is never a member. -/
def shapeType : Leaf → CType
  | .int => .int
  | .long => .longLong
  | .ulong => .unsignedLongLong
  | .char => .char
  | .pointer => .u64
  | .text _ => .char
  | .longText _ => .u64

def shapeExtent : Leaf → Option Expr
  | .text length => some (.number length)
  | _ => none

def shapeMember (probe : String) : Arg → Member
  | .leaf place kind => ⟨shapeType kind, place.name, shapeExtent kind⟩
  | .struct place _ => ⟨.struct (Names.shape probe place), place.name, none⟩

mutual
/-- The structures for an argument, those of its members before its own. -/
def shapes (probe : String) : Arg → List StructDef
  | .leaf _ _ => []
  | .struct place members =>
    shapesOf probe members ++
      [⟨Names.shape probe place, members.map (shapeMember probe), false⟩]

def shapesOf (probe : String) : List Arg → List StructDef
  | [] => []
  | arg :: rest => shapes probe arg ++ shapesOf probe rest
end

/-- The structure with one member for each structure argument of the probe. -/
def structsDef (probe : String) (args : List Arg) : StructDef :=
  ⟨Names.structs probe,
    (args.filter Arg.isStruct).map fun arg =>
      ⟨.struct (Names.shape probe arg.place), arg.field, none⟩,
    false⟩

end ProbeTrace.Program
