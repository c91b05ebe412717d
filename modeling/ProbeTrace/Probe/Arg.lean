/-!
# Arguments of probes

A probe declares a list of arguments; structures nest. Placing the declarations
gives every argument its index among its siblings and those of the structures
around it. Two names follow: the effective name, by which siblings are told
apart, and the field name, by which all arguments of a probe are.
-/

set_option autoImplicit false

namespace ProbeTrace

/-- The kinds of arguments that hold one value. -/
inductive Leaf where
  /-- A signed number of 32 bits. -/
  | int
  /-- A signed number of 64 bits. -/
  | long
  /-- A number of 64 bits. -/
  | ulong
  /-- A single byte. -/
  | char
  /-- A handle, recorded and never followed. -/
  | pointer
  /-- Text in a slot of fixed size. -/
  | text (length : Nat)
  /-- A payload that travels in chunks. Its length is another argument, or a
  word in front of the payload. -/
  | longText (lengthArg : Option Nat)
  deriving DecidableEq, Repr

namespace Leaf

def isInteger : Leaf → Bool
  | .int | .long | .ulong | .char => true
  | _ => false

def isLongText : Leaf → Bool
  | .longText _ => true
  | _ => false

end Leaf

/-- An argument as it is declared; its name may be left out. -/
inductive ArgDecl where
  | leaf (name : Option String) (kind : Leaf)
  | struct (name : Option String) (members : List ArgDecl)
  deriving Repr, Inhabited

/-- Where an argument stands: its own index, and those of the structures around
it, the innermost first. Fewer than `2 ^ 32` siblings are assumed, so that an index fits
its word of 32 bits. -/
structure Place where
  declared : Option String
  index : Nat
  enclosing : List Nat
  deriving DecidableEq, Repr

namespace Place

def depth (place : Place) : Nat :=
  place.enclosing.length

/-- The declared name, or one made of depth and index. -/
def name (place : Place) : String :=
  place.declared.getD ("arg_" ++ toString place.depth ++ "_" ++ toString place.index)

/-- Indices as they are appended to a name. -/
def suffixOf : List Nat → String
  | [] => ""
  | i :: rest => "_" ++ toString i ++ suffixOf rest

def suffix (place : Place) : String :=
  suffixOf place.enclosing

/-- The name of the record field that carries the argument. -/
def field (place : Place) : String :=
  place.name ++ place.suffix

end Place

inductive Arg where
  | leaf (place : Place) (kind : Leaf)
  | struct (place : Place) (members : List Arg)
  deriving Repr

mutual
/-- Places a declaration below the structures with the given indices. -/
def ArgDecl.placed (enclosing : List Nat) (index : Nat) : ArgDecl → Arg
  | .leaf name kind => .leaf ⟨name, index, enclosing⟩ kind
  | .struct name members =>
    .struct ⟨name, index, enclosing⟩ (ArgDecl.placedFrom (index :: enclosing) 0 members)

/-- Places siblings, numbered on from an index. With fewer than `2 ^ 32` of them a word of 32
bits would count the same. -/
def ArgDecl.placedFrom (enclosing : List Nat) (index : Nat) : List ArgDecl → List Arg
  | [] => []
  | decl :: rest =>
    ArgDecl.placed enclosing index decl :: ArgDecl.placedFrom enclosing (index + 1) rest
end

namespace Arg

def place : Arg → Place
  | .leaf place _ => place
  | .struct place _ => place

def name (arg : Arg) : String :=
  arg.place.name

def field (arg : Arg) : String :=
  arg.place.field

def members : Arg → List Arg
  | .leaf _ _ => []
  | .struct _ members => members

def isStruct : Arg → Bool
  | .leaf _ _ => false
  | .struct _ _ => true

def isLongText : Arg → Bool
  | .leaf _ kind => kind.isLongText
  | .struct _ _ => false

def isInteger : Arg → Bool
  | .leaf _ kind => kind.isInteger
  | .struct _ _ => false

mutual
/-- The leaves below an argument in order of declaration. -/
def leaves : Arg → List (Place × Leaf)
  | .leaf place kind => [(place, kind)]
  | .struct _ members => leavesOf members

def leavesOf : List Arg → List (Place × Leaf)
  | [] => []
  | arg :: rest => leaves arg ++ leavesOf rest
end

/-- Whether there is a long text among arguments or below them. -/
def anyLongText (args : List Arg) : Bool :=
  (leavesOf args).any fun leaf => leaf.2.isLongText

mutual
/-- The declaration an argument was placed from. -/
def decl : Arg → ArgDecl
  | .leaf place kind => .leaf place.declared kind
  | .struct place members => .struct place.declared (declsOf members)

def declsOf : List Arg → List ArgDecl
  | [] => []
  | arg :: rest => decl arg :: declsOf rest
end

end Arg

mutual
/-- Placing changes nothing but the place. -/
theorem ArgDecl.decl_placed (enclosing : List Nat) (index : Nat) :
    (d : ArgDecl) → (d.placed enclosing index).decl = d
  | .leaf name kind => rfl
  | .struct name members => by
    simp [ArgDecl.placed, Arg.decl, ArgDecl.declsOf_placedFrom (index :: enclosing) 0 members]

theorem ArgDecl.declsOf_placedFrom (enclosing : List Nat) (index : Nat) :
    (ds : List ArgDecl) → Arg.declsOf (ArgDecl.placedFrom enclosing index ds) = ds
  | [] => rfl
  | d :: rest => by
    simp [ArgDecl.placedFrom, Arg.declsOf, ArgDecl.decl_placed enclosing index d,
      ArgDecl.declsOf_placedFrom enclosing (index + 1) rest]
end

end ProbeTrace
