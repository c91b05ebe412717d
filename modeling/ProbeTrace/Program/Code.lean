/-!
# Program text as data

The part of C that emitted programs use: file-scope items, a few kinds of
statements and expressions. Programs are built as values of these types, so that
what they declare and store can be read off, and printed in a separate step.
-/

set_option autoImplicit false

namespace ProbeTrace.Code

inductive CType where
  | s8
  | s32
  | s64
  | u32
  | u64
  | char
  | int
  | long
  | longLong
  | unsignedLongLong
  | void
  | struct (tag : String)
  | constant (type : CType)
  | pointer (target : CType)
  deriving DecidableEq, Repr

inductive BinaryOp where
  | add
  | sub
  | mul
  | div
  | mod
  | shiftRight
  | lt
  | le
  | gt
  | ge
  | ne
  deriving DecidableEq, Repr

inductive Expr where
  | name (name : String)
  | number (n : Nat)
  | deref (e : Expr)
  | addressOf (e : Expr)
  | not (e : Expr)
  | arrow (e : Expr) (member : String)
  | dot (e : Expr) (member : String)
  | cast (type : CType) (e : Expr)
  | binary (op : BinaryOp) (a b : Expr)
  | choose (condition a b : Expr)
  | call (function : String) (args : List Expr)
  | sizeOf (e : Expr)
  | sizeOfType (type : CType)
  deriving Repr, Inhabited

inductive Stmt where
  | assign (target value : Expr)
  | decrease (target amount : Expr)
  | run (e : Expr)
  | give (e : Expr)
  | when (condition : Expr) (body : Stmt)
  | choose (condition : Expr) (yes no : Stmt)
  deriving Repr, Inhabited

/-- Names of one type that a function declares, some with a first value. -/
structure Locals where
  type : CType
  names : List (String × Option Expr)
  deriving Repr

/-- A function; its body is a list of paragraphs. -/
structure Function where
  /-- The section an entry function is placed in; other functions are inlined. -/
  attachment : Option String
  result : CType
  name : String
  params : List (CType × String)
  locals : List Locals
  body : List (List Stmt)
  deriving Repr

structure Member where
  type : CType
  name : String
  /-- The number of elements of an array member. -/
  extent : Option Expr
  deriving Repr

structure StructDef where
  tag : String
  members : List Member
  packed : Bool
  deriving Repr

inductive MapAttribute where
  | number (key : String) (value : Expr)
  | type (key : String) (type : CType)
  deriving Repr

structure MapDef where
  name : String
  attributes : List MapAttribute
  deriving Repr

inductive Constant where
  | signed (n : Int)
  | plain (n : Nat)
  | unsigned (n : Nat)
  deriving DecidableEq, Repr

inductive Item where
  | preamble (remark : String) (headers : List String)
  | defines (constants : List (String × Constant))
  | license (text : String)
  | heading (text : String)
  | struct (definition : StructDef)
  | map (definition : MapDef)
  | function (definition : Function)
  deriving Repr

namespace Item

/-- Names of maps, functions and variables that an item introduces. -/
def objectNames : Item → List String
  | .license _ => ["LICENSE"]
  | .map definition => [definition.name]
  | .function definition => [definition.name]
  | _ => []

/-- Structure tags that an item introduces. -/
def tags : Item → List String
  | .struct definition => [definition.tag]
  | _ => []

/-- Constants that an item introduces. -/
def constantNames : Item → List String
  | .defines constants => constants.map Prod.fst
  | _ => []

end Item
end ProbeTrace.Code
