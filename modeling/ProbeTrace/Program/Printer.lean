import ProbeTrace.Program.Code

/-!
# Printing programs

The text of emitted programs. Operands are put in brackets where the order of
operations asks for it and nowhere else; every file-scope item is followed by an
empty line, and so is every paragraph of a function but the last.
-/

set_option autoImplicit false

namespace ProbeTrace.Code

def CType.text : CType → String
  | .s8 => "__s8"
  | .s32 => "__s32"
  | .s64 => "__s64"
  | .u32 => "__u32"
  | .u64 => "__u64"
  | .char => "char"
  | .int => "int"
  | .long => "long"
  | .longLong => "long long"
  | .unsignedLongLong => "unsigned long long"
  | .void => "void"
  | .struct tag => "struct " ++ tag
  | .constant type => "const " ++ type.text
  | .pointer target => target.text ++ " *"

/-- A type in front of the name it declares; the star of a pointer stands at the name. -/
def CType.declare (type : CType) (name : String) : String :=
  match type with
  | .pointer target => target.text ++ " *" ++ name
  | _ => type.text ++ " " ++ name

def BinaryOp.text : BinaryOp → String
  | .add => "+"
  | .sub => "-"
  | .mul => "*"
  | .div => "/"
  | .mod => "%"
  | .shiftRight => ">>"
  | .lt => "<"
  | .le => "<="
  | .gt => ">"
  | .ge => ">="
  | .ne => "!="

/-- How strongly an operator binds. -/
def BinaryOp.strength : BinaryOp → Nat
  | .mul | .div | .mod => 5
  | .add | .sub => 4
  | .shiftRight => 3
  | .lt | .le | .gt | .ge => 2
  | .ne => 1

/-- The strength of a single operand. -/
def unaryStrength : Nat := 6

def bracketed (needed : Bool) (text : String) : String :=
  if needed then "(" ++ text ++ ")" else text

mutual
/-- The text of an expression where operands of at least the given strength may stand. -/
def Expr.text (strength : Nat) : Expr → String
  | .name n => n
  | .number n => toString n
  | .deref e => "*" ++ e.text unaryStrength
  | .addressOf e => "&" ++ e.text unaryStrength
  | .not e => "!" ++ e.text unaryStrength
  | .arrow e member => e.text unaryStrength ++ "->" ++ member
  | .dot e member => e.text unaryStrength ++ "." ++ member
  | .cast type e => "(" ++ type.text ++ ")" ++ e.text unaryStrength
  | .binary op a b =>
    bracketed (op.strength < strength)
      (a.text op.strength ++ " " ++ op.text ++ " " ++ b.text (op.strength + 1))
  | .choose condition a b =>
    bracketed (0 < strength) (condition.text 1 ++ " ? " ++ a.text 1 ++ " : " ++ b.text 0)
  | .call function args => function ++ "(" ++ Expr.listText args ++ ")"
  | .sizeOf e => "sizeof(" ++ e.text 0 ++ ")"
  | .sizeOfType type => "sizeof(" ++ type.text ++ ")"

def Expr.listText : List Expr → String
  | [] => ""
  | [e] => e.text 0
  | e :: rest => e.text 0 ++ ", " ++ Expr.listText rest
end

def tabs (n : Nat) : String :=
  String.ofList (List.replicate n '\t')

def Stmt.text (level : Nat) : Stmt → String
  | .assign target value => tabs level ++ target.text 0 ++ " = " ++ value.text 0 ++ ";\n"
  | .decrease target amount => tabs level ++ target.text 0 ++ " -= " ++ amount.text 0 ++ ";\n"
  | .run e => tabs level ++ e.text 0 ++ ";\n"
  | .give e => tabs level ++ "return " ++ e.text 0 ++ ";\n"
  | .when condition body =>
    tabs level ++ "if (" ++ condition.text 0 ++ ")\n" ++ body.text (level + 1)
  | .choose condition yes no =>
    tabs level ++ "if (" ++ condition.text 0 ++ ")\n" ++ yes.text (level + 1) ++
      tabs level ++ "else\n" ++ no.text (level + 1)

def initialised : String × Option Expr → String
  | (name, none) => name
  | (name, some value) => name ++ " = " ++ value.text 0

def Locals.text (locals : Locals) : String :=
  "\t" ++ locals.type.declare (", ".intercalate (locals.names.map initialised)) ++ ";\n"

def paragraph (statements : List Stmt) : String :=
  String.join (statements.map (Stmt.text 1))

def Function.signature (f : Function) : String :=
  let head := f.result.declare f.name ++ "(" ++
    ", ".intercalate (f.params.map fun param => param.1.declare param.2) ++ ")\n"
  match f.attachment with
  | some place => "SEC(\"" ++ place ++ "\")\n" ++ head
  | none => "static __always_inline " ++ head

def Function.text (f : Function) : String :=
  f.signature ++ "\x7b\n" ++
    "\n".intercalate (String.join (f.locals.map Locals.text) :: f.body.map paragraph) ++ "\x7d\n"

def Member.text (member : Member) : String :=
  "\t" ++ member.type.declare member.name ++
    (match member.extent with
      | some extent => "[" ++ extent.text 0 ++ "]"
      | none => "") ++ ";\n"

def StructDef.text (definition : StructDef) : String :=
  "struct " ++ definition.tag ++ " \x7b\n" ++ String.join (definition.members.map Member.text) ++
    (if definition.packed then "\x7d __attribute__((packed));\n" else "\x7d;\n")

def MapAttribute.text : MapAttribute → String
  | .number key value => "\t__uint(" ++ key ++ ", " ++ value.text 0 ++ ");\n"
  | .type key value => "\t__type(" ++ key ++ ", " ++ value.text ++ ");\n"

def MapDef.text (definition : MapDef) : String :=
  "struct \x7b\n" ++ String.join (definition.attributes.map MapAttribute.text) ++ "\x7d " ++
    definition.name ++ " SEC(\".maps\");\n"

def Constant.text : Constant → String
  | .signed n => "(" ++ toString n ++ ")"
  | .plain n => toString n
  | .unsigned n => toString n ++ "U"

def Item.text : Item → String
  | .preamble remark headers =>
    "// " ++ remark ++ "\n" ++
      String.join (headers.map fun header => "#include <" ++ header ++ ">\n")
  | .defines constants =>
    String.join (constants.map fun constant =>
      "#define " ++ constant.1 ++ " " ++ constant.2.text ++ "\n")
  | .license text => "char LICENSE[] SEC(\"license\") = \"" ++ text ++ "\";\n"
  | .heading text => "/* " ++ text ++ " */\n"
  | .struct definition => definition.text
  | .map definition => definition.text
  | .function definition => definition.text

def render (items : List Item) : String :=
  String.join (items.map fun item => item.text ++ "\n")

theorem render_append (items rest : List Item) :
    render (items ++ rest) = render items ++ render rest := by
  rw [render, List.map_append, String.join_append]
  rfl

theorem render_cons (item : Item) (rest : List Item) :
    render (item :: rest) = item.text ++ "\n" ++ render rest := by
  rw [render, List.map_cons, String.join_cons]
  rfl

end ProbeTrace.Code
