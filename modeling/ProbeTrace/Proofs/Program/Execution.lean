import Mathlib.Algebra.Ring.Int.Defs
import Mathlib.Algebra.Ring.Nat
import Mathlib.Logic.Function.Basic
import ProbeTrace.Bytes
import ProbeTrace.Program.Code

/-!
# Running functions

What the functions of a program do, as far as they work on integers, on pointers
and on array maps. Where the language leaves open what happens there is no
outcome: a signed number that leaves its type, a division by zero, a variable
that has no value yet, a store outside an array.
-/

set_option autoImplicit false

namespace ProbeTrace

theorem uInt32_ofInt_natCast (n : Nat) : UInt32.ofInt n = UInt32.ofNat n := by
  apply UInt32.toNat_inj.1
  simp [UInt32.ofInt]
  omega

theorem uInt64_ofInt_natCast (n : Nat) : UInt64.ofInt n = UInt64.ofNat n := by
  apply UInt64.toNat_inj.1
  simp [UInt64.ofInt]
  omega

namespace Code

/-! ## Integers -/

/-- An integer type: its width and whether it has negative numbers. -/
structure Kind where
  bits : Nat
  signed : Bool
  deriving DecidableEq, Repr

namespace Kind

def s32 : Kind := ⟨32, true⟩
def u32 : Kind := ⟨32, false⟩
def s64 : Kind := ⟨64, true⟩
def u64 : Kind := ⟨64, false⟩

/-- The first number above the type. -/
def bound (kind : Kind) : Int :=
  if kind.signed then 2 ^ (kind.bits - 1) else 2 ^ kind.bits

def least (kind : Kind) : Int :=
  if kind.signed then -kind.bound else 0

def Has (kind : Kind) (n : Int) : Prop :=
  kind.least ≤ n ∧ n < kind.bound

instance (kind : Kind) (n : Int) : Decidable (kind.Has n) :=
  inferInstanceAs (Decidable (_ ∧ _))

/-- A number brought into a type. Unsigned types wrap around. -/
def fit (kind : Kind) (n : Int) : Option Int :=
  if kind.signed then if kind.Has n then some n else none
  else some (n % kind.bound)

def promote (kind : Kind) : Kind :=
  if kind.bits < 32 then s32 else kind

/-- The type in which operands of two types are combined. -/
def common (a b : Kind) : Kind :=
  if a.promote.bits < b.promote.bits then b.promote
  else if b.promote.bits < a.promote.bits then a.promote
  else ⟨a.promote.bits, a.promote.signed && b.promote.signed⟩

/-- The type of a number that is written without an ending. -/
def ofNumber (n : Nat) : Kind :=
  if n < 2 ^ 31 then s32 else s64

def ofUnsigned (n : Nat) : Kind :=
  if n < 2 ^ 32 then u32 else u64

theorem fit_of_has {kind : Kind} {n : Int} (h : kind.Has n) : kind.fit n = some n := by
  simp only [fit, if_pos h]
  split
  · rfl
  · rename_i hunsigned
    rw [Has, least, if_neg hunsigned] at h
    rw [Int.emod_eq_of_lt h.1 h.2]

theorem common_comm (a b : Kind) : a.common b = b.common a := by
  simp only [common]
  grind

theorem s32_common_ofNumber (n : Nat) : s32.common (ofNumber n) = ofNumber n := by
  rw [ofNumber]
  split <;> rfl

theorem u64_common_ofNumber (n : Nat) : u64.common (ofNumber n) = u64 := by
  rw [ofNumber]
  split <;> rfl

end Kind

def CType.kind? : CType → Option Kind
  | .s8 => some ⟨8, true⟩
  | .s32 | .int => some .s32
  | .u32 => some .u32
  | .s64 | .long | .longLong => some .s64
  | .u64 | .unsignedLongLong => some .u64
  | .constant type => type.kind?
  | .char | .void | .struct _ | .pointer _ => none

def CType.isPointer : CType → Bool
  | .pointer _ => true
  | .constant type => type.isPointer
  | _ => false

/-! ## Values -/

/-- What a pointer may point to: a map, an entry of one or an array in an entry, a variable of
the function or of its caller, and bytes of the traced process. -/
inductive Referent where
  | map (name : String)
  | entry (map : String) (index : Nat)
  | array (map : String) (index : Nat) (member : String)
  | own (name : String)
  | outer (name : String)
  | user (address : UInt64)
  deriving DecidableEq, Repr

inductive Datum where
  | int (kind : Kind) (n : Int)
  | pointer (referent : Option Referent)
  deriving DecidableEq, Repr

namespace Datum

def ofNumber? (n : Nat) : Option Datum :=
  ((Kind.ofNumber n).fit n).map (.int (Kind.ofNumber n))

def ofBool (b : Bool) : Datum :=
  .int .s32 (if b then 1 else 0)

def isTrue : Datum → Bool
  | .int _ n => n ≠ 0
  | .pointer referent => referent.isSome

def convert (type : CType) : Datum → Option Datum
  | .int _ n => type.kind?.bind fun kind => (kind.fit n).map (.int kind)
  | .pointer referent => if type.isPointer then some (.pointer referent) else none

/-- One arm of a choice as the other arm has it. -/
def along : Datum → Datum → Option Datum
  | .int k n, .int l _ => ((k.common l).fit n).map (.int (k.common l))
  | .pointer referent, .pointer _ => some (.pointer referent)
  | _, _ => none

theorem isTrue_ofBool (b : Bool) : (ofBool b).isTrue = b := by
  cases b <;> rfl

theorem convert_int {type : CType} {k kind : Kind} {n : Int} (htype : type.kind? = some kind)
    (hn : kind.Has n) : (int k n).convert type = some (.int kind n) := by
  rw [convert, htype, Option.bind_some, Kind.fit_of_has hn, Option.map_some]

end Datum

def Constant.value? : Constant → Option Datum
  | .signed n => ((Kind.ofNumber n.natAbs).fit n).map (.int (Kind.ofNumber n.natAbs))
  | .plain n => Datum.ofNumber? n
  | .unsigned n => ((Kind.ofUnsigned n).fit n).map (.int (Kind.ofUnsigned n))

namespace BinaryOp

/-- Two numbers of one type combined. -/
def combine (kind : Kind) (m n : Int) : BinaryOp → Option Datum
  | .add => (kind.fit (m + n)).map (.int kind)
  | .sub => (kind.fit (m - n)).map (.int kind)
  | .mul => (kind.fit (m * n)).map (.int kind)
  | .div => if n = 0 then none else (kind.fit (m.tdiv n)).map (.int kind)
  | .mod => if n = 0 then none else (kind.fit (m.tmod n)).map (.int kind)
  | .shiftRight => none
  | .lt => some (.ofBool (m < n))
  | .le => some (.ofBool (m ≤ n))
  | .gt => some (.ofBool (m > n))
  | .ge => some (.ofBool (m ≥ n))
  | .ne => some (.ofBool (m ≠ n))

/-- The result for operands and results without a sign. -/
def natural? (a b : Nat) : BinaryOp → Option Nat
  | .add => some (a + b)
  | .sub => if b ≤ a then some (a - b) else none
  | .mul => some (a * b)
  | .div => if b = 0 then none else some (a / b)
  | .mod => if b = 0 then none else some (a % b)
  | _ => none

def compare? (a b : Nat) : BinaryOp → Option Bool
  | .lt => some (a < b)
  | .le => some (a ≤ b)
  | .gt => some (a > b)
  | .ge => some (a ≥ b)
  | .ne => some (a ≠ b)
  | _ => none

/-- A shift keeps the type of what is shifted, and bytes of a process lie next to each other. -/
def apply : BinaryOp → Datum → Datum → Option Datum
  | .shiftRight, .int k m, .int _ n =>
    if 0 ≤ m ∧ 0 ≤ n ∧ n < k.promote.bits then some (.int k.promote (m / 2 ^ n.toNat)) else none
  | op, .int k m, .int l n => do
    op.combine (k.common l) (← (k.common l).fit m) (← (k.common l).fit n)
  | .add, .pointer (some (.user address)), .int _ n =>
    some (.pointer (some (.user (address + UInt64.ofInt n))))
  | _, _, _ => none

end BinaryOp

/-! ## Machines -/

/-- What a function finds outside itself: words and arrays, and the bytes of the traced
process that can be read. -/
structure Memory where
  word : Referent → UInt32
  bytes : Referent → Bytes
  user : UInt64 → Option UInt8

namespace Memory

def setWord (memory : Memory) (referent : Referent) (word : UInt32) : Memory :=
  { memory with word := Function.update memory.word referent word }

/-- Writes over the beginning of an array. -/
def setBytes (memory : Memory) (referent : Referent) (piece : Bytes) : Memory :=
  { memory with
    bytes := Function.update memory.bytes referent
      (piece ++ (memory.bytes referent).drop piece.length) }

def read (memory : Memory) (address : UInt64) : Nat → Option Bytes
  | 0 => some []
  | n + 1 => do
    let byte ← memory.user address
    let rest ← memory.read (address + 1) n
    some (byte :: rest)

@[simp]
theorem setWord_self (memory : Memory) (referent : Referent) (word : UInt32) :
    (memory.setWord referent word).word referent = word :=
  Function.update_self ..

theorem setWord_of_ne {referent other : Referent} (h : other ≠ referent) (memory : Memory)
    (word : UInt32) : (memory.setWord referent word).word other = memory.word other :=
  Function.update_of_ne h ..

@[simp]
theorem setBytes_user (memory : Memory) (referent : Referent) (piece : Bytes) :
    (memory.setBytes referent piece).user = memory.user :=
  rfl

theorem read_eq_some {memory : Memory} {address : UInt64} {piece : Bytes}
    (h : ∀ k < piece.length, memory.user (address + UInt64.ofNat k) = piece[k]?) :
    memory.read address piece.length = some piece := by
  induction piece generalizing address with
  | nil => rfl
  | cons byte rest ih =>
    have hbyte : memory.user address = some byte := by simpa using h 0 (Nat.succ_pos _)
    have hrest : memory.read (address + 1) rest.length = some rest := by
      refine ih fun k hk => ?_
      have hnext := h (k + 1) (Nat.succ_lt_succ hk)
      rwa [UInt64.ofNat_add, UInt64.add_comm (UInt64.ofNat k), ← UInt64.add_assoc] at hnext
    rw [List.length_cons, read, hbyte, hrest]
    rfl

end Memory

/-- A running function. -/
structure Machine where
  locals : String → Option Datum
  memory : Memory

namespace Machine

def set (m : Machine) (name : String) (value : Datum) : Machine :=
  { m with locals := Function.update m.locals name (some value) }

def setWord (m : Machine) (referent : Referent) (word : UInt32) : Machine :=
  { m with memory := m.memory.setWord referent word }

def setBytes (m : Machine) (referent : Referent) (piece : Bytes) : Machine :=
  { m with memory := m.memory.setBytes referent piece }

@[simp]
theorem set_self (m : Machine) (name : String) (value : Datum) :
    (m.set name value).locals name = some value :=
  Function.update_self ..

theorem set_of_ne {name other : String} (h : other ≠ name) (m : Machine) (value : Datum) :
    (m.set name value).locals other = m.locals other :=
  Function.update_of_ne h ..

@[simp]
theorem set_memory (m : Machine) (name : String) (value : Datum) :
    (m.set name value).memory = m.memory :=
  rfl

@[simp]
theorem setWord_locals (m : Machine) (referent : Referent) (word : UInt32) :
    (m.setWord referent word).locals = m.locals :=
  rfl

end Machine

/-! ## Declarations -/

namespace Item

def constants : Item → List (String × Constant)
  | .defines constants => constants
  | _ => []

def map? : Item → Option MapDef
  | .map definition => some definition
  | _ => none

def struct? : Item → Option StructDef
  | .struct definition => some definition
  | _ => none

end Item

namespace MapDef

def number? (definition : MapDef) (key : String) : Option Expr :=
  definition.attributes.findSome? fun
    | .number found value => if found = key then some value else none
    | .type _ _ => none

def type? (definition : MapDef) (key : String) : Option CType :=
  definition.attributes.findSome? fun
    | .number _ _ => none
    | .type found type => if found = key then some type else none

end MapDef

def Function.vars (f : Function) : List (String × CType) :=
  f.params.map Prod.swap ++ f.locals.flatMap fun group =>
    group.names.map fun declared => (declared.1, group.type)

/-- What a program declares. -/
structure Declarations where
  items : List Item

namespace Declarations

def constant? (declarations : Declarations) (name : String) : Option Constant :=
  (declarations.items.flatMap Item.constants).lookup name

def map? (declarations : Declarations) (name : String) : Option MapDef :=
  (declarations.items.filterMap Item.map?).find? fun definition => definition.name = name

def struct? (declarations : Declarations) (tag : String) : Option StructDef :=
  (declarations.items.filterMap Item.struct?).find? fun definition => definition.tag = tag

/-- A size that a declaration gives. -/
def size? (declarations : Declarations) : Expr → Option Nat
  | .number n => some n
  | .name name =>
    match declarations.constant? name with
    | some (.plain n) | some (.unsigned n) => some n
    | _ => none
  | _ => none

/-- The number of entries of an array map. -/
def entries? (declarations : Declarations) (map : String) : Option Nat := do
  let definition ← declarations.map? map
  let .name "BPF_MAP_TYPE_ARRAY" ← definition.number? "type" | none
  declarations.size? (← definition.number? "max_entries")

/-- The number of bytes of an array in the entries of a map. -/
def extent? (declarations : Declarations) (map member : String) : Option Nat := do
  let .struct tag ← (← declarations.map? map).type? "value" | none
  let found ← (← declarations.struct? tag).members.find? fun found => found.name = member
  declarations.size? (← found.extent)

/-- Where a word of 32 bits without a sign may stand. -/
def isWord (declarations : Declarations) : Referent → Bool
  | .entry map _ => (declarations.map? map).bind (MapDef.type? · "value") = some .u32
  | .outer _ => true
  | _ => false

end Declarations

/-! ## The kernel -/

/-- The functions of the kernel, by their names: what a call with some arguments gives, and the
machine of the caller after it. -/
abbrev Kernel := String → List Datum → Machine → Option (Datum × Machine)

/-- What is relied on: an entry that an array map has is found, and bytes that can be read
are copied to an array with room for them. -/
structure Kernel.Serves (kernel : Kernel) (declarations : Declarations) : Prop where
  lookup (map key : String) (entries index : Nat) (m : Machine)
    (hentries : declarations.entries? map = some entries)
    (hkey : m.locals key = some (.int .u32 index)) (hindex : index < entries) :
    kernel "bpf_map_lookup_elem" [.pointer (some (.map map)), .pointer (some (.own key))] m =
      some (.pointer (some (.entry map index)), m)
  read (map member : String) (index extent : Nat) (kind : Kind) (address : UInt64)
    (piece : Bytes) (m : Machine) (hextent : declarations.extent? map member = some extent)
    (hroom : piece.length ≤ extent)
    (hread : m.memory.read address piece.length = some piece) :
    kernel "bpf_probe_read_user"
        [.pointer (some (.array map index member)), .int kind piece.length,
          .pointer (some (.user address))] m =
      some (.int .s64 0, m.setBytes (.array map index member) piece)

/-- A kernel that finds no other entry, and gives a number below zero and leaves zeroes where
bytes cannot be read. -/
def Declarations.kernel (declarations : Declarations) : Kernel
  | "bpf_map_lookup_elem", [.pointer (some (.map map)), .pointer (some (.own key))], m => do
    let entries ← declarations.entries? map
    let .int ⟨32, false⟩ index ← m.locals key | none
    some (.pointer (if index < entries then some (.entry map index.toNat) else none), m)
  | "bpf_probe_read_user",
      [.pointer (some (.array map index member)), .int _ n, .pointer (some (.user address))],
      m => do
    let extent ← declarations.extent? map member
    if n < 0 ∨ extent < n then none
    else
      match m.memory.read address n.toNat with
      | some piece => some (.int .s64 0, m.setBytes (.array map index member) piece)
      | none =>
        some (.int .s64 (-14), m.setBytes (.array map index member) (List.replicate n.toNat 0))
  | _, _, _ => none

theorem Declarations.kernel_serves (declarations : Declarations) :
    declarations.kernel.Serves declarations where
  lookup map key entries index m hentries hkey hindex := by
    simp [kernel, hentries, hkey, Kind.u32, hindex]
  read map member index extent kind address piece m hextent hroom hread := by
    have hbound : ¬ ((piece.length : Int) < 0 ∨ (extent : Int) < piece.length) := by omega
    simp only [kernel, hextent, Option.bind_eq_bind, Option.bind_some, if_neg hbound,
      Int.toNat_natCast, hread]

/-! ## Execution -/

/-- What a function can name: what is declared, its own variables and the kernel. -/
structure Scope extends Declarations where
  vars : List (String × CType)
  kernel : Kernel

namespace Scope

/-- The type of a variable. A constant of the same name would be put in its place. -/
def typeOf? (scope : Scope) (name : String) : Option CType :=
  match scope.constant? name with
  | some _ => none
  | none => scope.vars.lookup name

def address? (scope : Scope) (name : String) : Option Referent :=
  match scope.constant? name, scope.vars.lookup name with
  | some _, _ => none
  | none, some _ => some (.own name)
  | none, none => (scope.map? name).map fun _ => .map name

/-- The value of a variable that has one. -/
def valueOf? (scope : Scope) (m : Machine) (name : String) : Option Datum :=
  (scope.typeOf? name).bind fun _ => m.locals name

/-- A call. The sum in one step belongs to the language, other functions are of the kernel. -/
def invoke (scope : Scope) : String → List Datum → Machine → Option (Datum × Machine)
  | "__sync_fetch_and_add", args, m =>
    match args with
    | [.pointer (some referent), .int _ n] =>
      if scope.isWord referent then
        some (.int .u32 (m.memory.word referent).toNat,
          m.setWord referent (m.memory.word referent + UInt32.ofInt n))
      else none
    | _ => none
  | function, args, m => scope.kernel function args m

end Scope

mutual
/-- Evaluates an expression. Of a choice, the arm that is not taken only has a part in the type. -/
def eval (scope : Scope) : Expr → Machine → Option (Datum × Machine)
  | .name name, m =>
    match scope.constant? name with
    | some constant => constant.value?.map (·, m)
    | none => (scope.valueOf? m name).map (·, m)
  | .number n, m => (Datum.ofNumber? n).map (·, m)
  | .deref e, m => do
    let (.pointer (some referent), m) ← eval scope e m | none
    if scope.isWord referent then some (.int .u32 (m.memory.word referent).toNat, m) else none
  | .addressOf (.name name), m =>
    (scope.address? name).map fun referent => (.pointer (some referent), m)
  | .addressOf _, _ => none
  | .not e, m => do
    let (value, m) ← eval scope e m
    some (.ofBool (!value.isTrue), m)
  | .arrow e member, m => do
    let (.pointer (some (.entry map index)), m) ← eval scope e m | none
    let _ ← scope.extent? map member
    some (.pointer (some (.array map index member)), m)
  | .cast type e, m => do
    let (value, m) ← eval scope e m
    some (← value.convert type, m)
  | .binary op a b, m => do
    let (x, m) ← eval scope a m
    let (y, m) ← eval scope b m
    some (← op.apply x y, m)
  | .choose condition a b, m => do
    let (test, m) ← eval scope condition m
    let (x, yes) ← eval scope a m
    let (y, no) ← eval scope b m
    if test.isTrue then some (← x.along y, yes) else some (← y.along x, no)
  | .call function args, m => do
    let (values, m) ← evalAll scope args m
    scope.invoke function values m
  | .dot _ _, _ | .sizeOf _, _ | .sizeOfType _, _ => none

def evalAll (scope : Scope) : List Expr → Machine → Option (List Datum × Machine)
  | [], m => some ([], m)
  | e :: rest, m => do
    let (value, m) ← eval scope e m
    let (values, m) ← evalAll scope rest m
    some (value :: values, m)
end

/-- Stores a value in a variable, or in a word behind a pointer. -/
def store (scope : Scope) (value : Datum) (m : Machine) : Expr → Option Machine
  | .name name => do
    let type ← scope.typeOf? name
    some (m.set name (← value.convert type))
  | .deref e => do
    let (.pointer (some referent), m) ← eval scope e m | none
    let .int _ n ← value.convert .u32 | none
    if scope.isWord referent then some (m.setWord referent (UInt32.ofInt n)) else none
  | _ => none

/-- Runs a statement; there is a value if it returns. -/
def exec (scope : Scope) : Stmt → Machine → Option (Option Datum × Machine)
  | .assign target e, m => do
    let (value, m) ← eval scope e m
    some (none, ← store scope value m target)
  | .decrease target amount, m => do
    let (value, m) ← eval scope (.binary .sub target amount) m
    some (none, ← store scope value m target)
  | .run e, m => do
    let (_, m) ← eval scope e m
    some (none, m)
  | .give e, m => do
    let (value, m) ← eval scope e m
    some (some value, m)
  | .when condition body, m => do
    let (value, m) ← eval scope condition m
    if value.isTrue then exec scope body m else some (none, m)
  | .choose condition yes no, m => do
    let (value, m) ← eval scope condition m
    if value.isTrue then exec scope yes m else exec scope no m

/-- Runs statements one after the other, until one of them returns. -/
def execAll (scope : Scope) : List Stmt → Machine → Option (Option Datum × Machine)
  | [], m => some (none, m)
  | stmt :: rest, m => do
    match ← exec scope stmt m with
    | (none, m) => execAll scope rest m
    | (some value, m) => some (some value, m)

/-- Gives the first values to variables that are declared with one. -/
def declare (scope : Scope) : List (String × Option Expr) → Machine → Option Machine
  | [], m => some m
  | (_, none) :: rest, m => declare scope rest m
  | (name, some e) :: rest, m => do
    let (value, m) ← eval scope e m
    declare scope rest (← store scope value m (.name name))

/-- Passes arguments as the first values of parameters. -/
def pass : List (CType × String) → List Datum → Machine → Option Machine
  | [], [], m => some m
  | (type, name) :: params, value :: values, m => do
    pass params values (m.set name (← value.convert type))
  | _, _, _ => none

/-- Calls a function of a program. A function that does not return has no outcome. -/
def Function.call (f : Function) (kernel : Kernel) (declarations : Declarations)
    (args : List Datum) (memory : Memory) : Option (Datum × Memory) := do
  let scope : Scope := ⟨declarations, f.vars, kernel⟩
  let m ← pass f.params args ⟨fun _ => none, memory⟩
  let m ← declare scope (f.locals.flatMap Locals.names) m
  let (some value, m) ← execAll scope f.body.flatten m | none
  some (← value.convert f.result, m.memory)

/-! ## Rules -/

namespace BinaryOp

theorem combine_natural {op : BinaryOp} {kind : Kind} {a b n : Nat}
    (hop : op.natural? a b = some n) (hn : kind.Has n) :
    op.combine kind a b = some (.int kind n) := by
  have hfit := Kind.fit_of_has hn
  cases op with
  | add =>
    cases hop
    rw [combine, ← Int.natCast_add, hfit, Option.map_some]
  | sub =>
    obtain ⟨hle, rfl⟩ : b ≤ a ∧ a - b = n := by simpa [natural?] using hop
    rw [combine, ← Int.natCast_sub hle, hfit, Option.map_some]
  | mul =>
    cases hop
    rw [combine, ← Int.natCast_mul, hfit, Option.map_some]
  | div =>
    obtain ⟨hb, rfl⟩ : b ≠ 0 ∧ a / b = n := by simpa [natural?] using hop
    rw [combine, if_neg (Int.natCast_ne_zero.2 hb), ← Int.ofNat_tdiv, hfit, Option.map_some]
  | mod =>
    obtain ⟨hb, rfl⟩ : b ≠ 0 ∧ a % b = n := by simpa [natural?] using hop
    rw [combine, if_neg (Int.natCast_ne_zero.2 hb), ← Int.ofNat_tmod, hfit, Option.map_some]
  | shiftRight | lt | le | gt | ge | ne => cases hop

theorem combine_compare {op : BinaryOp} {a b : Nat} {outcome : Bool} (kind : Kind)
    (hop : op.compare? a b = some outcome) : op.combine kind a b = some (.ofBool outcome) := by
  cases op with
  | lt | le | gt | ge | ne =>
    cases hop
    refine congrArg (fun test => some (Datum.ofBool test)) (decide_eq_decide.2 ?_)
    omega
  | add | sub | mul | div | mod | shiftRight => cases hop

theorem apply_int {op : BinaryOp} {k l : Kind} {a b : Int} (hop : op ≠ .shiftRight)
    (ha : (k.common l).Has a) (hb : (k.common l).Has b) :
    op.apply (.int k a) (.int l b) = op.combine (k.common l) a b := by
  cases op <;> first
    | exact absurd rfl hop
    | simp only [apply, Kind.fit_of_has ha, Kind.fit_of_has hb, Option.bind_eq_bind,
        Option.bind_some]

end BinaryOp

section

variable {scope : Scope} {m mid after : Machine} {stmt body : Stmt} {rest : List Stmt}
  {e left right : Expr} {value : Datum}

theorem eval_binary {op : BinaryOp} {k l kind : Kind} {a b : Int} (hop : op ≠ .shiftRight)
    (hkind : k.common l = kind) (hleft : eval scope left m = some (.int k a, mid))
    (hright : eval scope right mid = some (.int l b, after)) (ha : kind.Has a)
    (hb : kind.Has b) :
    eval scope (.binary op left right) m = (op.combine kind a b).map (·, after) := by
  subst hkind
  rw [eval, hleft]
  simp only [Option.bind_eq_bind, Option.bind_some, hright, BinaryOp.apply_int hop ha hb]
  cases op.combine (k.common l) a b <;> rfl

theorem eval_natural {op : BinaryOp} {k l kind : Kind} {a b n : Nat}
    (hop : op.natural? a b = some n) (hkind : k.common l = kind)
    (hleft : eval scope left m = some (.int k a, mid))
    (hright : eval scope right mid = some (.int l b, after)) (ha : kind.Has a)
    (hb : kind.Has b) (hn : kind.Has n) :
    eval scope (.binary op left right) m = some (.int kind n, after) := by
  have hshift : op ≠ .shiftRight := by
    rintro rfl
    cases hop
  rw [eval_binary hshift hkind hleft hright ha hb, BinaryOp.combine_natural hop hn,
    Option.map_some]

theorem eval_compare {op : BinaryOp} {k l kind : Kind} {a b : Nat} {outcome : Bool}
    (hop : op.compare? a b = some outcome) (hkind : k.common l = kind)
    (hleft : eval scope left m = some (.int k a, mid))
    (hright : eval scope right mid = some (.int l b, after)) (ha : kind.Has a)
    (hb : kind.Has b) :
    eval scope (.binary op left right) m = some (.ofBool outcome, after) := by
  have hshift : op ≠ .shiftRight := by
    rintro rfl
    cases hop
  rw [eval_binary hshift hkind hleft hright ha hb, BinaryOp.combine_compare kind hop,
    Option.map_some]

theorem eval_not (he : eval scope e m = some (value, after)) :
    eval scope (.not e) m = some (.ofBool (!value.isTrue), after) := by
  rw [eval, he]
  rfl

theorem exec_assign {name : String} {type : CType} {stored : Datum}
    (he : eval scope e m = some (value, after)) (htype : scope.typeOf? name = some type)
    (hstored : value.convert type = some stored) :
    exec scope (.assign (.name name) e) m = some (none, after.set name stored) := by
  simp [exec, he, store, htype, hstored]

theorem exec_assign_deref {pointer : Expr} {referent : Referent} {k : Kind} {n : Nat}
    (he : eval scope e m = some (.int k n, mid))
    (hpointer : eval scope pointer mid = some (.pointer (some referent), after))
    (hn : Kind.u32.Has n) (hword : scope.isWord referent) :
    exec scope (.assign (.deref pointer) e) m =
      some (none, after.setWord referent (UInt32.ofNat n)) := by
  have hstored : (Datum.int k n).convert .u32 = some (.int .u32 n) := Datum.convert_int rfl hn
  simp only [exec, he, store, hpointer, hstored, hword, Option.bind_eq_bind, Option.bind_some,
    if_true, uInt32_ofInt_natCast]

theorem exec_decrease {name : String} {type : CType} {stored : Datum}
    (he : eval scope (.binary .sub (.name name) e) m = some (value, after))
    (htype : scope.typeOf? name = some type) (hstored : value.convert type = some stored) :
    exec scope (.decrease (.name name) e) m = some (none, after.set name stored) := by
  simp only [exec, he, store, htype, hstored, Option.bind_eq_bind, Option.bind_some]

theorem pass_cons {type : CType} {name : String} {params : List (CType × String)}
    {values : List Datum} {stored : Datum} (hstored : value.convert type = some stored) :
    pass ((type, name) :: params) (value :: values) m = pass params values (m.set name stored) := by
  rw [pass, hstored]
  rfl

theorem declare_cons {name : String} {type : CType} {later : List (String × Option Expr)}
    {stored : Datum} (he : eval scope e m = some (value, after))
    (htype : scope.typeOf? name = some type) (hstored : value.convert type = some stored) :
    declare scope ((name, some e) :: later) m =
      declare scope later (after.set name stored) := by
  simp only [declare, he, store, htype, hstored, Option.bind_eq_bind, Option.bind_some]

theorem execAll_cons_next (h : exec scope stmt m = some (none, after)) :
    execAll scope (stmt :: rest) m = execAll scope rest after := by
  rw [execAll, h]
  rfl

theorem execAll_cons_return (h : exec scope stmt m = some (some value, after)) :
    execAll scope (stmt :: rest) m = some (some value, after) := by
  rw [execAll, h]
  rfl

theorem execAll_append (first rest : List Stmt) :
    execAll scope (first ++ rest) m =
      (execAll scope first m).bind fun
        | (none, after) => execAll scope rest after
        | (some value, after) => some (some value, after) := by
  induction first generalizing m with
  | nil => rfl
  | cons stmt first ih =>
    rw [List.cons_append, execAll, execAll]
    cases exec scope stmt m with
    | none => rfl
    | some result =>
      obtain ⟨_ | value, after⟩ := result
      · exact ih
      · rfl

theorem execAll_append_next {first : List Stmt} (h : execAll scope first m = some (none, after)) :
    execAll scope (first ++ rest) m = execAll scope rest after := by
  rw [execAll_append, h]
  rfl

theorem execAll_append_return {first : List Stmt}
    (h : execAll scope first m = some (some value, after)) :
    execAll scope (first ++ rest) m = some (some value, after) := by
  rw [execAll_append, h]
  rfl

theorem exec_when_skip (h : eval scope e m = some (value, after)) (hvalue : value.isTrue = false) :
    exec scope (.when e body) m = some (none, after) := by
  simp [exec, h, hvalue]

theorem exec_when_take (h : eval scope e m = some (value, after)) (hvalue : value.isTrue) :
    exec scope (.when e body) m = exec scope body after := by
  simp [exec, h, hvalue]

end

end Code
end ProbeTrace
