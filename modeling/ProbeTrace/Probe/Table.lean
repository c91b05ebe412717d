import ProbeTrace.Json.Typed
import ProbeTrace.Probe.Spec

/-!
# Probe tables

A table names a provider and lists probes. It is a document in which tables,
probes and arguments are records; the kind of an argument is a tag among its
members. The whole document is read before the first probe is built, so a fault
of form or shape anywhere comes before an error in a description.
-/

set_option autoImplicit false

namespace ProbeTrace

open Json (Mismatch Found)
open Json.Reader (Field Record)

inductive ArgKind where
  | int
  | long
  | ulong
  | char
  | ptr
  | str
  | longStr
  | struct
  deriving DecidableEq, Repr

namespace ArgKind

def all : List ArgKind :=
  [.int, .long, .ulong, .char, .ptr, .str, .longStr, .struct]

def word : ArgKind → String
  | .int => "int"
  | .long => "long"
  | .ulong => "ulong"
  | .char => "char"
  | .ptr => "ptr"
  | .str => "str"
  | .longStr => "long_str"
  | .struct => "struct"

def ofWord? (text : String) : Option ArgKind :=
  all.find? fun kind => kind.word = text

/-- How a list of the members of an argument is called, and how long it is. -/
def title : ArgKind → String
  | .int => "struct variant ArgJson::Int with 1 element"
  | .long => "struct variant ArgJson::Long with 1 element"
  | .ulong => "struct variant ArgJson::Ulong with 1 element"
  | .char => "struct variant ArgJson::Char with 1 element"
  | .ptr => "struct variant ArgJson::Ptr with 1 element"
  | .str => "struct variant ArgJson::Str with 2 elements"
  | .longStr => "struct variant ArgJson::LongStr with 2 elements"
  | .struct => "struct variant ArgJson::Struct with 2 elements"

def ofText (text : String) : Except Mismatch ArgKind :=
  match ofWord? text with
  | some kind => .ok kind
  | none => .error (.unknownKind text (all.map word))

/-- The tag of an argument inside another one may be a word or the number of one. -/
def ofTag : Json → Except Mismatch ArgKind
  | .string text => ofText text
  | .integer n =>
    match if 0 ≤ n then all[n.toNat]? else none with
    | some kind => .ok kind
    | none =>
      if 0 ≤ n then .error (.range (.integer n) "variant index 0 <= i < 8")
      else Json.refuse "variant identifier" (.integer n)
  | other => Json.refuse "variant identifier" other

end ArgKind

namespace ProbeTable

def argTitle : String := "internally tagged enum ArgJson"

def argTag : String := "type"

/-! ## Arguments -/

/-- The members of an argument with one value, as far as they are read. -/
structure LeafParts where
  name : Option (Option String)
  /-- The length of a text, or the argument a long text takes its length from. -/
  measure : Option (Option Nat)

/-- The name of the member that an argument has beside its own name, if it has one. -/
def measureName : ArgKind → Option String
  | .str => some "length"
  | .longStr => some "len_arg"
  | _ => none

def readMeasure (kind : ArgKind) (document : Json) : Except Mismatch (Option Nat) :=
  if kind = .str then some <$> Json.toWhole (Nat.pow 2 32) "u32" document
  else Json.toOption (Json.toWhole (Nat.pow 2 64) "usize") document

def readName : Json → Except Mismatch (Option String) :=
  Json.toOption Json.toText

/-- Takes the members of an argument with one value from left to right. -/
def leafParts (kind : ArgKind) : List (String × Json) → LeafParts → Except Mismatch LeafParts
  | [], parts => .ok parts
  | (key, document) :: rest, parts => do
    if key = "name" then
      if parts.name.isSome then .error (.repeatedMember key)
      leafParts kind rest { parts with name := some (← readName document) }
    else if measureName kind = some key then
      if parts.measure.isSome then .error (.repeatedMember key)
      leafParts kind rest { parts with measure := some (← readMeasure kind document) }
    else leafParts kind rest parts

/-- The argument with the given members; only the length of a text must be there. -/
def leafOf (kind : ArgKind) (parts : LeafParts) : Except Mismatch ArgDecl :=
  let name := parts.name.join
  match kind with
  | .int => .ok (.leaf name .int)
  | .long => .ok (.leaf name .long)
  | .ulong => .ok (.leaf name .ulong)
  | .char => .ok (.leaf name .char)
  | .ptr => .ok (.leaf name .pointer)
  | .longStr => .ok (.leaf name (.longText parts.measure.join))
  | .str =>
    match parts.measure.join with
    | some length => .ok (.leaf name (.text length))
    | none => .error (.missingMember "length")
  | .struct => .error (.missingMember "fields")

/-- The complaint about more items than there are members. -/
def overlong (items : List Json) (members : Nat) : Mismatch :=
  .count items.length
    (if members = 1 then "1 element in sequence" else s!"{members} elements in sequence")

def leafItems (kind : ArgKind) (items : List Json) : Except Mismatch LeafParts := do
  match items with
  | [] => .error (.count 0 kind.title)
  | first :: rest =>
    let name ← readName first
    match measureName kind, rest with
    | none, [] => return ⟨some name, none⟩
    | none, _ => .error (overlong items 1)
    | some _, [] => .error (.count 1 kind.title)
    | some _, second :: more =>
      let measure ← readMeasure kind second
      if more.isEmpty then return ⟨some name, some measure⟩
      else .error (overlong items 2)

/-- The tag among the members of an argument inside another one. -/
def tagIn : List (String × Json) → Option ArgKind → Except Mismatch ArgKind
  | [], some kind => .ok kind
  | [], none => .error (.missingMember argTag)
  | (key, document) :: rest, found => do
    if key = argTag then
      if found.isSome then .error (.repeatedMember argTag)
      tagIn rest (some (← ArgKind.ofTag document))
    else tagIn rest found

mutual
def argOf : Json → Except Mismatch ArgDecl
  | .object members => do
    match ← tagIn members none with
    | .struct => structOf members none none
    | kind => leafOf kind (← leafParts kind members ⟨none, none⟩)
  | .array [] => .error (.missingMember argTag)
  | .array (tag :: items) => do
    match ← ArgKind.ofTag tag with
    | .struct => structItems items
    | kind => leafOf kind (← leafItems kind items)
  | other => Json.refuse argTitle other

def structOf : List (String × Json) → Option (Option String) → Option (List ArgDecl) →
    Except Mismatch ArgDecl
  | [], name, some members => .ok (.struct name.join members)
  | [], _, none => .error (.missingMember "fields")
  | (key, document) :: rest, name, members => do
    if key = "name" then
      if name.isSome then .error (.repeatedMember key)
      structOf rest (some (← readName document)) members
    else if key = "fields" then
      if members.isSome then .error (.repeatedMember key)
      structOf rest name (some (← argsOf document))
    else structOf rest name members

/-- The name and the members of a structure in order. -/
def structItems : List Json → Except Mismatch ArgDecl
  | [] => .error (.count 0 (ArgKind.title .struct))
  | [name] => do
    let _ ← readName name
    .error (.count 1 (ArgKind.title .struct))
  | [name, members] => do
    let name ← readName name
    return .struct name (← argsOf members)
  | name :: members :: more => do
    let _ ← readName name
    let _ ← argsOf members
    .error (overlong (name :: members :: more) 2)

def argsOf : Json → Except Mismatch (List ArgDecl)
  | .array items => itemsOf items
  | other => Json.refuse "a sequence" other

def itemsOf : List Json → Except Mismatch (List ArgDecl)
  | [] => .ok []
  | item :: rest => do
    let arg ← argOf item
    return arg :: (← itemsOf rest)
end

/-- An argument of a known kind from its other members. -/
def argOfKind : ArgKind → Json → Except Mismatch ArgDecl
  | .struct, .object members => structOf members none none
  | .struct, .array items => structItems items
  | kind, .object members => do leafOf kind (← leafParts kind members ⟨none, none⟩)
  | kind, .array items => do leafOf kind (← leafItems kind items)
  | _, other => Json.refuse argTitle other

/-! ## Documents -/

/-- Levels of nesting around the members of an argument. -/
def memberLevel : Nat := 5

def kindReader : Json.Reader ArgKind :=
  Json.Reader.taking "variant identifier" fun document =>
    match document with
    | .string text => ArgKind.ofText text
    | other => Json.refuse "variant identifier" other

def argReader : Json.Reader ArgDecl := do
  let (kind, rest) ←
    Json.Reader.tagged argTitle argTag kindReader (Json.Reader.maxDepth - memberLevel)
  match argOfKind kind rest with
  | .ok arg => return arg
  | .error found => Json.Reader.mismatch found

structure ProbeEntry where
  name : String
  provider : Option String
  args : Option (List ArgDecl)
  sampling : Option Float
  chunkSize : Option UInt32
  chunkCount : Option UInt32

def entryRecord : Record ProbeEntry where
  title := "struct ProbeJson"
  blank := ⟨"", none, none, none, none, none⟩
  fields :=
    [⟨"name", true, fun e => do return { e with name := ← Json.Reader.text }⟩,
      ⟨"provider", false, fun e => do
        return { e with provider := ← Json.Reader.optional Json.Reader.text }⟩,
      ⟨"args", false, fun e => do
        return { e with args := ← Json.Reader.optional (Json.Reader.list argReader) }⟩,
      ⟨"sampling", false, fun e => do
        return { e with sampling := ← Json.Reader.optional Json.Reader.float }⟩,
      ⟨"chunk_size", false, fun e => do
        return { e with chunkSize := ← Json.Reader.optional Json.Reader.word32 }⟩,
      ⟨"chunk_count", false, fun e => do
        return { e with chunkCount := ← Json.Reader.optional Json.Reader.word32 }⟩]

structure TableEntry where
  provider : Option String
  probes : List ProbeEntry

def tableRecord : Record TableEntry where
  title := "struct ProbeTableJson"
  blank := ⟨none, []⟩
  fields :=
    [⟨"provider", false, fun t => do
        return { t with provider := ← Json.Reader.optional Json.Reader.text }⟩,
      ⟨"probes", true, fun t => do
        return { t with probes := ← Json.Reader.list entryRecord.reader }⟩]

end ProbeTable

/-- Values that hold for every probe of a table that does not set its own. -/
structure Overrides where
  sampling : Option Float
  chunkSize : Option UInt32
  chunkCount : Option UInt32
  deriving Repr

def Overrides.none : Overrides :=
  ⟨.none, .none, .none⟩

structure ProbeTable where
  provider : Option String
  probes : List ProbeSpec
  deriving Repr

inductive TableError where
  | document (fault : Json.Fault)
  | probe (error : SpecError)
  deriving Repr

namespace ProbeTable

/-- An entry's own values come first, then those for all, then the standard ones. -/
def tuning (overrides : Overrides) (entry : ProbeEntry) : Tuning where
  sampling := (entry.sampling.or overrides.sampling).getD Tuning.standard.sampling
  chunkSize := (entry.chunkSize.or overrides.chunkSize).getD Tuning.standard.chunkSize
  chunkCount := (entry.chunkCount.or overrides.chunkCount).getD Tuning.standard.chunkCount

def buildEntry (overrides : Overrides) (entry : ProbeEntry) : Except SpecError ProbeSpec := do
  let spec ← ProbeSpec.build entry.name (entry.args.getD []) (tuning overrides entry)
  return match entry.provider with
    | some provider => spec.withProvider provider
    | none => spec

/-- Builds probes in order; no name may be among those given or come twice. -/
def buildEntries (overrides : Overrides) :
    List String → List ProbeEntry → Except SpecError (List ProbeSpec)
  | _, [] => .ok []
  | names, entry :: rest => do
    if entry.name ∈ names then .error (.duplicateProbe entry.name)
    let spec ← buildEntry overrides entry
    return spec :: (← buildEntries overrides (entry.name :: names) rest)

def ofEntry (overrides : Overrides) (entry : TableEntry) : Except SpecError ProbeTable := do
  return ⟨entry.provider, ← buildEntries overrides [] entry.probes⟩

def read (data : Bytes) (overrides : Overrides) : Except TableError ProbeTable := do
  match Json.Reader.run tableRecord.reader data with
  | .error fault => .error (.document fault)
  | .ok entry =>
    match ofEntry overrides entry with
    | .error error => .error (.probe error)
    | .ok table => .ok table

end ProbeTable
end ProbeTrace
