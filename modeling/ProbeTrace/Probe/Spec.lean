import ProbeTrace.Probe.Error
import ProbeTrace.Record.Layout

/-!
# Probe descriptions

A description is checked once, when it is built, and trusted afterwards. Names
are identifiers, record fields are distinct and differ from those of the header,
and at most one argument is a long text, at top level. The checks run in a fixed
order, the arguments from left to right, and the first that fails is reported.
-/

set_option autoImplicit false

namespace ProbeTrace

/-- How often a probe is recorded, and the shape of its chunk ring. -/
structure Tuning where
  sampling : Float
  chunkSize : UInt32
  chunkCount : UInt32
  deriving Repr

namespace Tuning

def defaultChunkSize : UInt32 := 2 * 1024 * 1024

def defaultChunkCount : UInt32 := 64

/-- Every firing, and 64 chunks of two mebibytes. -/
def standard : Tuning :=
  ⟨1.0, defaultChunkSize, defaultChunkCount⟩

end Tuning

structure ProbeSpec where
  name : String
  provider : Option String
  args : List Arg
  tuning : Tuning
  deriving Repr

namespace ProbeSpec

def isIdentifierStart (c : Char) : Bool :=
  c.isAlpha || c = '_'

def isIdentifierRest (c : Char) : Bool :=
  c.isAlphanum || c = '_'

/-- Letters, digits and underscores of ASCII, no digit first. -/
def isIdentifier (name : String) : Bool :=
  match name.toList with
  | [] => false
  | c :: rest => isIdentifierStart c && rest.all isIdentifierRest

def checkIdentifier (name : String) : Except SpecError Unit :=
  if isIdentifier name then .ok () else .error (.invalidName name)

/-- Adds field names to those in use; none may be there already. -/
def claimFields (probe : String) : List String → List String → Except SpecError (List String)
  | used, [] => .ok used
  | used, field :: rest =>
    if field ∈ used then .error (.duplicateField probe field)
    else claimFields probe (field :: used) rest

/-- The check of a single value; the result is the field names in use after it. -/
def checkLeaf (probe : String) (used : List String) (place : Place) (kind : Leaf) :
    Except SpecError (List String) := do
  checkIdentifier place.name
  if kind = .text 0 then .error (.zeroLengthText probe place.name)
  claimFields probe used ((RecordLayout.leafSlots place kind).map Prod.fst)

mutual
def checkArg (probe : String) (used : List String) : Arg → Except SpecError (List String)
  | .leaf place kind => checkLeaf probe used place kind
  | .struct place members => do
    checkIdentifier place.name
    if members.isEmpty then .error (.emptyStruct probe place.name)
    if Arg.anyLongText members then .error (.nestedLongText probe place.name)
    checkArgs probe used members

def checkArgs (probe : String) (used : List String) : List Arg → Except SpecError (List String)
  | [] => .ok used
  | arg :: rest => do
    let used ← checkArg probe used arg
    checkArgs probe used rest
end

/-- A long text that takes its length from an argument needs an integer there. -/
def checkLengthArg (probe : String) (args : List Arg) : Arg → Except SpecError Unit
  | .leaf place (.longText (some index)) =>
    if args[index]?.any Arg.isInteger then .ok ()
    else .error (.badLengthArg probe place.name index)
  | _ => .ok ()

/-- The check of the top-level arguments from left to right, after those with the given names. -/
def checkTop (probe : String) (args : List Arg) :
    List String → List String → List Arg → Except SpecError Unit
  | _, _, [] => .ok ()
  | names, used, arg :: rest => do
    if arg.name ∈ names then .error (.duplicateArg probe arg.name)
    checkLengthArg probe args arg
    let used ← checkArg probe used arg
    checkTop probe args (arg.name :: names) used rest

def isSamplingFraction (fraction : Float) : Bool :=
  fraction > 0.0 && fraction <= 1.0

def longTexts (args : List Arg) : List Arg :=
  args.filter Arg.isLongText

/-- Places the declared arguments and checks the whole description. -/
def build (name : String) (decls : List ArgDecl) (tuning : Tuning) :
    Except SpecError ProbeSpec := do
  checkIdentifier name
  if !isSamplingFraction tuning.sampling then .error (.invalidSampling name tuning.sampling)
  let args := ArgDecl.placedFrom [] 0 decls
  if 1 < (longTexts args).length then .error (.multipleLongTexts name)
  if (longTexts args).length = 1 ∧ (tuning.chunkSize = 0 ∨ tuning.chunkCount = 0) then
    .error (.invalidChunking name)
  checkTop name args [] RecordLayout.reserved args
  return ⟨name, none, args, tuning⟩

def withProvider (spec : ProbeSpec) (provider : String) : ProbeSpec :=
  { spec with provider := some provider }

def longText? (spec : ProbeSpec) : Option Arg :=
  spec.args.find? Arg.isLongText

def layout (spec : ProbeSpec) : RecordLayout :=
  RecordLayout.ofArgs spec.args

end ProbeSpec
end ProbeTrace
