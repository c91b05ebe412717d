import ProbeTrace.Command.Settings

/-!
# Command lines

Arguments are taken from left to right. An option waits for its value, and a
value that came as an argument of its own is not read before the next option or
value is there: of an unknown option and a bad value in front of it, the unknown
option is what is told. A value that is attached to its option is read at once.
-/

set_option autoImplicit false

namespace ProbeTrace

/-- Why a command line does not lead to a run. -/
inductive Stop where
  | help
  | version
  | misuse (error : UsageError)
  deriving DecidableEq, Repr

/-- A command line of which some arguments have been taken. -/
structure CommandLine where
  settings : Settings
  /-- The parameters that have been set. -/
  given : List Param
  /-- A parameter whose value has not come or has not been read. -/
  pending : Option (Param × Option String)
  /-- All further arguments are values. -/
  valuesOnly : Bool
  deriving Repr

namespace CommandLine

def empty : CommandLine :=
  ⟨Settings.standard, [], none, false⟩

def misuse {α : Type} (error : UsageError) : Except Stop α :=
  .error (.misuse error)

def unknown {α : Type} (text : String) : Except Stop α :=
  misuse (.unknownArgument text)

def put (line : CommandLine) (param : Param) (text : String) : Except Stop CommandLine :=
  if param.kind = .single ∧ param ∈ line.given then misuse (.repeated param)
  else
    match line.settings.assign param text with
    | .error error => misuse error
    | .ok settings => .ok { line with settings, given := param :: line.given }

def settle (line : CommandLine) : Except Stop CommandLine :=
  match line.pending with
  | none => .ok line
  | some (param, none) => misuse (.missingValue param)
  | some (param, some text) => { line with pending := none }.put param text

/-- An option with its value attached. -/
def attach (line : CommandLine) (param : Param) (text : String) : Except Stop CommandLine := do
  (← line.settle).put param text

def await (line : CommandLine) (param : Param) : Except Stop CommandLine := do
  return { ← line.settle with pending := some (param, none) }

def mark (line : CommandLine) (param : Param) : Except Stop CommandLine := do
  let line ← line.settle
  match param.kind with
  | .question => .error (if param = .help then .help else .version)
  | .switch =>
    if param ∈ line.given then misuse (.repeated param)
    return { line with settings := line.settings.mark param, given := param :: line.given }
  | _ => return { line with settings := line.settings.mark param, given := param :: line.given }

/-- Letters after one dash. The first that takes a value has the rest as its value,
with or without an equals sign. -/
def letters (line : CommandLine) : List Char → Except Stop CommandLine
  | [] => .ok line
  | c :: rest =>
    match Param.ofLetter? c with
    | none => unknown (String.ofList ['-', c])
    | some param =>
      if param.takesValue then
        match rest with
        | [] => line.await param
        | '=' :: value => line.attach param (String.ofList value)
        | value => line.attach param (String.ofList value)
      else do
        let line ← line.mark param
        line.letters rest

/-- A name after two dashes, with a value after an equals sign if there is one. -/
def name (line : CommandLine) (text : List Char) : Except Stop CommandLine :=
  let word := String.ofList (text.takeWhile (· ≠ '='))
  let value := (text.dropWhile (· ≠ '=')).tail?.map String.ofList
  match Param.ofName? word, value with
  | none, _ => unknown ("--" ++ String.ofList text)
  | some param, some value =>
    if param.takesValue then line.attach param value else misuse (.unneededValue param)
  | some param, none => if param.takesValue then line.await param else line.mark param

/-- A value that no option waits for is the process, and there is only one. -/
def place (line : CommandLine) (text : String) : Except Stop CommandLine :=
  if line.pending.any (fun waiting => waiting.1 = .pid) ∨ .pid ∈ line.given then unknown text
  else do
    return { ← line.settle with pending := some (.pid, some text) }

def value (line : CommandLine) (text : String) : Except Stop CommandLine :=
  match line.pending with
  | some (param, none) => .ok { line with pending := some (param, some text) }
  | _ => line.place text

/-- Takes one argument. A single dash is a value. -/
def take (line : CommandLine) (text : String) : Except Stop CommandLine :=
  if line.valuesOnly then line.place text
  else
    match text.toList with
    | ['-', '-'] => .ok { line with valuesOnly := true }
    | '-' :: '-' :: rest => line.name rest
    | '-' :: c :: rest => line.letters (c :: rest)
    | _ => line.value text

/-- The parameters that every run needs. -/
def needed : List Param := [.pid, .probes]

def finish (line : CommandLine) : Except Stop Settings := do
  let line ← line.settle
  match needed.find? fun param => param ∉ line.given with
  | some param => misuse (.unset param)
  | none => return line.settings

def read (arguments : List String) : Except Stop Settings := do
  (← arguments.foldlM take empty).finish

end CommandLine
end ProbeTrace
