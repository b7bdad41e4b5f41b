import Mender.Command.Request

namespace Mender.Command

inductive Argument where
  | verbose
  | help
  | version
  | config
  | source
  | command
  | testFile
  | test
  | lookahead
  | json
  | file
  deriving DecidableEq, Repr, Inhabited

namespace Argument

def takesValue : Argument → Bool
  | config | source | command | testFile | test | lookahead | file => true
  | verbose | help | version | json => false

def isPath : Argument → Bool
  | config | source | testFile | file => true
  | _ => false

end Argument

structure Grammar where
  long : List (String × Argument)
  short : List (Char × Argument)
  positional : Option Argument
  hasSubcommands : Bool

def rootGrammar : Grammar :=
  ⟨[("verbose", .verbose), ("help", .help), ("version", .version)],
    [('v', .verbose), ('h', .help), ('V', .version)], none, true⟩

def repairGrammar : Grammar :=
  ⟨[("verbose", .verbose), ("help", .help), ("config", .config), ("source", .source),
      ("command", .command), ("test-file", .testFile), ("test", .test),
      ("lookahead", .lookahead), ("json", .json)],
    [('v', .verbose), ('h', .help), ('c', .config)], none, false⟩

def hotspotsGrammar : Grammar :=
  ⟨[("verbose", .verbose), ("help", .help), ("json", .json)],
    [('v', .verbose), ('h', .help)], some .file, false⟩

structure Matches where
  found : List (Argument × String) := []
  /-- An argument whose value may still come, and the value if it came. -/
  pending : Option (Argument × Option String) := none
  deriving DecidableEq, Repr, Inhabited

namespace Matches

def value? (m : Matches) (a : Argument) : Option String := (m.found.find? (·.1 = a)).map (·.2)

def values (m : Matches) (a : Argument) : List String :=
  (m.found.filter (·.1 = a)).map (·.2)

def has (m : Matches) (a : Argument) : Bool := (m.value? a).isSome

end Matches

def numberLimit : Nat := 0x10000000000000000

def number? (s : String) : Option Nat :=
  let ds := match s.toList with
    | '+' :: ds => ds
    | ds => ds
  if ds ≠ [] ∧ ds.all Char.isDigit then
    let n := ds.foldl (fun n c => 10 * n + (c.toNat - 48)) 0
    if n < numberLimit then some n else none
  else none

def accept (m : Matches) (a : Argument) (v : Option String) : Except UsageFault Matches :=
  if a = .help then .error .displayHelp
  else if a = .version then .error .displayVersion
  else if a.takesValue ∧ v.isNone then .error .invalidValue
  else if m.has a ∧ a ≠ .test then .error .argumentConflict
  else
    let v := v.getD ""
    if a.isPath ∧ v = "" then .error .invalidValue
    else if a = .lookahead ∧ (number? v).isNone then .error .valueValidation
    else .ok { m with found := m.found ++ [(a, v)] }

def settle (m : Matches) : Except UsageFault Matches :=
  match m.pending with
  | none => .ok m
  | some (a, v) => accept { m with pending := none } a v

def meetOption (m : Matches) (a : Argument) (joined : Option String) :
    Except UsageFault Matches := do
  let m ← settle m
  match joined with
  | some v => accept m a (some v)
  | none => return { m with pending := some (a, none) }

def meetFlag (m : Matches) (a : Argument) : Except UsageFault Matches := do
  accept (← settle m) a none

def splitJoined (cs : List Char) : String × Option String :=
  let name := cs.takeWhile (· ≠ '=')
  match cs.drop name.length with
  | _ :: value => (.ofList name, some (.ofList value))
  | [] => (.ofList name, none)

def meetLong (g : Grammar) (m : Matches) (cs : List Char) : Except UsageFault Matches :=
  let (name, joined) := splitJoined cs
  match g.long.lookup name with
  | none => .error .unknownArgument
  | some a =>
    if a.takesValue then meetOption m a joined
    else if joined.isSome then .error .tooManyValues
    else meetFlag m a

/-- Reads the letters behind a single dash; the first that takes a value takes all that follow. -/
def meetShort (g : Grammar) (m : Matches) : List Char → Except UsageFault Matches
  | [] => .ok m
  | c :: cs =>
    match g.short.lookup c with
    | none => .error .unknownArgument
    | some a =>
      if a.takesValue then
        match cs with
        | [] => meetOption m a none
        | '=' :: v => meetOption m a (some (.ofList v))
        | v => meetOption m a (some (.ofList v))
      else do meetShort g (← meetFlag m a) cs

def meetPositional (g : Grammar) (m : Matches) (s : String) : Except UsageFault Matches :=
  match g.positional with
  | some a =>
    if m.has a ∨ m.pending.any (·.1 = a) then .error .unknownArgument
    else do return { (← settle m) with pending := some (a, some s) }
  | none => .error (if g.hasSubcommands then .invalidSubcommand else .unknownArgument)

def meet (g : Grammar) (m : Matches) (s : String) : Except UsageFault Matches :=
  match s.toList, m.pending with
  | '-' :: '-' :: cs, _ => meetLong g m cs
  | '-' :: c :: cs, _ => meetShort g m (c :: cs)
  | _, some (a, none) => .ok { m with pending := some (a, some s) }
  | _, _ => meetPositional g m s

def readTrailing (g : Grammar) : Matches → List String → Except UsageFault Matches
  | m, [] => settle m
  | m, s :: rest => do readTrailing g (← meetPositional g m s) rest

def readArguments (g : Grammar) : Matches → List String → Except UsageFault Matches
  | m, [] => settle m
  | m, s :: rest =>
    if s = "--" then readTrailing g m rest else do readArguments g (← meet g m s) rest

def subcommands : List String := ["repair", "hotspots", "help"]

def readRepair (arguments : List String) : Except UsageFault (Bool × Request) := do
  let m ← readArguments repairGrammar {} arguments
  let default : RepairArguments := {}
  return (m.has .verbose, .repair {
    config := (m.value? .config).getD default.config
    overrides := {
      source := m.value? .source
      command := m.value? .command
      testFile := m.value? .testFile
      tests := m.values .test
      lookahead := (m.value? .lookahead).bind number? }
    json := m.has .json })

def readHotspots (arguments : List String) : Except UsageFault (Bool × Request) := do
  let m ← readArguments hotspotsGrammar {} arguments
  match m.value? .file with
  | some file => return (m.has .verbose, .hotspots file (m.has .json))
  | none => .error .missingRequiredArgument

def readHelp : List String → UsageFault
  | [] => .displayHelp
  | [s] => if s ∈ subcommands then .displayHelp else .invalidSubcommand
  | _ => .invalidSubcommand

def readRoot : Matches → List String → Except UsageFault Invocation
  | m, [] => do return ⟨(← settle m).has .verbose, none⟩
  | m, s :: rest =>
    let told (r : Except UsageFault (Bool × Request)) : Except UsageFault Invocation := do
      let (verbose, request) ← r
      return ⟨verbose || m.has .verbose, some request⟩
    match s with
    | "repair" => told (readRepair rest)
    | "hotspots" => told (readHotspots rest)
    | "help" => .error (readHelp rest)
    | "--" =>
      match rest with
      | [] => .ok ⟨m.has .verbose, none⟩
      | s :: _ => .error (if s ∈ subcommands then .unknownArgument else .invalidSubcommand)
    | _ => do readRoot (← meet rootGrammar m s) rest

def Invocation.read (arguments : List String) : Except UsageFault Invocation :=
  readRoot {} arguments

end Mender.Command
