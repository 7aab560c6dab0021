/-!
# Command-line arguments

Options may stand before and after the command, and among its operands. An option's value follows
it or an equals sign, or its letter directly; letters may be joined. After two dashes everything is
an operand.
-/
namespace TypeForm

/-- What a run is to do. -/
inductive Command where
  | compile (schema : String) (fields : Bool) (output : Option String)
  | validate (schema : String) (documents : List String) (fields : Bool) (output : Option String)
  | tags
deriving DecidableEq, Repr

/-- A command with the options that every command has. -/
structure Invocation where
  config : Option String
  verbose : Bool
  command : Command
deriving DecidableEq, Repr

/-- What the arguments ask for. -/
inductive Request where
  | run (invocation : Invocation)
  | version
  | help
deriving DecidableEq, Repr

namespace Arguments

/-- The options. -/
inductive Switch where
  | config
  | verbose
  | fields
  | output
  | help
  | version
deriving DecidableEq, Repr

namespace Switch

def name : Switch → String
  | config => "config"
  | verbose => "verbose"
  | fields => "fields"
  | output => "output"
  | help => "help"
  | version => "version"

def letter? : Switch → Option Char
  | config => some 'c'
  | verbose => some 'v'
  | fields => none
  | output => some 'o'
  | help => some 'h'
  | version => some 'V'

def takesValue : Switch → Bool
  | config | output => true
  | _ => false

end Switch

/-- Options before the command. -/
def generalSwitches : List Switch := [.config, .verbose, .help, .version]

/-- Options after a command that reads a schema. -/
def schemaSwitches : List Switch := [.config, .verbose, .fields, .output, .help]

/-- Options after a command without operands. -/
def bareSwitches : List Switch := [.config, .verbose, .help]

/-- One use of an option: without value, with a value, or with a value still to come. -/
inductive Use where
  | plain (switch : Switch)
  | valued (switch : Switch) (value : String)
  | pending (switch : Switch)
deriving DecidableEq, Repr

/-- The use that an argument after two dashes makes of an option. -/
def longUse? (switches : List Switch) (body : List Char) : Option Use := do
  let name := String.ofList (body.takeWhile (· != '='))
  let switch ← switches.find? fun switch => switch.name == name
  match body.dropWhile (· != '='), switch.takesValue with
  | [], true => some (.pending switch)
  | [], false => some (.plain switch)
  | _ :: value, true => some (.valued switch (String.ofList value))
  | _ :: _, false => none

/-- The uses that joined letters make of options, as far as the letters are known; the flag tells
whether all were. A letter whose option takes a value ends them, and the characters after it are
the value. -/
def letterUses (switches : List Switch) : List Char → List Use × Bool
  | [] => ([], true)
  | c :: rest =>
    match switches.find? fun switch => switch.letter? == some c with
    | none => ([], false)
    | some switch =>
      if switch.takesValue then
        match rest with
        | [] => ([.pending switch], true)
        | '=' :: value => ([.valued switch (String.ofList value)], true)
        | value => ([.valued switch (String.ofList value)], true)
      else
        let (uses, known) := letterUses switches rest
        (.plain switch :: uses, known)

/-- What was given so far. -/
structure Given where
  flags : List Switch
  values : List (Switch × String)
  operands : List String
deriving DecidableEq, Repr

namespace Given

def nothing : Given := ⟨[], [], []⟩

def has (given : Given) (switch : Switch) : Bool :=
  given.flags.contains switch

def value? (given : Given) (switch : Switch) : Option String :=
  (given.values.find? fun entry => entry.1 == switch).map (·.2)

/-- Give an option a value that is not empty, once. -/
def addValue? (given : Given) (switch : Switch) (value : String) : Option Given :=
  if value.isEmpty || (given.value? switch).isSome then none
  else some { given with values := given.values ++ [(switch, value)] }

end Given

/-- How a stretch of arguments ends. -/
inductive Scan where
  /-- All arguments were used up. -/
  | done (given : Given)
  /-- An operand was found that is not wanted here; arguments follow it. -/
  | stopped (given : Given) (operand : String) (rest : List String)
  /-- Version or help was asked for. -/
  | asked (request : Request)
  /-- The arguments are wrong. -/
  | wrong

/-- How uses of options change what is given. Asking for version or help ends the scan, and so
does a mistake. A value still to come is left to the caller. -/
def useAll (given : Given) : List Use → Except Scan (Given × Option Switch)
  | [] => .ok (given, none)
  | .plain .help :: _ => .error (.asked .help)
  | .plain .version :: _ => .error (.asked .version)
  | .plain switch :: rest =>
    if given.has switch then .error .wrong
    else useAll { given with flags := given.flags ++ [switch] } rest
  | .valued switch value :: rest =>
    match given.addValue? switch value with
    | some given => useAll given rest
    | none => .error .wrong
  | .pending switch :: _ => .ok (given, some switch)

/-- The uses of options that an argument makes, and whether it makes sense to its end; `none` for
an operand. -/
def uses? (switches : List Switch) (argument : String) : Option (List Use × Bool) :=
  match argument.toList with
  | '-' :: '-' :: body =>
    match longUse? switches body with
    | some use => some ([use], true)
    | none => some ([], false)
  | '-' :: c :: letters => some (letterUses switches (c :: letters))
  | _ => none

/-- Whether an argument starts with a dash and is longer than that. -/
def isDashed (argument : String) : Bool :=
  match argument.toList with
  | '-' :: _ :: _ => true
  | _ => false

/-- Read arguments with the given options, and operands as long as `wanted` says that one more is
wanted. -/
def scan (switches : List Switch) (wanted : Given → Bool) (given : Given) : List String → Scan
  | [] => .done given
  | argument :: rest =>
    if argument == "--" then
      .done { given with operands := given.operands ++ rest }
    else
      match uses? switches argument with
      | none =>
        if argument.isEmpty then .wrong
        else if wanted given then
          scan switches wanted { given with operands := given.operands ++ [argument] } rest
        else .stopped given argument rest
      | some (uses, sensible) =>
        match useAll given uses with
        | .error ending => ending
        | .ok (_, some switch) =>
          match rest with
          | [] => .wrong
          | value :: rest =>
            if isDashed value then .wrong
            else
              match useAll given (uses.dropLast ++ [.valued switch value]) with
              | .ok (given, _) => scan switches wanted given rest
              | .error ending => ending
        | .ok (given, none) => if sensible then scan switches wanted given rest else .wrong

/-- The command with the given options and operands. -/
def command? (name : String) (given : Given) : Option Command :=
  let fields := given.has .fields
  let output := given.value? .output
  match name, given.operands with
  | "compile", [schema] => some (.compile schema fields output)
  | "validate", schema :: document :: documents =>
    some (.validate schema (document :: documents) fields output)
  | "tags", [] => some .tags
  | _, _ => none

/-- The options of a command, and the greatest number of its operands if there is one. -/
def grammar? : String → Option (List Switch × Option Nat)
  | "compile" => some (schemaSwitches, some 1)
  | "validate" => some (schemaSwitches, none)
  | "tags" => some (bareSwitches, some 0)
  | _ => none

/-- Whether one more operand is within a limit. -/
def withinLimit (limit : Option Nat) (given : Given) : Bool :=
  limit.all fun most => given.operands.length < most

/-- Help may be asked for with at most one argument more, which names a command; help is one. -/
def helpRequest? : List String → Option Request
  | [] => some .help
  | [name] => if name == "help" || (grammar? name).isSome then some .help else none
  | _ => none

/-- What the arguments of a command ask for, after the options before it. -/
def parseCommand (before : Given) (name : String) (rest : List String) : Option Request :=
  if name == "help" then helpRequest? rest
  else do
    let (switches, limit) ← grammar? name
    match scan switches (withinLimit limit) .nothing rest with
    | .asked request => some request
    | .done given =>
      if given.operands.any String.isEmpty then none
      else
        let command ← command? name given
        some <| .run
          { config := (given.value? .config) <|> (before.value? .config)
            verbose := before.has .verbose || given.has .verbose
            command }
    | .stopped _ _ _ | .wrong => none

/-- What the arguments ask for; `none` if they are wrong. -/
def parse? (arguments : List String) : Option Request :=
  match scan generalSwitches (fun _ => false) .nothing arguments with
  | .asked request => some request
  | .stopped given name rest => parseCommand given name rest
  | .done _ | .wrong => none

end Arguments
end TypeForm
