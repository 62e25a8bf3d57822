import Gatehouse.Edge.Startup

/-!
# The command line

The gate is told where its configuration is and at which address to listen instead of
the configured one.  Without a file the configuration comes from variables.

Main results:

- Theorem {lit}`parse_nil`: no arguments are needed.
-/

namespace Gatehouse
namespace CommandLine

/-! ## Arguments -/

/-- An option with a value. -/
inductive Setting where
  | config
  | bind
deriving DecidableEq, Repr

namespace Setting

/-- The name of an option. -/
def name : Setting → String
  | config => "config"
  | bind => "bind"

/-- How an option is shown in messages. -/
def shown (s : Setting) : String := "--" ++ s.name ++ " <" ++ Text.upper s.name ++ ">"

/-- The option of a name. -/
def ofName? (name : String) : Option Setting := [config, bind].find? (·.name == name)

end Setting

/-- Why arguments are refused. -/
inductive UsageFault where
  | unexpected (argument : String)
  /-- An option stands without a value. -/
  | noValue (setting : Setting)
  | repeated (setting : Setting)
  /-- The option that asks for help has a value. -/
  | helpValue (value : String)
deriving DecidableEq, Repr

/-- The wording of a fault. -/
def UsageFault.message : UsageFault → String
  | unexpected argument => "error: unexpected argument '" ++ argument ++ "' found"
  | noValue setting =>
      "error: a value is required for '" ++ setting.shown ++ "' but none was supplied"
  | repeated setting =>
      "error: the argument '" ++ setting.shown ++ "' cannot be used multiple times"
  | helpValue value =>
      "error: unexpected value '" ++ value ++ "' for '--help' found; no more were expected"

/-- What the arguments say. -/
structure Arguments where
  config : Option String := none
  bind : Option String := none
deriving DecidableEq, Repr

/-- The value of an option. -/
def Arguments.value (a : Arguments) : Setting → Option String
  | .config => a.config
  | .bind => a.bind

/-- Gives an option a value.  It must not have one, and the name of a file is not
empty. -/
def Arguments.give (a : Arguments) (setting : Setting) (value : String) :
    Except UsageFault Arguments :=
  if (a.value setting).isSome then .error (.repeated setting)
  else if setting = .config ∧ value = "" then .error (.noValue setting)
  else
    match setting with
    | .config => .ok { a with config := some value }
    | .bind => .ok { a with bind := some value }

/-- What is asked for. -/
inductive Request where
  | run (arguments : Arguments)
  | help
deriving DecidableEq, Repr

/-- An argument, taken apart. -/
inductive Word where
  /-- Nothing but values follows. -/
  | escape
  | long (name : String) (value : Option String)
  | short (letter : Char) (rest : List Char)
  | plain

/-- Takes an argument apart. -/
def Word.ofText (text : String) : Word :=
  match text.toList with
  | ['-', '-'] => escape
  | '-' :: '-' :: rest =>
      match Text.splitOnceList '=' rest with
      | some (name, value) => long (String.ofList name) (some (String.ofList value))
      | none => long (String.ofList rest) none
  | '-' :: letter :: rest => short letter rest
  | _ => plain

/-- An option whose value has been read or is awaited. -/
structure Pending where
  setting : Setting
  value : Option String

/-- Settles an option: it needs a value. -/
def settle (a : Arguments) : Option Pending → Except UsageFault Arguments
  | none => .ok a
  | some ⟨setting, some value⟩ => a.give setting value
  | some ⟨setting, none⟩ => .error (.noValue setting)

/-- Reads arguments.  An unknown argument is told before the faults of the options in
front of it. -/
def parseFrom (a : Arguments) (pending : Option Pending) : List String → Except UsageFault Request
  | [] => (settle a pending).map .run
  | text :: rest =>
      match Word.ofText text with
      | .escape =>
          match rest with
          | [] => (settle a pending).map .run
          | next :: _ => .error (.unexpected next)
      | .long name value =>
          match Setting.ofName? name with
          | some setting => do
              parseFrom (← settle a pending) (some ⟨setting, value⟩) rest
          | none =>
              if name = "help" then
                match value with
                | some value => .error (.helpValue value)
                | none => (settle a pending).map fun _ => .help
              else .error (.unexpected ("--" ++ name))
      | .short letter _ =>
          if letter = 'h' then (settle a pending).map fun _ => .help
          else .error (.unexpected (String.ofList ['-', letter]))
      | .plain =>
          match pending with
          | some ⟨setting, none⟩ => parseFrom a (some ⟨setting, some text⟩) rest
          | _ => .error (.unexpected text)

/-- What the arguments ask for. -/
def parse (arguments : List String) : Except UsageFault Request :=
  parseFrom { } none arguments

/-- No arguments are needed. -/
theorem parse_nil : parse [] = .ok (.run { }) := rfl

/-! ## Running -/

/-- How a run ends before the gate listens, or that it listens. -/
inductive Ending where
  | listening (settings : Settings)
  | help
  | usage (fault : UsageFault)
  | failed (fault : StartFault)

namespace Ending

/-- The code that a run ends with; one that listens ends well when it is stopped. -/
def code : Ending → Nat
  | listening _ | help => 0
  | usage _ => 2
  | failed _ => 1

/-- What is written to the error output. -/
def complaint : Ending → String
  | listening _ | help => ""
  | usage fault => fault.message
  | failed fault => "Error: " ++ fault.message

/-- Whether the gate listens. -/
def isListening : Ending → Bool
  | listening _ => true
  | _ => false

end Ending

/-- What is said when help is asked for. -/
def helpText : String :=
  "Tactix authenticating edge\n\nUsage: tactix-gateway [OPTIONS]\n\nOptions:\n" ++
    "      --config <CONFIG>  TOML config file. Without it, " ++
    "configuration comes from the environment\n" ++
    "      --bind <BIND>      Listen address, overriding the configured one\n" ++
    "  -h, --help             Print help\n"

/-- The file that the arguments name. -/
def configPath? (arguments : List String) : Option String :=
  match parse arguments with
  | .ok (.run a) => a.config
  | _ => none

/-- The settings that the arguments name. -/
def settings (lookup : String → Option String) (readFile : String → Option String)
    (a : Arguments) : Except ConfigFault Settings := do
  let s ← match a.config with
    | some path => Config.ofFile lookup path (readFile path)
    | none => Config.ofVariables lookup
  return { s with bind := a.bind.getD s.bind }

/-- Runs the gate up to where it listens, with variables, files and a time. -/
def run (lookup : String → Option String) (readFile : String → Option String)
    (now : Json.Word) (arguments : List String) : Ending :=
  match parse arguments with
  | .error fault => .usage fault
  | .ok .help => .help
  | .ok (.run a) =>
      match settings lookup readFile a with
      | .error fault => .failed (.settings fault)
      | .ok s =>
          match s.start now with
          | .error fault => .failed fault
          | .ok _ => .listening s

end CommandLine
end Gatehouse
