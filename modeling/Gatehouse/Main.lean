import Gatehouse.CommandLine
import Gatehouse.Edge.Wire
import Gatehouse.Time.Rfc3339

/-!
# The program

The program reads its arguments, variables and configuration file, starts the gate, and
answers the requests of one connection, which it has as its standard input and output.
The audit log goes to the error output.  No service is reached from here, so what would
be forwarded is answered as a failure of the gateway.
-/

namespace Gatehouse
namespace Program

/-- The content of a file, if it can be read. -/
def fileContent (path : String) : IO (Option String) := do
  try
    return some (← IO.FS.readFile path)
  catch _ => return none

/-- The values of some variables. -/
def valuesOf (names : List String) : IO (String → Option String) := do
  let values ← names.mapM fun name => do return (name, ← IO.getEnv name)
  return fun name => (values.lookup name).join

/-- The seconds since the start of 1970: when the system started, and how long it has been
running. -/
def secondsNow : IO Nat := do
  let started := ((← fileContent "/proc/stat").map (Text.splitOn '\n')).getD []
  let line := started.findSome? fun line =>
    match Text.splitOn ' ' line with
    | ["btime", seconds] => (Text.parseNatural (Nat.pow 2 64) seconds).toOption
    | _ => none
  return line.getD 0 + (← IO.monoMsNow) / 1000

/-- The lines of a head, up to the empty line. -/
partial def readHead (input : IO.FS.Stream) : IO (List String) := do
  let line := Text.trim (← input.getLine)
  if line.isEmpty then return [] else return line :: (← readHead input)

/-- So many bytes, or fewer at the end. -/
partial def readBytes (input : IO.FS.Stream) (count : Nat) (read : ByteArray) : IO ByteArray := do
  if count ≤ read.size then return read
  let more ← input.read (USize.ofNat (count - read.size))
  if more.isEmpty then return read else readBytes input count (read ++ more)

/-- An entry of the audit log as a line. -/
def entryLine (e : AuditEntry) : String :=
  e.level ++ " " ++ e.message ++ " cid=" ++ e.correlation ++ " path=" ++ e.path ++
    (match e.verdict with
      | .accepted identity => " upn=" ++ identity.upn ++ " roles=" ++ identity.roles.display
      | .refused fault => " reason=" ++ fault.reason)

/-- Answers requests until there are no more. -/
partial def serve (settings : Settings) (input output : IO.FS.Stream) : IO Unit := do
  match Wire.request? (← readHead input) with
  | none => return
  | some r =>
      let body ← readBytes input (Wire.bodyLength r) ByteArray.empty
      let now ← secondsNow
      let random ← IO.getRandomBytes 16
      let surroundings : Surroundings :=
        ⟨Credential.freshId random.toList, (Timestamp.ofSeconds now).write, fun _ => none, false⟩
      match Gate.ofSettings settings (Json.Word.ofNat now) with
      | .error _ => return
      | .ok gate =>
          let outcome := gate.serve surroundings { r with body }
          for entry in outcome.entries do
            IO.eprintln (entryLine entry)
          output.putStr (Wire.head outcome.response)
          output.write outcome.response.body
          output.flush
          serve settings input output

end Program
end Gatehouse

open Gatehouse in
/-- Runs the gate. -/
def main (arguments : List String) : IO UInt32 := do
  let path := CommandLine.configPath? arguments
  let content ← match path with
    | some path => Program.fileContent path
    | none => pure none
  let referenced := (content.map fun text => Config.namesIn text.toList).getD []
  let lookup ← Program.valuesOf (Config.variableNames ++ referenced)
  let now ← Program.secondsNow
  let ending := CommandLine.run lookup (fun _ => content) (Json.Word.ofNat now) arguments
  match ending with
  | .listening settings => Program.serve settings (← IO.getStdin) (← IO.getStdout)
  | .help => IO.print CommandLine.helpText
  | _ => IO.eprintln ending.complaint
  return UInt32.ofNat ending.code
