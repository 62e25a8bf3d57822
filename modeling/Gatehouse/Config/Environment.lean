import Gatehouse.Config.RuleTable
import Gatehouse.Config.Settings
import Gatehouse.Text.Split

/-!
# Settings from variables

Each setting has a variable.  A variable that is missing or blank leaves the setting as
it is where nothing is said.  The first fault counts, in the order of the variables.
-/

namespace Gatehouse
namespace Config

/-- The variables that are looked at. -/
def variableNames : List String :=
  ["BIND", "PORT", "PUBLIC_KEY", "ROLE_MAPPING", "RBAC_READ_SUFFIXES", "MAX_QUEUE",
    "UPSTREAM_FEED_URL", "API_TARGET", "SNAPSHOT_URL", "JWT_ISSUER", "JWT_AUDIENCE",
    "HEARTBEAT_SECS", "FEED_BACKOFF_MAX_SECS", "AUTH_ALLOWLIST"]

/-- The value of a variable, unless it is blank. -/
def nonBlank (lookup : String → Option String) (name : String) : Option String :=
  (lookup name).filter fun value => !Text.isBlankText value

/-- The number below a bound that a variable holds. -/
def numberIn (bound : Nat) (name value : String) : Except ConfigFault Nat :=
  match Text.parseNatural bound (Text.trim value) with
  | .ok n => .ok n
  | .error fault => .error (.number name value fault)

/-- The number below a bound that a variable holds, if it is set. -/
def number? (lookup : String → Option String) (bound : Nat) (name : String) :
    Except ConfigFault (Option Nat) :=
  match nonBlank lookup name with
  | none => .ok none
  | some value => (numberIn bound name value).map some

/-- The address to listen at: that of its own variable, or that of the port on all
interfaces. -/
def bindAddress (lookup : String → Option String) : Except ConfigFault String :=
  match nonBlank lookup "BIND" with
  | some bind => .ok bind
  | none => do
      let port ← number? lookup (Nat.pow 2 16) "PORT"
      return (port.map fun n => "0.0.0.0:" ++ Text.decimal n).getD Settings.standard.bind

/-- The settings that the variables give, whether the gate can start with them or not. -/
def read (lookup : String → Option String) : Except ConfigFault Settings := do
  let var := nonBlank lookup
  let standard := Settings.standard
  let bind ← bindAddress lookup
  let maxQueue ← number? lookup (Nat.pow 2 64) "MAX_QUEUE"
  let heartbeatSeconds ← number? lookup (Nat.pow 2 64) "HEARTBEAT_SECS"
  let backoffSeconds ← number? lookup (Nat.pow 2 64) "FEED_BACKOFF_MAX_SECS"
  return {
    bind
    publicKey := (var "PUBLIC_KEY").getD standard.publicKey
    roleRules := ((var "ROLE_MAPPING").map fun text => ruleTable (.string text)).getD
      standard.roleRules
    readSuffixes := ((var "RBAC_READ_SUFFIXES").map Text.commaList).getD standard.readSuffixes
    maxQueue := maxQueue.getD standard.maxQueue
    feedUrl := var "UPSTREAM_FEED_URL"
    apiTarget := (var "API_TARGET").getD standard.apiTarget
    snapshotUrl := (var "SNAPSHOT_URL").getD standard.snapshotUrl
    issuer := var "JWT_ISSUER"
    audience := var "JWT_AUDIENCE"
    heartbeatSeconds
    backoffSeconds := backoffSeconds.getD standard.backoffSeconds
    allowlist := ((var "AUTH_ALLOWLIST").map Text.commaList).getD standard.allowlist }

/-- The settings that the variables give. -/
def ofVariables (lookup : String → Option String) : Except ConfigFault Settings :=
  (read lookup).bind Settings.checked

end Config
end Gatehouse
