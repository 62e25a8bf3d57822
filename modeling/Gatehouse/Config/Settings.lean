import Gatehouse.Config.Expansion
import Gatehouse.Edge.Allowlist
import Gatehouse.Role.Permission
import Gatehouse.Text.Natural
import Gatehouse.Text.Quoted
import Gatehouse.Time.Duration

/-!
# Settings

The settings say where the gate listens, whom it trusts, which groups have which roles,
and which services stand behind it.

Main results:

- Theorem {lit}`Settings.check_eq_ok_iff`: which settings the gate can start with.
-/

namespace Gatehouse

/-- The settings of the gate. -/
structure Settings where
  /-- The address to listen at. -/
  bind : String
  /-- The key that tokens are verified with. -/
  publicKey : String
  roleRules : RoleRules
  /-- The endings of groups that may read an operation. -/
  readSuffixes : List String
  /-- How many frames may wait for one connection. -/
  maxQueue : Nat
  /-- Where the change feed is. -/
  feedUrl : Option String
  /-- Where requests are forwarded. -/
  apiTarget : String
  /-- Below which address snapshots are fetched. -/
  snapshotUrl : String
  /-- The issuer that tokens must have. -/
  issuer : Option String
  /-- The audience that tokens must have. -/
  audience : Option String
  /-- How often connections get a sign of life, in seconds. -/
  heartbeatSeconds : Option Nat
  /-- The longest wait before the feed is tried again, in seconds. -/
  backoffSeconds : Nat
  /-- The patterns of the paths that need no credential. -/
  allowlist : List String
deriving DecidableEq, Repr

/-- Why there are no usable settings. -/
inductive ConfigFault where
  /-- The value of a variable is no number. -/
  | number (name value : String) (fault : Text.NumberFault)
  /-- There is no key. -/
  | missingKey
  /-- No frame may wait. -/
  | noQueue
  /-- The signs of life have no distance. -/
  | noHeartbeat
  /-- The document does not hold settings. -/
  | document
  /-- The file cannot be read. -/
  | unreadable (path : String)
deriving DecidableEq, Repr

namespace ConfigFault

/-- The wording of a fault. -/
def message : ConfigFault → String
  | number name value _ => name ++ " must be a number, got " ++ Text.quoted value
  | missingKey => "PUBLIC_KEY is required"
  | noQueue => "MAX_QUEUE must be at least 1"
  | noHeartbeat => "HEARTBEAT_SECS must be at least 1"
  | document => "invalid gateway config"
  | unreadable path => "failed to read " ++ path

/-- The wording of a fault and of what caused it. -/
def chain (f : ConfigFault) : List String :=
  match f with
  | number _ _ fault => [f.message, fault.message]
  | _ => [f.message]

end ConfigFault

namespace Settings

/-- The settings where nothing else is said. -/
def standard : Settings where
  bind := "0.0.0.0:8080"
  publicKey := ""
  roleRules := []
  readSuffixes := Permissions.defaultSuffixes
  maxQueue := 100
  feedUrl := none
  apiTarget := "http://incident-svc:3000"
  snapshotUrl := "http://incident-svc:3000/snapshots"
  issuer := none
  audience := none
  heartbeatSeconds := none
  backoffSeconds := 30
  allowlist := ["^/auth/", "^/health$", "^/api-docs/"]

/-- Refuses settings that the gate cannot start with; the first fault counts. -/
def check (s : Settings) : Except ConfigFault Unit :=
  if Text.isBlankText s.publicKey then .error .missingKey
  else if s.maxQueue = 0 then .error .noQueue
  else if s.heartbeatSeconds = some 0 then .error .noHeartbeat
  else .ok ()

/-- The gate can start with settings exactly if there is a key, some frame may wait, and
signs of life, if any, have a distance. -/
theorem check_eq_ok_iff {s : Settings} :
    s.check = .ok () ↔
      Text.isBlankText s.publicKey = false ∧ s.maxQueue ≠ 0 ∧ s.heartbeatSeconds ≠ some 0 := by
  unfold check
  by_cases hk : Text.isBlankText s.publicKey = true
  · simp [hk]
  · by_cases hq : s.maxQueue = 0
    · simp [hq, hk]
    · by_cases hh : s.heartbeatSeconds = some 0 <;> simp [hk, hq, hh]

/-- The settings, if the gate can start with them. -/
def checked (s : Settings) : Except ConfigFault Settings := s.check.map fun () => s

/-- The key with its newlines. -/
def publicKeyText (s : Settings) : String := Config.unescapeNewlines s.publicKey

/-- The role mapping; without rules if some rule is faulty. -/
def roleMapping (s : Settings) : RoleMapping Pattern :=
  RoleMapping.compile Matcher.regular s.roleRules

/-- The longest wait before the feed is tried again: at least a second. -/
def backoffCap (s : Settings) : Duration := .ofSeconds (max 1 s.backoffSeconds)

/-- A text that may be missing, as a member. -/
def optionalText (name : String) (text : Option String) : List (String × Json.Value) :=
  (text.map fun text => (name, .string text)).toList

/-- A list of texts. -/
def ofTexts (texts : List String) : Json.Value := .array (texts.map .string)

/-- A whole number. -/
def ofNat (n : Nat) : Json.Value := .number (.natural n)

/-- The settings as a JSON object; what is missing is left out. -/
def toJson (s : Settings) : Json.Value :=
  .object ([("bind", .string s.bind), ("public_key", .string s.publicKey),
      ("role_mapping", .object (s.roleRules.map fun rule => (rule.1, ofTexts rule.2))),
      ("read_suffixes", ofTexts s.readSuffixes), ("max_queue", ofNat s.maxQueue)] ++
    optionalText "upstream_feed_url" s.feedUrl ++
    [("api_target", .string s.apiTarget), ("snapshot_url", .string s.snapshotUrl)] ++
    optionalText "jwt_issuer" s.issuer ++ optionalText "jwt_audience" s.audience ++
    (s.heartbeatSeconds.map fun n => ("heartbeat_secs", ofNat n)).toList ++
    [("feed_backoff_max_secs", ofNat s.backoffSeconds), ("allowlist", ofTexts s.allowlist)])

end Settings
end Gatehouse
