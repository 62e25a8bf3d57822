import Gatehouse.Config.RuleTable
import Gatehouse.Config.Settings
import Gatehouse.Toml.Document

/-!
# Settings from a document

A document gives settings by name.  References to variables are expanded in its text
before it is read.  A name that is missing keeps its standard value, a name that means
nothing is ignored, and a value of the wrong kind makes the document unusable, except
that a role mapping of any kind will do.

Main results:

- Theorem {lit}`ofMembers_append_mapping`: a role mapping changes the rules and nothing
  else.

Current gaps:

- What is wrong with a document is not told.
-/

namespace Gatehouse
namespace Config

open Toml (Value Members lookup?)

/-- The value of a setting, or what holds without it. -/
def settingOr {α : Type} (members : Members) (name : String) (standard : α)
    (read : Value → Option α) : Option α :=
  match lookup? members name with
  | some v => read v
  | none => some standard

/-- A text. -/
def text? : Value → Option String
  | .string s => some s
  | _ => none

/-- A list of texts. -/
def texts? : Value → Option (List String)
  | .array items => items.mapM text?
  | _ => none

/-- A natural number. -/
def natural? : Value → Option Nat
  | .integer n => if 0 ≤ n then some n.toNat else none
  | _ => none

/-- The rules of a role mapping of any kind. -/
def rulesOf (v : Value) : RoleRules := ruleTable v.toJson

/-- The settings in the members of a document. -/
def ofMembers (members : Members) : Option Settings := do
  let s := Settings.standard
  return {
    bind := ← settingOr members "bind" s.bind text?
    publicKey := ← settingOr members "public_key" s.publicKey text?
    roleRules := ((lookup? members "role_mapping").map rulesOf).getD s.roleRules
    readSuffixes := ← settingOr members "read_suffixes" s.readSuffixes texts?
    maxQueue := ← settingOr members "max_queue" s.maxQueue natural?
    feedUrl := ← settingOr members "upstream_feed_url" s.feedUrl fun v => (text? v).map some
    apiTarget := ← settingOr members "api_target" s.apiTarget text?
    snapshotUrl := ← settingOr members "snapshot_url" s.snapshotUrl text?
    issuer := ← settingOr members "jwt_issuer" s.issuer fun v => (text? v).map some
    audience := ← settingOr members "jwt_audience" s.audience fun v => (text? v).map some
    heartbeatSeconds := ← settingOr members "heartbeat_secs" s.heartbeatSeconds
      fun v => (natural? v).map some
    backoffSeconds := ← settingOr members "feed_backoff_max_secs" s.backoffSeconds natural?
    allowlist := ← settingOr members "allowlist" s.allowlist texts? }

/-- The settings in the text of a document. -/
def ofDocument (lookup : String → Option String) (text : String) :
    Except ConfigFault Settings :=
  match (Toml.parse? (expandVariables lookup text)).bind ofMembers with
  | some settings => settings.checked
  | none => .error .document

/-- Settings from the content of a file, if it can be read. -/
def ofFile (lookup : String → Option String) (path : String) (content : Option String) :
    Except ConfigFault Settings :=
  match content with
  | some text => ofDocument lookup text
  | none => .error (.unreadable path)

/-! ## Role mappings -/

theorem settingOr_append {α : Type} {members more : Members} {name : String} (standard : α)
    (read : Value → Option α) (h : lookup? more name = none) :
    settingOr (members ++ more) name standard read = settingOr members name standard read := by
  simp only [lookup?, Option.map_eq_none_iff] at h
  simp only [settingOr, lookup?, List.find?_append, h, Option.or_none]

/-- A role mapping added to a document changes the rules and nothing else. -/
theorem ofMembers_append_mapping {members : Members} (v : Value)
    (h : lookup? members "role_mapping" = none) :
    ofMembers (members ++ [("role_mapping", v)]) =
      (ofMembers members).map fun s => { s with roleRules := rulesOf v } := by
  have other {name : String} (hn : name ≠ "role_mapping") :
      lookup? [("role_mapping", v)] name = none := by
    simp [lookup?, Ne.symm hn]
  unfold ofMembers
  rw [Toml.lookup?_append h]
  simp only [settingOr_append _ _ (other (by decide : "bind" ≠ "role_mapping")),
    settingOr_append _ _ (other (by decide : "public_key" ≠ "role_mapping")),
    settingOr_append _ _ (other (by decide : "read_suffixes" ≠ "role_mapping")),
    settingOr_append _ _ (other (by decide : "max_queue" ≠ "role_mapping")),
    settingOr_append _ _ (other (by decide : "upstream_feed_url" ≠ "role_mapping")),
    settingOr_append _ _ (other (by decide : "api_target" ≠ "role_mapping")),
    settingOr_append _ _ (other (by decide : "snapshot_url" ≠ "role_mapping")),
    settingOr_append _ _ (other (by decide : "jwt_issuer" ≠ "role_mapping")),
    settingOr_append _ _ (other (by decide : "jwt_audience" ≠ "role_mapping")),
    settingOr_append _ _ (other (by decide : "heartbeat_secs" ≠ "role_mapping")),
    settingOr_append _ _ (other (by decide : "feed_backoff_max_secs" ≠ "role_mapping")),
    settingOr_append _ _ (other (by decide : "allowlist" ≠ "role_mapping")), h]
  have added : lookup? [("role_mapping", v)] "role_mapping" = some v := by simp [lookup?]
  have inward {α : Type} {o : Option α} {f f' : α → Option Settings} {g : Settings → Settings}
      (hf : ∀ a, f' a = (f a).map g) : o.bind f' = (o.bind f).map g := by
    cases o with
    | none => rfl
    | some a => exact hf a
  rw [added]
  iterate 12 refine inward fun _ => ?_
  rfl

end Config
end Gatehouse
