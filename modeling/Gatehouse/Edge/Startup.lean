import Gatehouse.Config.Document
import Gatehouse.Config.Environment
import Gatehouse.Edge.Gate
import Gatehouse.Token.Verifier

/-!
# Starting the gate

The settings have to name a key that tokens can be verified with and patterns that are
well formed; a role mapping with a fault only leaves everyone without roles.  Then the
gate needs an address of this machine to listen at.

Main results:

- Theorem {lit}`Gate.ofSettings_ok`: what a gate that starts decides with.

Current gaps:

- What is wrong with a key or with a pattern of the allowlist is not told.
-/

namespace Gatehouse

/-- Why the gate does not start. -/
inductive StartFault where
  | settings (fault : ConfigFault)
  /-- The key is none for RSA. -/
  | key
  /-- A pattern of the allowlist is not well formed. -/
  | allowlist
  /-- The address cannot be listened at. -/
  | address (bind : String)
deriving DecidableEq, Repr

/-- The wording of a fault. -/
def StartFault.message : StartFault → String
  | settings fault => fault.message
  | key => "invalid PUBLIC_KEY"
  | allowlist => "invalid allowlist pattern"
  | address bind => "failed to bind " ++ bind

namespace Settings

/-- What tokens have to claim. -/
def requirements (s : Settings) : Requirements where
  issuer := s.issuer
  audience := s.audience

end Settings

namespace Gate

/-- Who tokens speak for at a time, by a verifier and a role mapping. -/
def identityOf {P : Type} (m : Matcher P) (verifier : Verifier) (mapping : RoleMapping P)
    (now : Json.Word) (token : String) : Except AuthFault Identity :=
  (verifier.verify now token).map (Identity.ofClaims m mapping)

/-- The gate of some settings at a time. -/
def ofSettings (s : Settings) (now : Json.Word) : Except StartFault Gate :=
  match Verifier.ofKeyFile? s.publicKeyText s.requirements with
  | none => .error .key
  | some verifier =>
      match Allowlist.ofTexts? s.allowlist with
      | none => .error .allowlist
      | some allowlist =>
          .ok {
            authenticate := identityOf Matcher.regular verifier s.roleMapping now
            isOpen := allowlist.allows Matcher.regular
            permissions := Permissions.ofSuffixes s.readSuffixes
            target := s.apiTarget }

/-- A gate that starts forwards to the service of its settings and decides with their
suffixes. -/
theorem ofSettings_ok {s : Settings} {now : Json.Word} {g : Gate}
    (h : ofSettings s now = .ok g) :
    g.target = s.apiTarget ∧ g.permissions = Permissions.ofSuffixes s.readSuffixes := by
  unfold ofSettings at h
  split at h
  · simp at h
  · split at h
    · simp at h
    · simp only [Except.ok.injEq] at h
      subst h
      exact ⟨rfl, rfl⟩

end Gate

/-! ## Addresses -/

namespace Address

/-- The number of one of the four parts of an address. -/
def part? (cs : List Char) : Option Nat :=
  let n := Text.ofDecimal cs
  if cs.all Char.isDigit ∧ cs ≠ [] ∧ n < 256 ∧ (cs = ['0'] ∨ cs.head? ≠ some '0') then some n
  else none

/-- Whether a text is an address of this machine or stands for all of them. -/
def isOwn (host : List Char) : Bool :=
  match (Text.splitList '.' host).mapM part? with
  | some [127, _, _, _] => true
  | some [0, 0, 0, 0] => true
  | _ => ["localhost", "[::]", "[::1]"].contains (String.ofList host)

/-- Whether a text is a port. -/
def isPort (cs : List Char) : Bool :=
  !cs.isEmpty && cs.all Char.isDigit && decide (Text.ofDecimal cs < 65536)

/-- Whether an address with a port can be listened at. -/
def canListen (address : String) : Bool :=
  let cs := address.toList
  let port := (cs.reverse.takeWhile (· ≠ ':')).reverse
  let host := cs.take (cs.length - port.length - 1)
  cs.contains ':' && isPort port && isOwn host

end Address

/-- Starts the gate of some settings. -/
def Settings.start (s : Settings) (now : Json.Word) : Except StartFault Gate :=
  match Gate.ofSettings s now with
  | .error fault => .error fault
  | .ok gate => if Address.canListen s.bind then .ok gate else .error (.address s.bind)

end Gatehouse
