import Gatehouse.Proofs.Json.Freeform
import Gatehouse.Proofs.Token.Acceptance

/-!
# The window in which tokens are accepted

A token may state when it expires and when it starts to be valid.  The expiry is compared with
the clock, with some leeway.  The start of validity is read as well, and a token whose start
cannot be read is refused; but a start that can be read is not compared with anything, so that
a token is accepted before its time.

Main results:

- Theorem {lit}`UseClaims.stated_of_start`: claims with a start of validity that is a number
  are read a second time, whatever the number is.
- Theorem {lit}`Verifier.accepts_immature_iff`: accepted tokens have not expired, and which of
  them are accepted before their time.
-/

namespace Gatehouse

open Json (Agree Guided SteppedOver TakesValue Value anyValues)

/-- Whether a number lies beyond a natural number. -/
def Json.Number.exceeds (bound : Nat) : Json.Number → Bool
  | natural n => decide (bound < n)
  | negative _ => false
  | double x => !x.negative && decide (bound * x.size.toRatio.2 < x.size.toRatio.1)

namespace UseClaims

/-! ## The start of validity -/

/-- The start of validity as it stands. -/
def startFields : List (Json.Field (Option Value)) :=
  [ { name := "nbf", given := Option.isSome, required := false,
      read := fun depth _ c => do
        let (v, c) ← Value.read depth c
        return (some v, c) } ]

/-- Reads the start of validity of a payload that stands as an object. -/
def readStartClaim : Json.Reader (Option Value) := fun c =>
  let c := c.skipSpace
  match c.rest with
  | '\x7b' :: _ =>
      Json.inObject (Json.readMembers
        (Json.Field.readMember startFields (Json.nestingLimit - 1)) none) c
  | _ => Json.Failure.atNext .expectedValue c

/-- The start of validity that a payload states, if it is a number. -/
def start? (payload : List Char) : Option Json.Number :=
  match readStartClaim.run payload with
  | .ok (some (.number n)) => some n
  | _ => none

/-- A start of validity stands in an object. -/
theorem object_of_start? {payload : List Char} {n : Json.Number} (h : start? payload = some n) :
    ∃ c rest, (Json.Cursor.start payload).skipSpace.rest = '\x7b' :: rest ∧
      Json.inObject (Json.readMembers
        (Json.Field.readMember startFields (Json.nestingLimit - 1)) none)
        (Json.Cursor.start payload).skipSpace = .ok (some (.number n), c) := by
  unfold start? at h
  split at h
  · rename_i m hrun
    rw [Option.some.injEq] at h
    subst h
    rcases Json.read_of_run hrun with ⟨c, hread⟩
    simp only [readStartClaim] at hread
    split at hread
    · rename_i rest hrest
      exact ⟨c, rest, hrest, hread⟩
    · simp [Json.Failure.atNext] at hread
  · contradiction

/-- A number that is read is in range. -/
theorem tryNumber_of_readNumber {c c' : Json.Cursor} {n : Json.Number}
    (h : Json.readNumber c = .ok (n, c')) : tryNumber c = .ok ((), c') := by
  refine Json.bind_eq_ok.2 ⟨((), c'), Json.skipNumber_of_readNumber h, ?_⟩
  simp only [h]
  rfl

/-- A value that is read as a number stands as a number. -/
theorem number_of_read {depth : Nat} {c c' : Json.Cursor} {n : Json.Number}
    (h : Value.read (depth + 1) c = .ok (.number n, c')) :
    ∃ ch rest, c.skipSpace.rest = ch :: rest ∧ (ch = '-' ∨ ch.isDigit = true) ∧
      Json.readNumber c.skipSpace = .ok (n, c') := by
  simp only [Value.read] at h
  split at h
  case h_6 =>
    rcases Json.inList_eq_ok.1 (Json.nested_eq_ok h) with ⟨d, hbody, -⟩
    rcases Json.return_eq_ok hbody with ⟨_, -, hvalue⟩
    contradiction
  case h_7 =>
    rcases Json.inObject_eq_ok.1 (Json.nested_eq_ok h) with ⟨d, hbody, -⟩
    rcases Json.return_eq_ok hbody with ⟨_, -, hvalue⟩
    contradiction
  case h_8 ch rest _ _ _ _ _ _ hrest =>
    split at h
    · rename_i hfirst
      rcases Json.return_eq_ok h with ⟨_, hnumber, hvalue⟩
      cases hvalue
      exact ⟨ch, rest, hrest, hfirst, hnumber⟩
    · simp [Json.Failure.atNext] at h
  case h_1 => simp [Json.Failure.atNext] at h
  -- the words and strings
  all_goals
    rcases Json.return_eq_ok h with ⟨_, -, hvalue⟩
    contradiction

/-- A number that is read as a value is a start of validity. -/
theorem readStart_of_read {depth : Nat} {c c' : Json.Cursor} {n : Json.Number}
    (h : Value.read (depth + 1) c = .ok (.number n, c')) : readStart c = .ok ((), c') := by
  rcases number_of_read h with ⟨ch, rest, hrest, hfirst, hnumber⟩
  have hplain := Json.numberStart_plain hfirst
  simp only [readStart, hrest]
  simp [hplain, hfirst, tryNumber_of_readNumber hnumber]
/-- How a member is read that may be the start of validity. -/
inductive ReadAsStart (depth : Nat) (g : Option Value) (c c' : Json.Cursor) :
    Option Value → Prop where
  | start {d e : Json.Cursor} {v : Value} (hname : Json.readQuoted c = .ok ("nbf", d))
      (hcolon : Json.readColon d = .ok e) (hfirst : g = none)
      (hvalue : Value.read depth e = .ok (v, c')) : ReadAsStart depth g c c' (some v)
  | other {d : Json.Cursor} {name : String} (hname : Json.readQuoted c = .ok (name, d))
      (hother : name ≠ "nbf") : ReadAsStart depth g c c' g

/-- A member is read in one of these ways. -/
theorem readAsStart_of_readMember {depth : Nat} {g g' : Option Value} {c c' : Json.Cursor}
    (h : Json.Field.readMember startFields depth g c = .ok (g', c')) :
    ReadAsStart depth g c c' g' := by
  rcases Json.Field.exists_of_readMember h with ⟨name, d, e, hname, hcolon, hnamed⟩
  by_cases hnbf : name = "nbf"
  · subst hnbf
    have hfirst := Json.Field.not_given_of_readMember hname rfl h
    rcases Json.return_eq_ok hnamed with ⟨v, hvalue, rfl⟩
    exact .start hname hcolon (Option.not_isSome_iff_eq_none.1 (by simpa using hfirst)) hvalue
  · have hnone : (startFields.find? fun field => field.name == name) = none := by
      simp [startFields, Ne.symm hnbf]
    rw [Json.Field.eq_of_readNamed hnone hnamed]
    exact .other hname hnbf

/-- The value behind any name is taken, whether it is the start of validity or not. -/
theorem takesValue_readNamed (depth : Nat) (g : Option Value) (name : String) :
    TakesValue (Json.Field.readNamed startFields depth g name) := by
  intro fuel
  by_cases hnbf : name = "nbf"
  · subst hnbf
    exact ((Json.steppedOver_read depth).takesValue fuel).mapLeft (S := anyValues)
      fun _ _ _ => trivial
  · have hnone : (startFields.find? fun field => field.name == name) = none := by
      simp [startFields, Ne.symm hnbf]
    rw [Json.Field.readNamed_of_none hnone]
    exact (Json.steppedOver_skipValue.takesValue fuel).mapLeft (S := anyValues) (f := fun _ => g)
      fun _ _ _ => trivial

/-- Whether the second reading has found the audience of the claims so far, and a start of
validity exactly if there is one. -/
structure SameUse (d : Claims.Draft) (g : Option Value) (d' : Draft) : Prop where
  audience : SameAudience d d'
  start : d'.hasStart = g.isSome

/-- Whether a start of validity is a number, if there is one. -/
def IsNumeric (g : Option Value) : Prop := ∀ v, g = some v → ∃ n, v = .number n

/-- A member of another name is no start of validity to the second reading. -/
theorem hasStart_of_readMember {depth : Nat} {d d' : Draft} {name : String}
    {c c' e : Json.Cursor} (hname : Json.readQuoted c = .ok (name, e)) (hother : name ≠ "nbf")
    (h : Json.Field.readMember fields depth d c = .ok (d', c')) : d'.hasStart = d.hasStart := by
  rcases Json.Field.readNamed_of_readMember hname h with ⟨f, -, hnamed⟩
  by_cases haud : name = "aud"
  · subst haud
    rcases Json.return_eq_ok hnamed with ⟨_, -, rfl⟩
    rfl
  · have hnone : (fields.find? fun field => field.name == name) = none := by
      simp [fields, Ne.symm haud, Ne.symm hother]
    rw [Json.Field.eq_of_readNamed hnone hnamed]

/-- The start of validity guides the second reading along the first one as long as it is a
number. -/
theorem guided_readMember (depth : Nat) :
    Guided IsNumeric SameUse (Json.Field.readMember Claims.fields (depth + 1))
      (Json.Field.readMember startFields (depth + 1))
      (Json.Field.readMember fields (depth + 1)) where
  same d g := by
    refine Json.Field.agree_readMember fun name => ?_
    cases Claims.noted_readNamed name (depth + 1) d with
    | intro note hread hstepped =>
        rw [hread]
        exact (hstepped.agree (takesValue_readNamed (depth + 1) g name)).mapLeft
          fun _ _ _ => trivial
  before hstart hnumeric := by
    cases readAsStart_of_readMember hstart with
    | start hname hcolon hfirst hvalue => simp [IsNumeric, hfirst]
    | other => exact hnumeric
  leads := by
    intro d d₁ g g' d' c c' hsame hread hstart hnumeric
    cases readAsStart_of_readMember hstart with
    | start hname hcolon hfirst hvalue =>
        rcases hnumeric _ rfl with ⟨n, rfl⟩
        -- the first reading steps over the start of validity
        rcases Json.Field.readNamed_of_readMember hname hread with ⟨_, -, hnamed⟩
        have hkept : d₁ = d := Json.Field.eq_of_readNamed rfl hnamed
        subst hkept
        refine ⟨{ d' with hasStart := true }, ?_, hsame.audience, rfl⟩
        have habsent : d'.hasStart = false := by
          rw [hsame.start, hfirst]
          rfl
        rw [Json.Field.readMember_of_some hname rfl habsent hcolon]
        exact Json.bind_eq_ok.2 ⟨((), c'), readStart_of_read hvalue, rfl⟩
    | other hname hother =>
        rcases parallel_readMember _ hsame.audience hname hother hread with
          ⟨d₁', hread', haudience⟩
        exact ⟨d₁', hread', haudience,
          (hasStart_of_readMember hname hother hread').trans hsame.start⟩

/-- Claims with a start of validity that is a number are read a second time. -/
theorem stated_of_start {payload : List Char} {claims : Claims} {n : Json.Number}
    (hclaims : Claims.decode payload = .ok claims) (hstart : start? payload = some n) :
    ∃ stated, read payload = .stated stated := by
  rcases object_of_start? hstart with ⟨e, rest, hobject, hguide⟩
  rcases Claims.draft_of_decode hclaims hobject with ⟨d, c, hread, hend, -⟩
  have hnumeric : IsNumeric (some (.number n)) := fun v hv => ⟨n, (Option.some.inj hv).symm⟩
  have hsame : SameUse ({ } : Claims.Draft) none ({ } : Draft) := ⟨rfl, rfl⟩
  rcases (guided_readMember _).inObject hsame hread hguide hnumeric with ⟨d', hread', -⟩
  exact ⟨d'.audience, read_of_object hobject hread' hend⟩

end UseClaims

/-! ## Tokens before their time -/

namespace Requirements

/-- A token that has not expired is no older than the leeway allows, even where the leeway
reaches back beyond the start of the clock. -/
theorem le_of_isExpired {r : Requirements} {now expiry : Json.Word}
    (h : r.isExpired now expiry = false) : now.val ≤ expiry.val + r.leeway.val := by
  by_cases hleeway : r.leeway ≤ now
  · have hcurrent := (Verifier.isExpired_eq_false_iff hleeway).1 h
    omega
  · have hbefore : now.val < r.leeway.val := Fin.lt_def.1 (Fin.not_le.1 hleeway)
    omega

end Requirements

namespace Verifier

variable {v : Verifier} {now : Json.Word} {token : String} {claims : Claims}

/-- Whether a token states a start of validity that is still ahead, whatever the leeway. -/
def Immature (v : Verifier) (now : Json.Word) (token : String) : Prop :=
  ∃ payload start, v.Bears token payload ∧ UseClaims.start? payload = some start ∧
    start.exceeds (now.val + v.requirements.leeway.val) = true

/-- What a token shows that is accepted before its time. -/
structure Anticipates (v : Verifier) (now : Json.Word) (token : String) (claims : Claims)
    (payload : List Char) (start : Json.Number) : Prop where
  bears : v.Bears token payload
  states : Claims.decode payload = .ok claims
  begins : UseClaims.start? payload = some start
  ahead : start.exceeds (now.val + v.requirements.leeway.val) = true
  unexpired : v.requirements.isExpired now claims.expiry = false
  unopposed : ∀ stated, UseClaims.read payload = .stated stated →
    ¬ v.requirements.Contradicted claims stated
  access : v.requirements.checkAccess claims = .ok ()

/-- A token bears one payload. -/
theorem Bears.unique {payload payload' : List Char} (h : v.Bears token payload)
    (h' : v.Bears token payload') : payload = payload' := by
  rcases h with ⟨parts, hparts, hpayload⟩
  rcases h' with ⟨parts', hparts', hpayload'⟩
  rw [hparts, Option.some.injEq] at hparts'
  subst hparts'
  rw [hpayload, Except.ok.injEq] at hpayload'
  exact hpayload'

/-- An accepted token has not expired.  It is accepted before its time exactly if it states a
start of validity that is still ahead and is in order otherwise. -/
theorem accepts_immature_iff :
    (v.verify now token = .ok claims →
      now.val ≤ claims.expiry.val + v.requirements.leeway.val) ∧
    (v.verify now token = .ok claims ∧ v.Immature now token ↔
      ∃ payload start, v.Anticipates now token claims payload start) := by
  rw [verify_eq_ok_iff]
  constructor
  · rintro ⟨stated, hpasses⟩
    exact Requirements.le_of_isExpired hpasses.unexpired
  constructor
  · rintro ⟨⟨stated, ⟨payload, hbears, hdecode, huse⟩, hcurrent, hunopposed, haccess⟩,
      payload', start, hbears', hbegins, hahead⟩
    rw [hbears'.unique hbears] at hbegins
    refine ⟨payload, start, hbears, hdecode, hbegins, hahead, hcurrent, ?_, haccess⟩
    intro stated' huse'
    rw [huse, UseClaims.stated.injEq] at huse'
    exact huse' ▸ hunopposed
  · rintro ⟨payload, start, hbears, hdecode, hbegins, hahead, hcurrent, hunopposed, haccess⟩
    rcases UseClaims.stated_of_start hdecode hbegins with ⟨stated, huse⟩
    exact ⟨⟨stated, ⟨payload, hbears, hdecode, huse⟩, hcurrent, hunopposed stated huse, haccess⟩,
      payload, start, hbears, hbegins, hahead⟩

/-- A token that starts to be valid long after it expires. -/
def earlyToken : String :=
  "eyJhbGciOiJSUzI1NiJ9.eyJleHAiOjksIm5iZiI6OTksInN1YiI6InUifQ."

/-- The payload of the token that starts late. -/
def earlyPayload : String := "\x7b\"exp\":9,\"nbf\":99,\"sub\":\"u\"\x7d"

/-- The claims of the token that starts late. -/
def earlyClaims : Claims := { webClaims with audiences := [] }

/-- Tokens are not always refused before their time. -/
theorem not_always_mature :
    ¬ ∀ (v : Verifier) (now : Json.Word) (token : String) (claims : Claims),
      v.verify now token = .ok claims → ¬ v.Immature now token := by
  intro hmature
  have haccepted : permissive.verify (.ofNat 30) earlyToken = .ok earlyClaims :=
    Json.toOption_eq_some_iff.1 (by decide +kernel)
  have hbears : permissive.Bears earlyToken earlyPayload.toList :=
    ⟨⟨"eyJhbGciOiJSUzI1NiJ9".toList, "eyJleHAiOjksIm5iZiI6OTksInN1YiI6InUifQ".toList, []⟩,
      by decide +kernel, Json.toOption_eq_some_iff.1 (by decide +kernel)⟩
  have hbegins : UseClaims.start? earlyPayload.toList = some (.natural 99) := by decide +kernel
  exact hmature _ _ _ _ haccepted ⟨_, _, hbears, hbegins, by decide⟩

end Verifier
end Gatehouse
