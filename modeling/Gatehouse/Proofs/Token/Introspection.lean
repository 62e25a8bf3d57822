import Gatehouse.Proofs.Json.Freeform
import Gatehouse.Proofs.Token.Acceptance

/-!
# What introspection shows of accepted tokens

The payload of a token can be looked at without a check of its signature.  It is cut out of the
token and read in a way of its own, as an object of any kind, and not as claims.  For a token that
is accepted both ways come to the same: the claims are what the members of the object say.

Main results:

- Theorem {lit}`Claims.agreesWith_of_decode`: claims that stand as an object say what its members
  say.
- Theorem {lit}`Verifier.introspect_agrees`: introspection shows what verification has found.
-/

namespace Gatehouse

open Json (Agree StandsFor Value orNull wordValue)

/-! ## Claims and members -/

namespace Claims

/-- The string that a value is. -/
def string? : Value → Option String
  | .string s => some s
  | _ => none

/-- The strings of a list that is found, in their order; nothing else has any. -/
def listed : Option Value → List String
  | some (.array items) => items.filterMap string?
  | _ => []

/-- A string that is found, or the strings of a list. -/
def listedOrAlone : Option Value → List String
  | some (.string s) => [s]
  | found => listed found

/-- Whether claims are what the members of an object say.  A claim that is absent is no member, or
null. -/
structure AgreesWith (claims : Claims) (raw : Value) : Prop where
  sub : raw.member? "sub" = some (.string claims.sub)
  upn : (raw.member? "upn").getD .null = orNull .string claims.upn
  name : (raw.member? "name").getD .null = orNull .string claims.name
  groups : claims.groups = listed (raw.member? "ad_groups")
  expiry : raw.member? "exp" = some (wordValue claims.expiry)
  issuedAt : (raw.member? "iat").getD .null = orNull wordValue claims.issuedAt
  issuer : (raw.member? "iss").getD .null = orNull .string claims.issuer
  audiences : claims.audiences = listedOrAlone (raw.member? "aud")

/-- The value of the first member with a key. -/
def found (members : List (String × Value)) (key : String) : Option Value :=
  (members.find? fun m => m.1 == key).map (·.2)

/-- Whether a draft says of each claim what is found under its name. -/
structure Mirrors (d : Draft) (values : String → Option Value) : Prop where
  sub : values "sub" = d.sub.map .string
  upn : values "upn" = d.upn.map (orNull .string)
  name : values "name" = d.name.map (orNull .string)
  groups : d.groups = (values "ad_groups").map textList
  expiry : values "exp" = d.expiry.map wordValue
  issuedAt : values "iat" = d.issuedAt.map (orNull wordValue)
  issuer : values "iss" = d.issuer.map (orNull .string)
  audiences : d.audiences = (values "aud").map textOrList

section Draft

variable {d : Draft} {members : List (String × Value)} {values values' : String → Option Value}

/-- A draft depends on nothing but the values under the names of the claims. -/
theorem Mirrors.congr (h : Mirrors d values)
    (hsame : ∀ name ∈ fields.map (·.name), values' name = values name) : Mirrors d values' where
  sub := (hsame _ (by decide)).trans h.sub
  upn := (hsame _ (by decide)).trans h.upn
  name := (hsame _ (by decide)).trans h.name
  groups := hsame "ad_groups" (by decide) ▸ h.groups
  expiry := (hsame _ (by decide)).trans h.expiry
  issuedAt := (hsame _ (by decide)).trans h.issuedAt
  issuer := (hsame _ (by decide)).trans h.issuer
  audiences := hsame "aud" (by decide) ▸ h.audiences

/-- A field that is read from the value behind its name says what the value says. -/
theorem agree_field {field : Json.Field Draft} (hfield : field ∈ fields) (depth : Nat)
    (h : Mirrors d (found members)) :
    Agree (fun d v => Mirrors d (found ((field.name, v) :: members)))
      (field.read (depth + 1) d) (Value.read (depth + 1)) := by
  have htext : StandsFor Value.string (Json.readText Json.textKind) (Value.read (depth + 1)) :=
    Json.standsFor_readText _ depth
  have hword := Json.standsFor_readWord64 depth
  rcases List.mem_cons.1 hfield with rfl | hfield
  · refine htext.agree.mapLeft (f := fun a => { d with sub := some a }) ?_
    rintro a _ rfl
    exact { h with sub := rfl }
  rcases List.mem_cons.1 hfield with rfl | hfield
  · refine htext.readOptional.agree.mapLeft (f := fun a => { d with upn := some a }) ?_
    rintro a _ rfl
    exact { h with upn := rfl }
  rcases List.mem_cons.1 hfield with rfl | hfield
  · refine htext.readOptional.agree.mapLeft (f := fun a => { d with name := some a }) ?_
    rintro a _ rfl
    exact { h with name := rfl }
  rcases List.mem_cons.1 hfield with rfl | hfield
  · refine (Agree.refl _).mapLeft (f := fun a => { d with groups := some (textList a) }) ?_
    rintro a _ rfl
    exact { h with groups := rfl }
  rcases List.mem_cons.1 hfield with rfl | hfield
  · refine hword.agree.mapLeft (f := fun a => { d with expiry := some a }) ?_
    rintro a _ rfl
    exact { h with expiry := rfl }
  rcases List.mem_cons.1 hfield with rfl | hfield
  · refine hword.readOptional.agree.mapLeft (f := fun a => { d with issuedAt := some a }) ?_
    rintro a _ rfl
    exact { h with issuedAt := rfl }
  rcases List.mem_cons.1 hfield with rfl | hfield
  · refine htext.readOptional.agree.mapLeft (f := fun a => { d with issuer := some a }) ?_
    rintro a _ rfl
    exact { h with issuer := rfl }
  rcases List.mem_cons.1 hfield with rfl | hfield
  · refine (Agree.refl _).mapLeft (f := fun a => { d with audiences := some (textOrList a) }) ?_
    rintro a _ rfl
    exact { h with audiences := rfl }
  · exact absurd hfield List.not_mem_nil

/-- The two readings of the value behind a key go along, and the draft says what is found. -/
theorem agree_readNamed (depth : Nat) (h : Mirrors d (found members)) (key : String) :
    Agree (fun d v => Mirrors d (found ((key, v) :: members)))
      (Json.Field.readNamed fields (depth + 1) d key) (Value.read (depth + 1)) := by
  cases hfield : fields.find? fun field => field.name == key with
  | none =>
      rw [Json.Field.readNamed_of_none hfield]
      refine (Json.steppedOver_read _).takesValue.agree.symm.mapLeft (f := fun _ => d) ?_
      intro _ v _
      refine h.congr fun name hname => ?_
      rcases List.mem_map.1 hname with ⟨field, hmem, rfl⟩
      have hother : key ≠ field.name := by
        rintro rfl
        exact List.find?_eq_none.1 hfield field hmem (beq_self_eq_true _)
      simp [found, hother]
  | some field =>
      rw [Json.Field.readNamed_of_some hfield]
      have hname : field.name = key := by simpa using List.find?_some hfield
      exact hname ▸ agree_field (List.mem_of_find?_eq_some hfield) depth h

/-- The two readings of a member go along, and the draft says what is found. -/
theorem agree_readMember (depth : Nat) (h : Mirrors d (found members)) :
    Agree (fun d members => Mirrors d (found members))
      (Json.Field.readMember fields (depth + 1) d) (fun c => do
        let (m, c) ← Json.readPair (Value.read (depth + 1)) c
        return (m :: members, c)) :=
  (Json.Field.agree_readPair (R := fun d m => Mirrors d (found (m :: members)))
    (agree_readNamed depth h)).mapRight (S := fun d members => Mirrors d (found members))
    (g := (· :: members)) fun _ _ hnext => hnext

/-- The strings of a list are the same in canonical form. -/
theorem textList_canonical (v : Value) : textList v.canonical = textList v := by
  cases v with
  | array items =>
      rw [Value.canonical_array]
      simp only [textList, texts, List.filterMap_map]
      refine congrArg (List.filterMap · items) (funext fun item => ?_)
      cases item <;> rfl
  | _ => rfl

/-- The strings of a list or a string alone are the same in canonical form. -/
theorem textOrList_canonical (v : Value) : textOrList v.canonical = textOrList v := by
  cases v with
  | string s => rfl
  | array items =>
      have hlist := textList_canonical (.array items)
      rw [Value.canonical_array] at hlist ⊢
      exact hlist
  | _ => rfl

/-- A draft says the same of values in canonical form. -/
theorem Mirrors.canonical (h : Mirrors d values) :
    Mirrors d fun key => (values key).map Value.canonical := by
  have hnull : ∀ {α : Type} (kind : α → Value), (∀ a, (kind a).canonical = kind a) →
      Value.canonical ∘ orNull kind = orNull kind := by
    intro α kind hkind
    funext a
    cases a with
    | none => rfl
    | some a => exact hkind a
  have htext := hnull Value.string fun _ => rfl
  have hword := hnull wordValue fun _ => rfl
  constructor
  · rw [h.sub, Option.map_map]
    rfl
  · rw [h.upn, Option.map_map, htext]
  · rw [h.name, Option.map_map, htext]
  · rw [h.groups, Option.map_map]
    exact congrArg (Option.map · _) (funext fun v => (textList_canonical v).symm)
  · rw [h.expiry, Option.map_map]
    rfl
  · rw [h.issuedAt, Option.map_map, hword]
  · rw [h.issuer, Option.map_map, htext]
  · rw [h.audiences, Option.map_map]
    exact congrArg (Option.map · _) (funext fun v => (textOrList_canonical v).symm)

/-- Groups are the strings of a list. -/
theorem listed_eq (found : Option Value) : listed found = (found.map textList).getD [] := by
  rcases found with - | v
  · rfl
  · cases v <;> rfl

/-- Audiences are a string alone or the strings of a list. -/
theorem listedOrAlone_eq (found : Option Value) :
    listedOrAlone found = (found.map textOrList).getD [] := by
  rcases found with - | v
  · rfl
  · cases v <;> rfl

/-- The claims of a draft say what the draft says. -/
theorem agreesWith_of_mirrors {raw : Value} {claims : Claims} (h : Mirrors d raw.member?)
    (hclaims : ofDraft? d = some claims) : claims.AgreesWith raw := by
  rcases Option.bind_eq_some_iff.1 hclaims with ⟨sub, hsub, hrest⟩
  rcases Option.bind_eq_some_iff.1 hrest with ⟨expiry, hexpiry, hfinish⟩
  rw [← Option.some.inj hfinish]
  have hnull : ∀ {α : Type} (kind : α → Value) (a : Option (Option α)),
      (a.map (orNull kind)).getD .null = orNull kind (a.getD none) := by
    intro α kind a
    cases a <;> rfl
  constructor
  · rw [h.sub, hsub]
    rfl
  · rw [h.upn, hnull]
  · rw [h.name, hnull]
  · rw [h.groups, listed_eq]
  · rw [h.expiry, hexpiry]
    rfl
  · rw [h.issuedAt, hnull]
  · rw [h.issuer, hnull]
  · rw [h.audiences, listedOrAlone_eq]

end Draft

/-- The claims of a payload that stands as an object say what the object says. -/
theorem agreesWith_of_decode {payload rest : List Char} {claims : Claims} {raw : Value}
    (hclaims : decode payload = .ok claims)
    (hobject : (Json.Cursor.start payload).skipSpace.rest = '\x7b' :: rest)
    (hraw : Json.parse payload = .ok raw) :
    (∃ members, raw = .object members) ∧ claims.AgreesWith raw := by
  rcases draft_of_decode hclaims hobject with ⟨d, c, hread, -, hdraft⟩
  cases hrun : Json.Reader.run (Value.read Json.nestingLimit) payload with
  | error fault => simp [Json.parse, hrun, Except.map] at hraw
  | ok v =>
      have hcanonical : v.canonical = raw := by
        rw [Json.parse, hrun] at hraw
        exact Except.ok.inj hraw
      rcases Json.read_of_run hrun with ⟨c', hvalue⟩
      rcases Value.members_of_read hobject hvalue with ⟨members, rfl, hmembers⟩
      have hstart : Mirrors ({ } : Draft) (found []) := by
        constructor <;> rfl
      have hagree := Agree.readMembers
        (fun _ _ h => agree_readMember (Json.nestingLimit - 2) h) hstart
      have hmirrors := (hagree.inObject hread hmembers).2
      have hfound : (Value.object members.reverse).member? = found members := by
        funext key
        rw [Value.member?, List.reverse_reverse]
        rfl
      constructor
      · rw [← hcanonical, Value.canonical_object]
        exact ⟨_, rfl⟩
      · refine agreesWith_of_mirrors ?_ hdraft
        refine hmirrors.canonical.congr fun key _ => ?_
        rw [← hcanonical, Value.member?_canonical, hfound]

end Claims

/-! ## Accepted tokens -/

/-- What is decoded has no equals signs. -/
theorem Base64.not_mem_of_decode? {text : List Char} {bytes : List UInt8}
    (h : decode? text = some bytes) : '=' ∉ text := by
  rcases Option.bind_eq_some_iff.1 h with ⟨sextets, hsextets, -⟩
  clear h
  induction text generalizing sextets with
  | nil => exact List.not_mem_nil
  | cons c text ih =>
      rw [List.mapM_cons] at hsextets
      rcases Option.bind_eq_some_iff.1 hsextets with ⟨n, hn, hrest⟩
      rcases Option.bind_eq_some_iff.1 hrest with ⟨more, hmore, -⟩
      rintro (_ | ⟨_, hmem⟩)
      · contradiction
      · exact ih more hmore hmem

/-- What is decoded is not shortened when equals signs at its end are cut off. -/
theorem TokenHeading.cut_of_partText? {part : List Char} {text : String}
    (h : partText? part = some text) : (part.reverse.dropWhile (· = '=')).reverse = part := by
  rcases Option.map_eq_some_iff.1 h with ⟨bytes, hbytes, -⟩
  have hmem : '=' ∉ part.reverse := fun hmem =>
    Base64.not_mem_of_decode? hbytes (List.mem_reverse.1 hmem)
  cases hpart : part.reverse with
  | nil => rw [List.reverse_eq_nil_iff.1 hpart]; rfl
  | cons c rest =>
      have hother : c ≠ '=' := fun hsame => hmem (hpart ▸ hsame ▸ List.mem_cons_self)
      rw [List.dropWhile_cons_of_neg (by simpa using hother), ← hpart, List.reverse_reverse]

namespace Verifier

variable {v : Verifier} {now : Json.Word} {token : String} {claims : Claims}

/-- The payload of a token is cut out and decoded as it is by a verifier. -/
theorem introspect_of_bears {payload : List Char} (h : v.Bears token payload) {raw : Value} :
    introspect token = .ok raw ↔
      Json.parse payload = .ok raw ∧ ∃ members, raw = .object members := by
  rcases h with ⟨parts, hparts, hpayload⟩
  rcases (payload?_eq_ok_iff.1 hpayload).2.2 with ⟨text, htext, rfl⟩
  simp only [introspect, hparts, Option.bind_eq_bind, Option.bind_some,
    TokenHeading.cut_of_partText? htext, htext]
  cases hparse : Json.parse text.toList with
  | error fault => simp [Except.toOption]
  | ok value =>
      cases value with
      | object members =>
          simp only [Except.toOption, Except.ok.injEq]
          exact ⟨fun hsame => ⟨hsame, members, hsame.symm⟩, And.left⟩
      | _ =>
          simp only [Except.toOption, reduceCtorEq, Except.ok.injEq, false_iff]
          rintro ⟨rfl, members, hobject⟩
          contradiction

/-- Of an accepted token introspection shows the payload, if it can be read as an object of any
kind, and the claims that have been verified are what its members say. -/
theorem introspect_agrees (h : v.verify now token = .ok claims) :
    ∃ payload, v.Bears token payload ∧ ∀ raw,
      (introspect token = .ok raw ↔ Json.parse payload = .ok raw) ∧
      (Json.parse payload = .ok raw → claims.AgreesWith raw) := by
  rcases verify_eq_ok_iff.1 h with ⟨stated, ⟨payload, hbears, hdecode, huse⟩, -⟩
  rcases UseClaims.object_of_stated hdecode huse with ⟨rest, hobject⟩
  refine ⟨payload, hbears, fun raw => ⟨?_, fun hraw => ?_⟩⟩
  · rw [introspect_of_bears hbears, and_iff_left_iff_imp]
    exact fun hraw => (Claims.agreesWith_of_decode hdecode hobject hraw).1
  · exact (Claims.agreesWith_of_decode hdecode hobject hraw).2

/-- A token with a principal name and a group that is no string. -/
def groupToken : String :=
  "eyJhbGciOiJSUzI1NiJ9.eyJhZF9ncm91cHMiOlsiYSIsN10sImV4cCI6OSwic3ViIjoidSIsInVwbiI6InAifQ."

/-- The claims of the token with a group that is no string. -/
def groupClaims : Claims := { webClaims with upn := some "p", groups := ["a"], audiences := [] }

/-- The token with a group that is no string is shown as it was verified. -/
theorem introspect_agrees_of_group :
    ∃ raw, introspect groupToken = .ok raw ∧ groupClaims.AgreesWith raw := by
  have haccepted : permissive.verify (.ofNat 30) groupToken = .ok groupClaims :=
    Json.toOption_eq_some_iff.1 (by decide +kernel)
  have hshown : (introspect groupToken).toOption.isSome = true := by decide +kernel
  rcases introspect_agrees haccepted with ⟨payload, -, hraw⟩
  rcases Option.isSome_iff_exists.1 hshown with ⟨raw, hsome⟩
  have hok := Json.toOption_eq_some_iff.1 hsome
  exact ⟨raw, hok, (hraw raw).2 ((hraw raw).1.1 hok)⟩

end Verifier
end Gatehouse
