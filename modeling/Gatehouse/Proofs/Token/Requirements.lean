import Gatehouse.Proofs.Json.Progress
import Gatehouse.Token.Verifier

/-!
# What accepted tokens show

A verifier may require an issuer and an audience.  It compares them with what a token
states: an issuer that is stated has to be the required one, and an audience that is stated
in a form that can be compared has to name the required one.  What a token does not state is
not asked for.

The audience is read twice, once generously for the claims and once as it stands.  Both
readings go along the same members, so that the audiences of the claims are the strings of
the audience that is compared.

Main results:

- Theorem {lit}`UseClaims.audiences_of_stated`: the audiences of the claims are the strings
  of the audience as it stands.
- Theorem {lit}`Verifier.verify_eq_ok_iff`: what a token shows that is accepted.
- Theorem {lit}`Verifier.accepts_unmet_iff`: which tokens are accepted although they do not
  meet the requirements.
-/

namespace Gatehouse

open Json (Agree SteppedOver TakesValue anyValues)

/-! ## Two readings of one payload -/

namespace Claims

/-- How a claim is noted in a draft: its value can be stepped over, and it changes the subject
and the audiences only if it is the one or the other. -/
inductive Noted (d : Draft) (name : String) (r : Json.Reader Draft) : Prop where
  | intro {α : Type} {value : Json.Reader α} (note : α → Draft)
      (hread : r = fun c => do
        let (a, c) ← value c
        return (note a, c))
      (hstepped : SteppedOver value)
      (hsub : name ≠ "sub" → ∀ a, (note a).sub = d.sub)
      (haud : name ≠ "aud" → ∀ a, (note a).audiences = d.audiences)

/-- All fields of the claims are noted so. -/
theorem noted_field {field : Json.Field Draft} (hfield : field ∈ fields) (depth : Nat)
    (d : Draft) : Noted d field.name (field.read depth d) := by
  have htext : SteppedOver readOptionalText := (Json.steppedOver_readText _).readOptional
  rcases List.mem_cons.1 hfield with rfl | hfield
  · exact .intro (fun a => { d with sub := some a }) rfl (Json.steppedOver_readText _)
      (fun h => absurd rfl h) fun _ _ => rfl
  rcases List.mem_cons.1 hfield with rfl | hfield
  · exact .intro (fun a => { d with upn := some a }) rfl htext (fun _ _ => rfl)
      fun _ _ => rfl
  rcases List.mem_cons.1 hfield with rfl | hfield
  · exact .intro (fun a => { d with name := some a }) rfl htext (fun _ _ => rfl)
      fun _ _ => rfl
  rcases List.mem_cons.1 hfield with rfl | hfield
  · exact .intro (fun a => { d with groups := some (textList a) }) rfl
      (Json.steppedOver_read depth) (fun _ _ => rfl) fun _ _ => rfl
  rcases List.mem_cons.1 hfield with rfl | hfield
  · exact .intro (fun a => { d with expiry := some a }) rfl Json.steppedOver_readWord64
      (fun _ _ => rfl) fun _ _ => rfl
  rcases List.mem_cons.1 hfield with rfl | hfield
  · exact .intro (fun a => { d with issuedAt := some a }) rfl
      Json.steppedOver_readWord64.readOptional (fun _ _ => rfl) fun _ _ => rfl
  rcases List.mem_cons.1 hfield with rfl | hfield
  · exact .intro (fun a => { d with issuer := some a }) rfl htext (fun _ _ => rfl)
      fun _ _ => rfl
  rcases List.mem_cons.1 hfield with rfl | hfield
  · exact .intro (fun a => { d with audiences := some (textOrList a) }) rfl
      (Json.steppedOver_read depth) (fun _ _ => rfl) fun h => absurd rfl h
  · exact absurd hfield List.not_mem_nil

/-- What stands behind a name is noted so, whether the name is that of a claim or not. -/
theorem noted_readNamed (name : String) (depth : Nat) (d : Draft) :
    Noted d name (Json.Field.readNamed fields depth d name) := by
  cases hfield : fields.find? fun field => field.name == name with
  | none =>
      rw [Json.Field.readNamed_of_none hfield]
      exact .intro (fun _ => d) rfl Json.steppedOver_skipValue (fun _ _ => rfl)
        fun _ _ => rfl
  | some field =>
      rw [Json.Field.readNamed_of_some hfield]
      have hname : field.name = name := by simpa using List.find?_some hfield
      exact hname ▸ noted_field (List.mem_of_find?_eq_some hfield) depth d

end Claims

namespace UseClaims

/-- A number that is tried is stepped over. -/
theorem skipNumber_of_tryNumber {c c' : Json.Cursor} {u : Unit}
    (h : tryNumber c = .ok (u, c')) : Json.skipNumber c = .ok (u, c') := by
  rcases Json.bind_eq_ok.1 h with ⟨⟨⟨⟩, behind⟩, hskip, hforgiven⟩
  rw [hskip, ← hforgiven]
  -- whatever is forgiven, the end is that of the number
  simp only at hforgiven ⊢
  split at hforgiven
  · split at hforgiven
    · rename_i hend
      rw [if_pos hend]
      rfl
    · exact nomatch hforgiven
  · rfl

/-- A start of validity takes the whole value. -/
theorem takesValue_readStart : TakesValue readStart := by
  refine Json.takesValue_of_end fun fuel c c₁ c₂ u hread hskip => ?_
  simp only [readStart] at hread
  split at hread
  · rename_i rest hrest
    simp only [Json.skipValueWith, hrest] at hskip
    exact (Json.agree_emptyList hread hskip).1
  · rename_i rest hrest
    simp only [Json.skipValueWith, hrest] at hskip
    exact (Json.agree_emptyObject hread hskip).1
  · rename_i rest hrest
    simp only [Json.skipValueWith, hrest] at hskip
    have hquoted := Json.agree_readQuoted.mapLeft (S := anyValues) (f := fun _ => ())
      fun _ _ h => h
    exact (hquoted hread hskip).1
  · rename_i rest hrest
    split at hread
    · rename_i hfirst
      rw [Json.skipValueWith_number hrest hfirst, skipNumber_of_tryNumber hread] at hskip
      exact congrArg Prod.snd (Except.ok.inj hskip)
    · rw [← Json.skipValueWith_skipSpace] at hskip
      exact (Json.steppedOver_skipValue.takesValue (fuel + 1) hread hskip).1
  · rw [← Json.skipValueWith_skipSpace] at hskip
    exact (Json.steppedOver_skipValue.takesValue (fuel + 1) hread hskip).1

/-- Whether the two readings have found the same audience so far. -/
def SameAudience (d : Claims.Draft) (d' : Draft) : Prop :=
  d.audiences = d'.audience.map Claims.textOrList

/-- Whether a reader takes the whole value and leaves the audiences of a draft alone. -/
def KeepsAudiences (d : Claims.Draft) (r : Json.Reader Claims.Draft) : Prop :=
  Agree (fun d' (_ : Unit) => d'.audiences = d.audiences) r Json.skipValue

/-- The value behind any other key leaves the audiences alone. -/
theorem keepsAudiences_readNamed {key : String} (haud : key ≠ "aud") (depth : Nat)
    (d : Claims.Draft) : KeepsAudiences d (Json.Field.readNamed Claims.fields depth d key) := by
  cases Claims.noted_readNamed key depth d with
  | intro note hread hstepped hsub hkept =>
      rw [hread]
      exact hstepped.takesValue.agree.mapLeft fun a _ _ => hkept haud a

/-- The two readings of the value behind a key go along, with the same audience. -/
theorem agree_readNamed (depth : Nat) {d : Claims.Draft} {d' : Draft} (h : SameAudience d d')
    (key : String) :
    Agree SameAudience (Json.Field.readNamed Claims.fields depth d key)
      (Json.Field.readNamed fields depth d' key) := by
  by_cases haud : key = "aud"
  · -- both readings keep the value as it stands
    subst haud
    have hsame := (Agree.refl (Json.Value.read depth)).mapLeft
      (S := fun x v => SameAudience x { d' with audience := some v })
      (f := fun v => { d with audiences := some (Claims.textOrList v) })
      fun _ _ hsame => hsame ▸ rfl
    exact hsame.mapRight fun _ _ h => h
  by_cases hnbf : key = "nbf"
  · -- only the second reading looks at the start of validity
    subst hnbf
    have hskip := takesValue_readStart.agree.symm.mapLeft
      (S := fun x _ => SameAudience x { d' with hasStart := true }) (f := fun _ => d)
      fun _ _ _ => h
    have hnone : (Claims.fields.find? fun field => field.name == "nbf") = none := rfl
    rw [Json.Field.readNamed_of_none hnone]
    exact hskip.mapRight fun _ _ h => h
  · -- the second reading steps over whatever else the claims hold
    have hnone : (fields.find? fun field => field.name == key) = none := by
      simp [fields, Ne.symm haud, Ne.symm hnbf]
    rw [Json.Field.readNamed_of_none hnone]
    exact Agree.mapRight (S := SameAudience) (g := fun _ => d')
      (keepsAudiences_readNamed haud depth d) fun _ _ hkept => hkept.trans h

/-- The audiences of claims are those of their draft. -/
theorem audiences_of_ofDraft? {d : Claims.Draft} {claims : Claims}
    (h : Claims.ofDraft? d = some claims) : claims.audiences = d.audiences.getD [] := by
  rcases Option.bind_eq_some_iff.1 h with ⟨sub, -, hexpiry⟩
  rcases Option.bind_eq_some_iff.1 hexpiry with ⟨expiry, -, hclaims⟩
  rw [← Option.some.inj hclaims]

/-- The audiences of the claims are the strings of the audience as it stands. -/
theorem audiences_of_stated {payload : List Char} {claims : Claims}
    {stated : Option Json.Value} (hclaims : Claims.decode payload = .ok claims)
    (hstated : read payload = .stated stated) :
    claims.audiences = (stated.map Claims.textOrList).getD [] := by
  rcases Json.read_of_run hclaims with ⟨c, hread⟩
  rcases Json.finishRecord_ok hread with ⟨d, hrecord, hdraft⟩
  unfold read at hstated
  split at hstated
  · -- a list is never stated
    split at hstated
    · split at hstated <;> exact nomatch hstated
    · exact nomatch hstated
  · rename_i hlist
    split at hstated
    · rename_i d' hrun
      rcases Json.read_of_run hrun with ⟨c', hread'⟩
      rcases Json.readRecord_start hrecord with ⟨rest, hrest | hrest⟩
      · exact absurd hrest (hlist rest)
      · have hmembers := Agree.readMembers (a := ({ } : Claims.Draft)) (b := ({ } : Draft))
          (fun _ _ h => Json.Field.agree_readMember (agree_readNamed (Json.nestingLimit - 1) h))
          rfl
        have hsame := (hmembers.inObject (Json.readRecord_object hrest hrecord) hread').2
        rw [audiences_of_ofDraft? hdraft, hsame, UseClaims.stated.inj hstated]
    · exact nomatch hstated

end UseClaims

/-! ## Requirements -/

namespace Requirements

variable {r : Requirements} {now : Json.Word} {claims : Claims} {stated : Option Json.Value}

/-- Whether claims name the required issuer and the required audience. -/
structure MetBy (r : Requirements) (claims : Claims) : Prop where
  issuer : ∀ issuer, r.issuer = some issuer → claims.issuer = some issuer
  audience : ∀ audience, r.audience = some audience → audience ∈ claims.audiences

/-- Whether an audience can be compared as it stands: a string or a list of strings. -/
def isComparable : Json.Value → Bool
  | .string _ => true
  | .array items => items.all TokenHeading.isText
  | _ => false

/-- Whether a token states another issuer or other audiences than required. -/
inductive Contradicted (r : Requirements) (claims : Claims) (stated : Option Json.Value) : Prop
  | issuer {issuer other : String} (required : r.issuer = some issuer)
      (claimed : claims.issuer = some other) (differs : issuer ≠ other)
  | audience {audience : String} {v : Json.Value} (required : r.audience = some audience)
      (stands : stated = some v) (comparable : isComparable v = true)
      (unnamed : audience ∉ Claims.textOrList v)

/-- Whether a token leaves open what is required: it has no issuer, or nothing that can be
compared with the audience. -/
inductive LeftOpen (r : Requirements) (claims : Claims) (stated : Option Json.Value) : Prop
  | issuer {issuer : String} (required : r.issuer = some issuer) (absent : claims.issuer = none)
  | audience {audience : String} (required : r.audience = some audience)
      (incomparable : ∀ v, stated = some v → isComparable v = false)
      (unnamed : audience ∉ claims.audiences)

/-- The strings of a list are as many as its items exactly if all of them are strings. -/
theorem texts_length_eq_iff (items : List Json.Value) :
    (Claims.texts items).length = items.length ↔ items.all TokenHeading.isText = true := by
  unfold Claims.texts
  rw [List.length_filterMap_eq_countP, List.countP_eq_length, List.all_eq_true]
  refine forall_congr' fun item => forall_congr' fun _ => ?_
  cases item <;> simp [TokenHeading.isText]

/-- An issuer is acceptable unless it is stated and another one is required. -/
theorem allowsIssuer_iff {issued : Option String} :
    r.allowsIssuer issued = true ↔
      ∀ issuer other, r.issuer = some issuer → issued = some other → issuer = other := by
  unfold allowsIssuer
  cases r.issuer with
  | none => simp
  | some issuer => cases issued with
    | none => simp
    | some other => simp

/-- An audience is acceptable unless it can be compared and does not name the required
one. -/
theorem allowsAudience_iff :
    r.allowsAudience stated = true ↔
      ∀ audience v, r.audience = some audience → stated = some v → isComparable v = true →
        audience ∈ Claims.textOrList v := by
  unfold allowsAudience
  cases r.audience with
  | none => simp
  | some audience =>
      cases stated with
      | none => simp
      | some v =>
          cases v with
          | string s => simp [isComparable, Claims.textOrList]
          | array items =>
              have hlength := texts_length_eq_iff items
              by_cases htexts : items.all TokenHeading.isText = true
              · simp [isComparable, Claims.textOrList, Claims.textList, htexts, hlength.2 htexts]
              · simp [isComparable, htexts, mt hlength.1 htexts]
          | _ => simp [isComparable]

/-- Nothing is contradicted exactly if issuer and audience are acceptable. -/
theorem not_contradicted_iff :
    ¬ r.Contradicted claims stated ↔
      r.allowsIssuer claims.issuer = true ∧ r.allowsAudience stated = true := by
  rw [allowsIssuer_iff, allowsAudience_iff]
  constructor
  · intro hopposed
    constructor
    · intro issuer other hrequired hclaimed
      exact Classical.byContradiction fun hdiffers =>
        hopposed (.issuer hrequired hclaimed hdiffers)
    · intro audience v hrequired hstands hcomparable
      exact Classical.byContradiction fun hunnamed =>
        hopposed (.audience hrequired hstands hcomparable hunnamed)
  · rintro ⟨hissuer, haudience⟩ (⟨hrequired, hclaimed, hdiffers⟩ |
      ⟨hrequired, hstands, hcomparable, hunnamed⟩)
    · exact hdiffers (hissuer _ _ hrequired hclaimed)
    · exact hunnamed (haudience _ _ hrequired hstands hcomparable)

/-- What is stated passes the checks exactly if it has not expired and contradicts
nothing. -/
theorem check_stated_eq_ok_iff :
    r.check now (.stated stated) claims = .ok () ↔
      r.isExpired now claims.expiry = false ∧ ¬ r.Contradicted claims stated := by
  rw [not_contradicted_iff]
  simp only [check]
  cases r.isExpired now claims.expiry with
  | true => simp
  | false => cases r.allowsIssuer claims.issuer with
    | false => simp
    | true => cases r.allowsAudience stated with
      | false => simp
      | true => simp

/-- Requirements that nothing contradicts are met exactly if none is left open. -/
theorem metBy_iff_not_leftOpen (hopposed : ¬ r.Contradicted claims stated)
    (haudiences : claims.audiences = (stated.map Claims.textOrList).getD []) :
    r.MetBy claims ↔ ¬ r.LeftOpen claims stated := by
  constructor
  · rintro hmet (⟨hrequired, habsent⟩ | ⟨hrequired, -, hunnamed⟩)
    · rw [hmet.issuer _ hrequired] at habsent
      exact nomatch habsent
    · exact hunnamed (hmet.audience _ hrequired)
  · intro hclosed
    rw [not_contradicted_iff, allowsIssuer_iff, allowsAudience_iff] at hopposed
    rcases hopposed with ⟨hissuer, haudience⟩
    constructor
    · intro issuer hrequired
      cases hclaimed : claims.issuer with
      | none => exact absurd (.issuer hrequired hclaimed) hclosed
      | some other => rw [hissuer issuer other hrequired hclaimed]
    · intro audience hrequired
      refine Classical.byContradiction fun hunnamed =>
        hclosed (.audience hrequired (fun v hstands => ?_) hunnamed)
      rw [haudiences, hstands] at hunnamed
      exact Bool.eq_false_iff.2 fun hcomparable =>
        hunnamed (haudience audience v hrequired hstands hcomparable)

end Requirements

/-! ## Accepted tokens -/

namespace Verifier

variable {v : Verifier} {now : Json.Word} {token : String} {claims : Claims}

/-- Whether a token bears a payload under a heading and a signature that are right. -/
def Bears (v : Verifier) (token : String) (payload : List Char) : Prop :=
  ∃ parts, TokenParts.parts? (Text.trimList token.toList) = some parts ∧
    v.payload? parts = .ok payload

/-- What a token shows that passes all checks: its claims, the audience as it stands, and
nothing that speaks against them. -/
structure Passes (v : Verifier) (now : Json.Word) (token : String) (claims : Claims)
    (stated : Option Json.Value) : Prop where
  states : ∃ payload, v.Bears token payload ∧ Claims.decode payload = .ok claims ∧
    UseClaims.read payload = .stated stated
  unexpired : v.requirements.isExpired now claims.expiry = false
  unopposed : ¬ v.requirements.Contradicted claims stated
  access : v.requirements.checkAccess claims = .ok ()

/-- A payload without stated claims about its use passes no check. -/
theorem stated_of_check {r : Requirements} {use : UseClaims}
    (h : r.check now use claims = .ok ()) : ∃ stated, use = .stated stated := by
  cases use with
  | unreadable => exact nomatch h
  | unlimited => exact nomatch h
  | stated audience => exact ⟨audience, rfl⟩

/-- What a payload shows that is accepted. -/
theorem accept_eq_ok_iff {r : Requirements} {payload : List Char} :
    accept r now payload = .ok claims ↔
      Claims.decode payload = .ok claims ∧
        r.check now (UseClaims.read payload) claims = .ok () ∧ r.checkAccess claims = .ok () := by
  unfold accept
  cases hdecode : Claims.decode payload with
  | error fault => simp
  | ok decoded =>
      constructor
      · intro h
        rcases Json.bind_eq_ok.1 h with ⟨_, hcheck, hrest⟩
        rcases Json.bind_eq_ok.1 hrest with ⟨_, haccess, hclaims⟩
        cases hclaims
        exact ⟨rfl, hcheck, haccess⟩
      · rintro ⟨hclaims, hcheck, haccess⟩
        cases hclaims
        exact Json.bind_eq_ok.2 ⟨(), hcheck, Json.bind_eq_ok.2 ⟨(), haccess, rfl⟩⟩

/-- The claims of a token are those of the payload that it bears. -/
theorem verify_eq_ok_iff_accept : v.verify now token = .ok claims ↔
    ∃ payload, v.Bears token payload ∧ accept v.requirements now payload = .ok claims := by
  unfold verify Bears
  dsimp only
  split
  · rename_i hempty
    rw [List.isEmpty_iff] at hempty
    simp [hempty, TokenParts.parts?, Text.splitList]
  · split
    · rename_i hparts
      simp [hparts]
    · rename_i parts hparts
      rw [Json.bind_eq_ok]
      simp [hparts]

/-- What a token shows that is accepted. -/
theorem verify_eq_ok_iff : v.verify now token = .ok claims ↔
    ∃ stated, v.Passes now token claims stated := by
  rw [verify_eq_ok_iff_accept]
  constructor
  · rintro ⟨payload, hbears, haccept⟩
    rcases accept_eq_ok_iff.1 haccept with ⟨hdecode, hcheck, haccess⟩
    rcases stated_of_check hcheck with ⟨stated, huse⟩
    rw [huse, Requirements.check_stated_eq_ok_iff] at hcheck
    exact ⟨stated, ⟨payload, hbears, hdecode, huse⟩, hcheck.1, hcheck.2, haccess⟩
  · rintro ⟨stated, ⟨payload, hbears, hdecode, huse⟩, hcurrent, hunopposed, haccess⟩
    refine ⟨payload, hbears, accept_eq_ok_iff.2 ⟨hdecode, ?_, haccess⟩⟩
    rw [huse, Requirements.check_stated_eq_ok_iff]
    exact ⟨hcurrent, hunopposed⟩

/-- A token that passes all checks meets the requirements exactly if it leaves none open. -/
theorem Passes.metBy_iff {stated : Option Json.Value} (h : v.Passes now token claims stated) :
    v.requirements.MetBy claims ↔ ¬ v.requirements.LeftOpen claims stated := by
  rcases h.states with ⟨payload, -, hdecode, huse⟩
  exact Requirements.metBy_iff_not_leftOpen h.unopposed
    (UseClaims.audiences_of_stated hdecode huse)

/-- A token is accepted although its claims do not meet the requirements exactly if it
passes all checks and leaves a requirement open. -/
theorem accepts_unmet_iff :
    v.verify now token = .ok claims ∧ ¬ v.requirements.MetBy claims ↔
      ∃ stated, v.Passes now token claims stated ∧
        v.requirements.LeftOpen claims stated := by
  rw [verify_eq_ok_iff]
  constructor
  · rintro ⟨⟨stated, hpasses⟩, hunmet⟩
    rw [hpasses.metBy_iff, Classical.not_not] at hunmet
    exact ⟨stated, hpasses, hunmet⟩
  · rintro ⟨stated, hpasses, hopen⟩
    refine ⟨⟨stated, hpasses⟩, ?_⟩
    rw [hpasses.metBy_iff, Classical.not_not]
    exact hopen

/-- A verifier for the tokens of one issuer that takes every signature. -/
def trusting : Verifier :=
  ⟨some fun _ _ => true, { issuer := some "tactix-auth", leeway := .ofNat 30 }⟩

/-- A token that states an expiry and a subject, and nothing else. -/
def unissuedToken : String := "eyJhbGciOiJSUzI1NiJ9.eyJleHAiOjksInN1YiI6InUifQ."

/-- The claims of the token that names no issuer. -/
def unissued : Claims where
  sub := "u"
  upn := none
  name := none
  groups := []
  expiry := .ofNat 9
  issuedAt := none
  issuer := none
  audiences := []

/-- The token that names no issuer is accepted. -/
theorem verify_unissued : trusting.verify (.ofNat 30) unissuedToken = .ok unissued := by
  have hsome : (trusting.verify (.ofNat 30) unissuedToken).toOption = some unissued := by
    decide +kernel
  cases hverify : trusting.verify (.ofNat 30) unissuedToken with
  | error fault =>
      rw [hverify] at hsome
      exact nomatch hsome
  | ok claims =>
      rw [hverify] at hsome
      rw [Option.some.inj hsome]

/-- A required issuer is not always the one of an accepted token. -/
theorem not_always_enforced :
    ¬ ∀ (v : Verifier) (now : Json.Word) (token : String) (claims : Claims),
      v.verify now token = .ok claims → v.requirements.MetBy claims := by
  intro henforced
  have hmet := henforced trusting (.ofNat 30) unissuedToken unissued verify_unissued
  exact nomatch hmet.issuer "tactix-auth" rfl

end Verifier
end Gatehouse
