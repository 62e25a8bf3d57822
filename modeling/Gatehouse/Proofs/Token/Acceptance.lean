import Gatehouse.Proofs.Json.Members
import Gatehouse.Proofs.Token.Requirements

/-!
# Which tokens are accepted

A verifier that requires neither an issuer nor an audience accepts the tokens that are
signed, name a subject, have not expired, are no refresh tokens and speak for someone.  The
payload is read twice, and the second reading stumbles over nothing that the first one has
read, as long as no start of validity is stated.

Main results:

- Theorem {lit}`Claims.names_of_decode`: claims that stand as an object have named members,
  the subject among them.
- Theorem {lit}`UseClaims.stated_of_decode`: claims without a start of validity are read a
  second time.
- Theorem {lit}`Verifier.verify_unrestricted`: which tokens are accepted where nothing is
  required of issuer and audience.
- Theorem {lit}`Verifier.accepts_refresh_iff`: which refresh tokens are accepted.
-/

namespace Gatehouse

open Json (Agree Leads SteppedOver anyValues memberNames? noteName)

/-! ## The members of a payload -/

namespace Claims

/-- Whoever reads a member of the claims comes upon its name. -/
theorem leads_readMember {bound depth : Nat} {R : Draft → List String → Prop} {d : Draft}
    {names : List String}
    (h : ∀ name d', (name ≠ "sub" → d'.sub = d.sub) → R d' (name :: names)) :
    Leads bound R (Json.Field.readMember fields depth d) (noteName names) := by
  refine Json.Field.leads_noteName fun name => ?_
  cases noted_readNamed name depth d with
  | intro note hread hstepped hsub haud =>
      rw [hread]
      exact (hstepped.leads bound).mapLeft fun a _ _ => h name _ fun hname => hsub hname a

/-- The claims of a draft have its subject. -/
theorem sub_of_ofDraft? {d : Draft} {claims : Claims} (h : ofDraft? d = some claims) :
    d.sub = some claims.sub := by
  rcases Option.bind_eq_some_iff.1 h with ⟨sub, hsub, hexpiry⟩
  rcases Option.bind_eq_some_iff.1 hexpiry with ⟨expiry, -, hclaims⟩
  rw [hsub, ← Option.some.inj hclaims]

/-- Claims that are read stand as a list or as an object, which is read into a draft. -/
theorem draft_of_decode {payload rest : List Char} {claims : Claims}
    (h : decode payload = .ok claims)
    (hobject : (Json.Cursor.start payload).skipSpace.rest = '\x7b' :: rest) :
    ∃ d c, Json.inObject (Json.readMembers
        (Json.Field.readMember fields (Json.nestingLimit - 1)) { })
        (Json.Cursor.start payload).skipSpace = .ok (d, c) ∧
      Json.readEnd c = .ok () ∧ ofDraft? d = some claims := by
  rcases Json.run_eq_ok_iff.1 h with ⟨c, hread, hend⟩
  rcases Json.finishRecord_ok hread with ⟨d, hrecord, hdraft⟩
  exact ⟨d, c, Json.readRecord_object hobject hrecord, hend, hdraft⟩

/-- Claims that stand as an object have named members, the subject among them. -/
theorem names_of_decode {payload rest : List Char} {claims : Claims}
    (h : decode payload = .ok claims)
    (hobject : (Json.Cursor.start payload).skipSpace.rest = '\x7b' :: rest) :
    ∃ names, memberNames? payload = some names ∧ "sub" ∈ names := by
  rcases draft_of_decode h hobject with ⟨d, c, hread, hend, hdraft⟩
  -- the subject is in the draft only if its name has been noted
  let Known (d : Draft) (names : List String) : Prop := d.sub.isSome = true → "sub" ∈ names
  have hmembers : ∀ bound, Leads bound Known
      (Json.readMembers (Json.Field.readMember fields (Json.nestingLimit - 1)) { })
      (Json.readMembers noteName []) := by
    intro bound
    refine Leads.readMembers (fun d names hknown => leads_readMember ?_) (by simp [Known])
    intro name d' hsub hsome
    by_cases hname : name = "sub"
    · exact hname ▸ List.mem_cons_self
    · exact List.mem_cons_of_mem name (hknown (hsub hname ▸ hsome))
  rcases (hmembers _).inObject (Nat.le_succ _) hread with ⟨-, names, hnoted, hknown⟩
  refine ⟨names, Json.memberNames?_eq_some hobject hnoted hend, hknown ?_⟩
  rw [sub_of_ofDraft? hdraft]
  rfl

end Claims

namespace UseClaims

/-- The two readings of a payload part at the start of validity only. -/
theorem parallel_readMember (depth : Nat) :
    Json.Parallel "nbf" SameAudience (Json.Field.readMember Claims.fields depth)
      (Json.Field.readMember fields depth) := by
  intro d d₁ d' name c c' e hsame hname hother hread
  rcases Json.Field.readNamed_of_readMember hname hread with ⟨f, hcolon, hvalue⟩
  by_cases haud : name = "aud"
  · -- both readings keep the audience, and neither has come upon one before
    subst haud
    have habsent := Json.Field.not_given_of_readMember hname rfl hread
    rcases Json.return_eq_ok hvalue with ⟨v, hstands, rfl⟩
    have hnone : d'.audience.isSome = false := by
      rw [← Option.isSome_map (f := Claims.textOrList), ← hsame]
      exact habsent
    refine ⟨{ d' with audience := some v }, ?_, rfl⟩
    rw [Json.Field.readMember_of_some hname rfl hnone hcolon]
    exact Json.bind_eq_ok.2 ⟨⟨v, _⟩, hstands, rfl⟩
  · -- the second reading steps over what the first one reads
    have hnone : (fields.find? fun field => field.name == name) = none := by
      simp [fields, Ne.symm haud, Ne.symm hother]
    cases Claims.noted_readNamed name depth d with
    | intro note hnoted hstepped hsub hkept =>
        rw [hnoted] at hvalue
        rcases Json.return_eq_ok hvalue with ⟨a, hstands, rfl⟩
        rcases hstepped.leads _ (Nat.le_refl _) hstands with ⟨-, ⟨⟩, hskip, -⟩
        exact ⟨d', Json.Field.readMember_of_none hname hnone hcolon hskip,
          (hkept haud a).trans hsame⟩

/-- An object that is read states its audience. -/
theorem read_of_object {payload rest : List Char} {d : Draft} {c : Json.Cursor}
    (hobject : (Json.Cursor.start payload).skipSpace.rest = '\x7b' :: rest)
    (hread : readObject (Json.Cursor.start payload).skipSpace = .ok (d, c))
    (hend : Json.readEnd c = .ok ()) : read payload = .stated d.audience := by
  have hrun : Json.Reader.run (fun c => readObject c.skipSpace) payload = .ok d :=
    Json.run_eq_ok_iff.2 ⟨c, hread, hend⟩
  unfold read
  split
  · rename_i hlist
    rw [hobject] at hlist
    exact nomatch hlist
  · rw [hrun]

/-- Claims that stand as an object without a start of validity are read a second time. -/
theorem stated_of_decode {payload : List Char} {claims : Claims} {names : List String}
    (hclaims : Claims.decode payload = .ok claims)
    (hnames : memberNames? payload = some names) (hstart : "nbf" ∉ names) :
    ∃ stated, read payload = .stated stated := by
  rcases Json.object_of_memberNames? hnames with ⟨c', rest, hobject, hnoted⟩
  rcases Claims.draft_of_decode hclaims hobject with ⟨d, c, hread, hend, -⟩
  have hagree : ∀ d names, Agree anyValues
      (Json.Field.readMember Claims.fields (Json.nestingLimit - 1) d) (noteName names) :=
    fun _ _ => Leads.agree fun _ => Claims.leads_readMember fun _ _ _ => trivial
  have hsame : SameAudience ({ } : Claims.Draft) ({ } : Draft) := rfl
  rcases (parallel_readMember _).inObject hagree hsame hread hnoted hstart with ⟨d', hread', -⟩
  exact ⟨d'.audience, read_of_object hobject hread' hend⟩

/-- Claims that are read a second time stand as an object. -/
theorem object_of_stated {payload : List Char} {claims : Claims} {stated : Option Json.Value}
    (hclaims : Claims.decode payload = .ok claims) (hstated : read payload = .stated stated) :
    ∃ rest, (Json.Cursor.start payload).skipSpace.rest = '\x7b' :: rest := by
  rcases Json.read_of_run hclaims with ⟨c, hread⟩
  rcases Json.finishRecord_ok hread with ⟨d, hrecord, -⟩
  rcases Json.readRecord_start hrecord with ⟨rest, hlist | hobject⟩
  · simp only [read, hlist] at hstated
    split at hstated
    · split at hstated <;> exact nomatch hstated
    · exact nomatch hstated
  · exact ⟨rest, hobject⟩

end UseClaims

/-! ## Tokens -/

namespace Verifier

variable {v : Verifier} {now : Json.Word} {token : String}

/-- Whether the signature of a token is valid for its heading and its payload. -/
def Signed (v : Verifier) (parts : TokenParts) : Prop :=
  ∃ accepts signature, v.signature = some accepts ∧
    Base64.decode? parts.signature = some signature ∧ accepts parts.signed signature = true

/-- The payload of a token is looked at if its heading names the one algorithm and its
signature is valid. -/
theorem payload?_eq_ok_iff {parts : TokenParts} {payload : List Char} :
    v.payload? parts = .ok payload ↔
      TokenHeading.read? parts.heading = some .rs256 ∧ v.Signed parts ∧
        ∃ text, TokenHeading.partText? parts.payload = some text ∧ payload = text.toList := by
  unfold payload? Signed
  cases TokenHeading.read? parts.heading with
  | none => simp
  | some algorithm =>
      by_cases halgorithm : algorithm = .rs256
      · cases v.signature with
        | none => simp [halgorithm]
        | some accepts => cases Base64.decode? parts.signature with
          | none => simp [halgorithm]
          | some signature => cases haccepts : accepts parts.signed signature with
            | false => simp [halgorithm, haccepts]
            | true => cases TokenHeading.partText? parts.payload with
              | none => simp [halgorithm, haccepts]
              | some text =>
                  simp only [halgorithm, haccepts, Bool.not_true, Option.some.injEq]
                  simp [haccepts, eq_comm (a := payload)]
      · simp [halgorithm]

/-- A token without a payload that is looked at is malformed or wrongly signed. -/
theorem payload?_eq_error {parts : TokenParts} {fault : AuthFault}
    (h : v.payload? parts = .error fault) : fault = .malformed ∨ fault = .badSignature := by
  unfold payload? at h
  split at h
  · exact .inl (Except.error.inj h).symm
  · split at h
    · exact .inr (Except.error.inj h).symm
    · split at h
      · split at h
        · exact .inr (Except.error.inj h).symm
        · split at h
          · exact .inl (Except.error.inj h).symm
          · exact nomatch h
      · exact .inl (Except.error.inj h).symm

/-- Faults of the claims are found in signed tokens only. -/
theorem signed_of_claimFault {fault : AuthFault} (h : v.verify now token = .error fault)
    (hfault : fault = .expired ∨ ∃ reason, fault = .invalidClaims reason) :
    ∃ parts, TokenParts.parts? (Text.trimList token.toList) = some parts ∧ v.Signed parts := by
  -- what is found before the signature has been checked is another fault
  have hlater : fault ≠ .missing ∧ fault ≠ .malformed ∧ fault ≠ .badSignature := by
    rcases hfault with rfl | ⟨reason, rfl⟩
    · simp
    · simp
  simp only [verify] at h
  split at h
  · exact absurd (Except.error.inj h).symm hlater.1
  · split at h
    · exact absurd (Except.error.inj h).symm hlater.2.1
    · rename_i parts hparts
      cases hpayload : v.payload? parts with
      | error earlier =>
          rw [hpayload] at h
          have hsame : earlier = fault := Except.error.inj h
          rcases payload?_eq_error (hsame ▸ hpayload) with hmalformed | hunsigned
          · exact absurd hmalformed hlater.2.1
          · exact absurd hunsigned hlater.2.2
      | ok payload => exact ⟨parts, hparts, (payload?_eq_ok_iff.1 hpayload).2.1⟩

/-- What a token shows that is accepted where nothing is required of issuer and audience. -/
structure Shows (v : Verifier) (now : Json.Word) (parts : TokenParts) (payload : String)
    (claims : Claims) : Prop where
  heading : TokenHeading.read? parts.heading = some .rs256
  signed : v.Signed parts
  text : TokenHeading.partText? parts.payload = some payload
  /-- The payload is an object, and one of its members is the subject. -/
  subject : ∃ names, memberNames? payload.toList = some names ∧ "sub" ∈ names
  states : Claims.decode payload.toList = .ok claims
  unexpired : now.val - v.requirements.leeway.val ≤ claims.expiry.val
  access : Requirements.refreshAudience ∉ claims.audiences
  principal : Text.isBlankText claims.principal = false

/-- Where nothing is required of issuer and audience, nothing is contradicted. -/
theorem not_contradicted_of_none {r : Requirements} {claims : Claims}
    {stated : Option Json.Value} (hissuer : r.issuer = none) (haudience : r.audience = none) :
    ¬ r.Contradicted claims stated := by
  rintro (⟨hrequired, -, -⟩ | ⟨hrequired, -, -, -⟩)
  · rw [hissuer] at hrequired
    exact nomatch hrequired
  · rw [haudience] at hrequired
    exact nomatch hrequired

/-- Access needs a principal and, where no audience is required, another audience than that
of refresh tokens. -/
theorem checkAccess_eq_ok_iff {r : Requirements} {claims : Claims} :
    r.checkAccess claims = .ok () ↔
      (r.audience = none → Requirements.refreshAudience ∉ claims.audiences) ∧
        Text.isBlankText claims.principal = false := by
  unfold Requirements.checkAccess Claims.hasAudience
  cases r.audience with
  | some audience => cases Text.isBlankText claims.principal <;> simp
  | none =>
      by_cases hrefresh : Requirements.refreshAudience ∈ claims.audiences
      · simp [hrefresh]
      · cases Text.isBlankText claims.principal <;> simp [hrefresh]

/-- Where the leeway does not reach back beyond the start of the clock, a token is unexpired
as long as its expiry is no earlier than now, less the leeway. -/
theorem isExpired_eq_false_iff {r : Requirements} {expiry : Json.Word} (h : r.leeway ≤ now) :
    r.isExpired now expiry = false ↔ now.val - r.leeway.val ≤ expiry.val := by
  rw [Requirements.isExpired, decide_eq_false_iff_not, Fin.lt_def, Nat.not_lt,
    Fin.sub_val_of_le h]

/-- A verifier that requires neither an issuer nor an audience accepts exactly the tokens that
show all of this, as long as they state no start of validity; and it finds a fault in the
claims of signed tokens only. -/
theorem verify_unrestricted (hissuer : v.requirements.issuer = none)
    (haudience : v.requirements.audience = none) (hleeway : v.requirements.leeway ≤ now)
    (hstart : ∀ parts payload names,
      TokenParts.parts? (Text.trimList token.toList) = some parts →
      TokenHeading.partText? parts.payload = some payload →
      memberNames? payload.toList = some names → "nbf" ∉ names) :
    (∀ claims, v.verify now token = .ok claims ↔
      ∃ parts payload, TokenParts.parts? (Text.trimList token.toList) = some parts ∧
        v.Shows now parts payload claims) ∧
    (∀ fault, v.verify now token = .error fault →
      (fault = .expired ∨ ∃ reason, fault = .invalidClaims reason) →
      ∃ parts, TokenParts.parts? (Text.trimList token.toList) = some parts ∧
        v.Signed parts) := by
  refine ⟨fun claims => ?_, fun fault hrefused hfault => signed_of_claimFault hrefused hfault⟩
  rw [verify_eq_ok_iff]
  constructor
  · rintro ⟨stated, ⟨payload, ⟨parts, hparts, hpayload⟩, hdecode, huse⟩, hcurrent, -, haccess⟩
    rcases payload?_eq_ok_iff.1 hpayload with ⟨hheading, hsigned, text, htext, rfl⟩
    rcases UseClaims.object_of_stated hdecode huse with ⟨rest, hobject⟩
    rw [checkAccess_eq_ok_iff] at haccess
    exact ⟨parts, text, hparts, hheading, hsigned, htext,
      Claims.names_of_decode hdecode hobject, hdecode,
      (isExpired_eq_false_iff hleeway).1 hcurrent, haccess.1 haudience, haccess.2⟩
  · rintro ⟨parts, text, hparts, hshows⟩
    rcases hshows.subject with ⟨names, hnames, -⟩
    have hnone := hstart parts text names hparts hshows.text hnames
    rcases UseClaims.stated_of_decode hshows.states hnames hnone with ⟨stated, huse⟩
    have hpayload : v.payload? parts = .ok text.toList :=
      payload?_eq_ok_iff.2 ⟨hshows.heading, hshows.signed, text, hshows.text, rfl⟩
    exact ⟨stated, ⟨text.toList, ⟨parts, hparts, hpayload⟩, hshows.states, huse⟩,
      (isExpired_eq_false_iff hleeway).2 hshows.unexpired,
      not_contradicted_of_none hissuer haudience,
      checkAccess_eq_ok_iff.2 ⟨fun _ => hshows.access, hshows.principal⟩⟩

/-! ### An ordinary token -/

/-- A verifier that requires nothing and takes every signature. -/
def permissive : Verifier := ⟨some fun _ _ => true, { leeway := .ofNat 30 }⟩

/-- A token for one audience. -/
def webToken : String :=
  "eyJhbGciOiJSUzI1NiJ9.eyJhdWQiOlsid2ViIl0sImV4cCI6OSwic3ViIjoidSJ9."

/-- The parts of the token for one audience. -/
def webParts : TokenParts where
  heading := "eyJhbGciOiJSUzI1NiJ9".toList
  payload := "eyJhdWQiOlsid2ViIl0sImV4cCI6OSwic3ViIjoidSJ9".toList
  signature := []

/-- The payload of the token for one audience. -/
def webPayload : String := "\x7b\"aud\":[\"web\"],\"exp\":9,\"sub\":\"u\"\x7d"

/-- The claims of the token for one audience. -/
def webClaims : Claims where
  sub := "u"
  upn := none
  name := none
  groups := []
  expiry := .ofNat 9
  issuedAt := none
  issuer := none
  audiences := ["web"]

/-- The token for one audience is accepted. -/
theorem verify_web_unrestricted : permissive.verify (.ofNat 30) webToken = .ok webClaims := by
  have hparts : TokenParts.parts? (Text.trimList webToken.toList) = some webParts := by
    decide +kernel
  have htext : TokenHeading.partText? webParts.payload = some webPayload := by decide +kernel
  have hnames : memberNames? webPayload.toList = some ["sub", "exp", "aud"] := by
    decide +kernel
  have hshows : permissive.Shows (.ofNat 30) webParts webPayload webClaims :=
    { heading := by decide +kernel
      signed := ⟨fun _ _ => true, [], rfl, by decide +kernel, rfl⟩
      text := htext
      subject := ⟨_, hnames, by decide⟩
      states := Json.toOption_eq_some_iff.1 (by decide +kernel)
      unexpired := by decide
      access := by decide
      principal := by decide +kernel }
  refine ((verify_unrestricted rfl rfl (by decide) ?_).1 webClaims).2
    ⟨webParts, webPayload, hparts, hshows⟩
  intro parts payload names hparts' htext' hnames'
  rw [hparts, Option.some.injEq] at hparts'
  rw [← hparts', htext, Option.some.injEq] at htext'
  rw [← htext', hnames, Option.some.injEq] at hnames'
  rw [← hnames']
  decide

/-- A token with a third member beside its expiry and its subject, the string of which is one
stray byte. -/
def strayToken : String :=
  "eyJhbGciOiJSUzI1NiJ9.eyJleHAiOjksInN1YiI6InUiLCJ4Ijoi_yJ9."

example : permissive.verify (.ofNat 30) strayToken = .ok { webClaims with audiences := [] } :=
  Json.toOption_eq_some_iff.1 (by decide +kernel)

end Verifier

/-! ## Refresh tokens -/

namespace Requirements

variable {audience : String} {v : Json.Value}

/-- Audiences with that of refresh tokens among them that pass for the required one. -/
inductive Overlooked (audience : String) : Json.Value → Prop
  /-- The audience of refresh tokens is required. -/
  | alone (required : audience = refreshAudience) : Overlooked audience (.string refreshAudience)
  /-- The required audience stands beside it. -/
  | among {items : List Json.Value} (refresh : .string refreshAudience ∈ items)
      (named : .string audience ∈ items) : Overlooked audience (.array items)
  /-- Something that is no string stands beside it. -/
  | mixed {items : List Json.Value} {other : Json.Value} (refresh : .string refreshAudience ∈ items)
      (beside : other ∈ items) (strange : TokenHeading.isText other = false) :
      Overlooked audience (.array items)

/-- The strings among some values. -/
theorem mem_texts_iff {items : List Json.Value} {s : String} :
    s ∈ Claims.texts items ↔ .string s ∈ items := by
  unfold Claims.texts
  rw [List.mem_filterMap]
  constructor
  · rintro ⟨item, hitem, htext⟩
    cases item with
    | string t => exact Option.some.inj htext ▸ hitem
    | _ => exact nomatch htext
  · intro hitem
    exact ⟨.string s, hitem, rfl⟩

/-- An audience is overlooked exactly if it names that of refresh tokens, and the required
one as far as it can be compared. -/
theorem overlooked_iff :
    Overlooked audience v ↔
      refreshAudience ∈ Claims.textOrList v ∧
        (isComparable v = true → audience ∈ Claims.textOrList v) := by
  constructor
  · rintro (hrequired | ⟨hrefresh, hnamed⟩ | ⟨hrefresh, hbeside, hstrange⟩)
    · simp [Claims.textOrList, hrequired]
    · exact ⟨mem_texts_iff.2 hrefresh, fun _ => mem_texts_iff.2 hnamed⟩
    · refine ⟨mem_texts_iff.2 hrefresh, fun hcomparable => ?_⟩
      rw [isComparable, List.all_eq_true] at hcomparable
      exact absurd (hcomparable _ hbeside) (by simp [hstrange])
  · rintro ⟨hrefresh, hnamed⟩
    cases v with
    | string s =>
        have hs : refreshAudience = s := List.mem_singleton.1 hrefresh
        subst hs
        exact .alone (List.mem_singleton.1 (hnamed rfl))
    | array items =>
        have hrefresh := mem_texts_iff.1 hrefresh
        cases hcomparable : items.all TokenHeading.isText with
        | true => exact .among hrefresh (mem_texts_iff.1 (hnamed hcomparable))
        | false =>
            rw [List.all_eq_false] at hcomparable
            rcases hcomparable with ⟨other, hbeside, hstrange⟩
            exact .mixed hrefresh hbeside (by simpa using hstrange)
    | _ => exact absurd hrefresh List.not_mem_nil

end Requirements

namespace Verifier

variable {v : Verifier} {now : Json.Word} {token : String} {claims : Claims}

/-- A refresh token that is taken for an access token: an audience is required, and that of
the token is overlooked. -/
structure Mistakes (v : Verifier) (now : Json.Word) (token : String) (claims : Claims)
    (audience : String) (stated : Json.Value) : Prop where
  states : ∃ payload, v.Bears token payload ∧ Claims.decode payload = .ok claims ∧
    UseClaims.read payload = .stated (some stated)
  unexpired : v.requirements.isExpired now claims.expiry = false
  issued : v.requirements.allowsIssuer claims.issuer = true
  principal : Text.isBlankText claims.principal = false
  required : v.requirements.audience = some audience
  overlooked : Requirements.Overlooked audience stated

/-- A token is accepted although it is a refresh token exactly if it is signed and current,
an audience is required, and that of the token is overlooked. -/
theorem accepts_refresh_iff :
    v.verify now token = .ok claims ∧ Requirements.refreshAudience ∈ claims.audiences ↔
      ∃ audience stated, v.Mistakes now token claims audience stated := by
  rw [verify_eq_ok_iff]
  constructor
  · rintro ⟨⟨use, ⟨payload, hbears, hdecode, huse⟩, hcurrent, hunopposed, haccess⟩, hrefresh⟩
    rw [Requirements.not_contradicted_iff, Requirements.allowsAudience_iff] at hunopposed
    rw [checkAccess_eq_ok_iff] at haccess
    have haudiences := UseClaims.audiences_of_stated hdecode huse
    cases use with
    | none =>
        rw [haudiences] at hrefresh
        exact absurd hrefresh List.not_mem_nil
    | some stated =>
        have hnamed : Requirements.refreshAudience ∈ Claims.textOrList stated := by
          rw [haudiences] at hrefresh
          exact hrefresh
        cases hrequired : v.requirements.audience with
        | none =>
            -- without a required audience the access check finds the refresh token
            exact absurd hrefresh (haccess.1 hrequired)
        | some audience =>
            exact ⟨audience, stated, ⟨payload, hbears, hdecode, huse⟩, hcurrent, hunopposed.1,
              haccess.2, hrequired, Requirements.overlooked_iff.2
                ⟨hnamed, hunopposed.2 audience stated hrequired rfl⟩⟩
  · rintro ⟨audience, stated, ⟨payload, hbears, hdecode, huse⟩, hcurrent, hissued, hprincipal,
      hrequired, hoverlooked⟩
    rw [Requirements.overlooked_iff] at hoverlooked
    rw [UseClaims.audiences_of_stated hdecode huse]
    refine ⟨⟨some stated, ⟨payload, hbears, hdecode, huse⟩, hcurrent, ?_, ?_⟩, hoverlooked.1⟩
    · rw [Requirements.not_contradicted_iff, Requirements.allowsAudience_iff]
      refine ⟨hissued, fun audience' stated' hrequired' hstands => ?_⟩
      rw [hrequired, Option.some.injEq] at hrequired'
      rw [← hrequired', ← Option.some.inj hstands]
      exact hoverlooked.2
    · rw [checkAccess_eq_ok_iff, hrequired]
      exact ⟨fun hnone => (nomatch hnone), hprincipal⟩

/-- A verifier for the tokens of one audience that takes every signature. -/
def webOnly : Verifier :=
  ⟨some fun _ _ => true, { audience := some "web", leeway := .ofNat 30 }⟩

/-- A refresh token that names another audience beside its own. -/
def refreshToken : String :=
  "eyJhbGciOiJSUzI1NiJ9.eyJhdWQiOlsid2ViIiwicmVmcmVzaCJdLCJleHAiOjksInN1YiI6InUifQ."

/-- The claims of the refresh token. -/
def refreshClaims : Claims := { webClaims with audiences := ["web", "refresh"] }

/-- Refresh tokens are not always refused. -/
theorem not_always_refused :
    ¬ ∀ (v : Verifier) (now : Json.Word) (token : String) (claims : Claims),
      v.verify now token = .ok claims → Requirements.refreshAudience ∉ claims.audiences := by
  intro hrefused
  have haccepted : webOnly.verify (.ofNat 30) refreshToken = .ok refreshClaims :=
    Json.toOption_eq_some_iff.1 (by decide +kernel)
  exact absurd (hrefused _ _ _ _ haccepted) (by decide)

end Verifier
end Gatehouse
