import Gatehouse.Config.Settings
import Gatehouse.Proofs.Edge.NormalPath
import Gatehouse.Proofs.Edge.Passage

/-!
# Which paths an open path reaches

The gate asks for the path of a request as it stands, and the service behind the gate
receives it in normal form.  A request evades the gate if the first is open and the second is
not.

Main results:

- Theorem {lit}`Gate.onWire_of_bare`: the service receives the path in normal form.
- Theorem {lit}`Gate.evades_iff`: which requests evade a gate, and which of them evade some
  gate.
- Theorem {lit}`Gate.evades_of_climbing`: a plain path that is not open is reached by climbing
  out of one that is.
-/

namespace Gatehouse

/-! ## Targets of request lines -/

namespace Target

open Url (EndsHost readPath readPathAndQuery)

/-- Whether a target can be that of a request: a place starts with its path or its query,
and all of its characters are visible. -/
inductive Regular : Target → Prop
  | host : Regular .host
  | asterisk : Regular (.place "*")
  | place {text : String}
      (start : text.toList.head? = some '/' ∨ text.toList.head? = some '?')
      (visible : ∀ c ∈ text.toList, 0x20 < c.toNat) (whole : '#' ∉ text.toList) :
      Regular (.place text)

/-- The rest behind the mark of a scheme is the end of the text. -/
theorem afterScheme?_suffix {cs rest : List Char} (h : afterScheme? cs = some rest) :
    rest <:+ cs := by
  fun_induction afterScheme? cs with
  | case1 rest' => exact Option.some.inj h ▸ ⟨[':', '/', '/'], rfl⟩
  | case2 c cs hmark hend => exact nomatch h
  | case3 c cs hmark hend ih => exact (ih h).trans (List.suffix_cons c cs)
  | case4 => exact nomatch h

/-- The text behind a host starts with its path or its query. -/
theorem head?_afterHost {text : List Char} {c : Char} (h : (afterHost text).head? = some c) :
    c = '/' ∨ c = '?' := by
  have hend := List.head?_dropWhile_not (fun c => c ≠ '/' && c ≠ '?') text
  unfold afterHost at h
  rw [h] at hend
  simp only [Bool.and_eq_false_iff, decide_eq_false_iff_not, Classical.not_not] at hend
  exact hend

/-- The target of a request line without blanks is regular. -/
theorem regular_ofText {text : String} (h : ∀ c ∈ text.toList, 0x20 < c.toNat) :
    Regular (ofText text) := by
  have hvisible : ∀ c ∈ text.toList.takeWhile (· ≠ '#'), 0x20 < c.toNat := fun c hc =>
    h c ((List.takeWhile_prefix _).subset hc)
  have hwhole : '#' ∉ text.toList.takeWhile (· ≠ '#') := by
    intro hmem
    have hall := List.all_eq_true.1 (List.all_takeWhile (p := (· ≠ '#')) (l := text.toList))
    exact absurd (hall '#' hmem) (by decide)
  unfold ofText
  generalize text.toList.takeWhile (· ≠ '#') = cs at hvisible hwhole ⊢
  dsimp only
  split
  · exact .place (by simp) (by simpa using hvisible) (by simpa using hwhole)
  · exact .asterisk
  · split
    · rename_i rest hscheme
      have hend : afterHost rest <:+ cs :=
        (List.dropWhile_suffix _).trans (afterScheme?_suffix hscheme)
      have hstart : ∀ c, (afterHost rest).head? = some c → c = '/' ∨ c = '?' :=
        fun _ hc => head?_afterHost hc
      generalize afterHost rest = place at hend hstart ⊢
      cases place with
      | nil => exact .place (by decide) (by simp) (by decide)
      | cons c place =>
          refine .place ?_ ?_ ?_
          · rw [String.toList_ofList]
            exact (hstart c rfl).imp (congrArg some) (congrArg some)
          · rw [String.toList_ofList]
            exact fun d hd => hvisible d (hend.subset hd)
          · rw [String.toList_ofList]
            exact fun hd => hwhole (hend.subset hd)
    · exact .host

/-- What is passed on for a place stands behind a host, and has the path of the place. -/
theorem path_passedOn {t : Target} (h : t.Regular) (hplace : t ≠ .place "*") :
    (∀ c ∈ t.passedOn.toList, 0x20 < c.toNat) ∧ EndsHost t.passedOn ∧
      (readPathAndQuery t.passedOn.toList).1 = readPath t.path.toList := by
  cases h with
  | host =>
      refine ⟨by simp [passedOn], fun c hc => ?_, by decide +kernel⟩
      rw [← Option.some.inj hc]
      decide
  | asterisk => exact absurd rfl hplace
  | @place text start visible whole =>
      refine ⟨visible, fun c hc => ?_, ?_⟩
      · rcases start with hstart | hstart
        · rw [Option.some.inj (hc.symm.trans hstart)]
          decide
        · rw [Option.some.inj (hc.symm.trans hstart)]
          decide
      · rw [passedOn, Url.readPathAndQuery_path whole, path]
        split
        · rename_i hpath
          rw [hpath]
          decide +kernel
        · rw [String.toList_ofList]

end Target

namespace Gate

open Url (IsBare IsPlain normalPath joined climbing PlainSegment)

variable {g : Gate} {s : Surroundings} {r : Request} {o : Outgoing}

/-- The address of what is passed on. -/
theorem address_passedOn (h : g.passedOn? s r = some o) :
    o.address = withoutTrailingSlashes g.target ++ r.target.passedOn := by
  unfold passedOn? at h
  split at h
  · rw [← Option.some.inj h]
    rfl
  · exact nomatch h

/-- The service behind the gate receives the path of a request in normal form. -/
theorem onWire_of_bare (hbare : IsBare g.target) (hregular : r.target.Regular)
    (hplace : r.target ≠ .place "*") (hpassed : g.passedOn? s r = some o) :
    ∃ w, o.onWire? = some w ∧ w.url.pathText = normalPath r.target.path := by
  rcases Target.path_passedOn hregular hplace with ⟨hvisible, hend, hpath⟩
  rcases Url.parse?_bare hbare hvisible hend with ⟨u, hparsed, hsegments⟩
  unfold Outgoing.onWire?
  rw [address_passedOn hpassed, hparsed]
  refine ⟨_, rfl, ?_⟩
  rw [Url.pathText, normalPath, joined, hsegments, hpath]

/-- Nothing is sent for an asterisk. -/
theorem onWire_of_asterisk (hbare : IsBare g.target) (hasterisk : r.target = .place "*")
    (hpassed : g.passedOn? s r = some o) : o.onWire? = none := by
  unfold Outgoing.onWire?
  rw [address_passedOn hpassed, hasterisk, Target.passedOn, Url.parse?_bare_asterisk hbare]
  rfl

/-! ## Requests that evade the gate -/

/-- Whether a request evades the gate: its path is open, and that which the service behind the
gate receives is not. -/
def Evades (g : Gate) (s : Surroundings) (r : Request) : Prop :=
  g.isOpen r.target.path = true ∧
    ∃ o w, g.passedOn? s r = some o ∧ o.onWire? = some w ∧ g.isOpen w.url.pathText = false

/-- Whether a request is sent to the service behind the gate if its path is open. -/
structure IsSent (r : Request) : Prop where
  route : Route.of r.method r.target.path = .forward
  fits : r.body.size ≤ largestBody
  place : r.target ≠ .place "*"

/-- A request for an open path is passed on if its route is to forward and its body is not too
large. -/
theorem exists_passedOn_of_open (hopen : g.isOpen r.target.path = true) :
    (∃ o, g.passedOn? s r = some o) ↔
      Route.of r.method r.target.path = .forward ∧ r.body.size ≤ largestBody := by
  have hvouched : g.Vouched r ∨ isRealtimePath r.target.path = true := .inl (.inl hopen)
  rw [← passesOn_iff_passedOn?, passesOn_iff, handler?_eq_some_iff, and_iff_right hvouched]

/-- A request evades the gate exactly if its path is open, but not in normal form, and it is
sent. -/
theorem evades_iff_normalPath (hbare : IsBare g.target) (hregular : r.target.Regular) :
    g.Evades s r ↔
      g.isOpen r.target.path = true ∧ g.isOpen (normalPath r.target.path) = false ∧ IsSent r := by
  constructor
  · rintro ⟨hopen, o, w, hpassed, hwire, hclosed⟩
    have hplace : r.target ≠ .place "*" := by
      intro hasterisk
      rw [onWire_of_asterisk hbare hasterisk hpassed] at hwire
      exact nomatch hwire
    rcases onWire_of_bare hbare hregular hplace hpassed with ⟨w', hwire', hpath⟩
    rw [hwire, Option.some.injEq] at hwire'
    rw [hwire', hpath] at hclosed
    rcases (exists_passedOn_of_open hopen).1 ⟨o, hpassed⟩ with ⟨hroute, hfits⟩
    exact ⟨hopen, hclosed, hroute, hfits, hplace⟩
  · rintro ⟨hopen, hclosed, hroute, hfits, hplace⟩
    rcases (exists_passedOn_of_open (s := s) hopen).2 ⟨hroute, hfits⟩ with ⟨o, hpassed⟩
    rcases onWire_of_bare hbare hregular hplace hpassed with ⟨w, hwire, hpath⟩
    exact ⟨hopen, o, w, hpassed, hwire, hpath ▸ hclosed⟩

/-- A request evades the gate exactly if its path is open, but not in normal form, and it is
sent.  Some gate is evaded by it exactly if it is sent and its path is not plain. -/
theorem evades_iff (hbare : IsBare g.target) (hregular : r.target.Regular) :
    (g.Evades s r ↔
      g.isOpen r.target.path = true ∧ g.isOpen (normalPath r.target.path) = false ∧ IsSent r) ∧
    ((∃ isOpen, Evades { g with isOpen } s r) ↔ ¬ IsPlain r.target.path ∧ IsSent r) := by
  refine ⟨evades_iff_normalPath hbare hregular, ?_⟩
  have hall (isOpen : String → Bool) :=
    evades_iff_normalPath (g := { g with isOpen }) (s := s) hbare hregular
  rw [← Url.normalPath_eq_self_iff]
  constructor
  · rintro ⟨isOpen, hevades⟩
    rcases (hall isOpen).1 hevades with ⟨hopen, hclosed, hsent⟩
    dsimp only at hopen hclosed
    refine ⟨fun hsame => ?_, hsent⟩
    rw [hsame, hopen] at hclosed
    exact nomatch hclosed
  · rintro ⟨hdiffers, hsent⟩
    -- a gate that opens this one path
    refine ⟨fun path => path == r.target.path, (hall _).2 ?_⟩
    exact ⟨beq_self_eq_true _, beq_eq_false_iff_ne.2 hdiffers, hsent⟩

/-! ### Climbing out of an open path -/

/-- A request for a path that climbs back to the root. -/
def climber (method : String) (front back : List String) : Request where
  method := method
  target := .place (climbing front back)
  headers := []
  body := ByteArray.empty

/-- Such a request is regular, and its path is the one that climbs. -/
theorem regular_climber (method : String) {front back : List String} (hback : back ≠ [])
    (hfront : ∀ s ∈ front, PlainSegment s) (hplain : ∀ s ∈ back, PlainSegment s) :
    (climber method front back).target.Regular ∧
      (climber method front back).target.path = climbing front back := by
  have hchars : ∀ c ∈ (climbing front back).toList, 0x20 < c.toNat ∧ c ≠ '#' ∧ c ≠ '?' := by
    intro c hc
    rcases Url.mem_joined hc with rfl | ⟨s, hs, hc⟩
    · decide
    · have hstands := Url.standsInSegment_iff.1 (Url.stands_climbing hfront hplain s hs c hc)
      refine ⟨hstands.1.1, ?_, ?_⟩
      · rintro rfl
        exact hstands.1.2.2 (by decide)
      · rintro rfl
        exact hstands.1.2.2 (by decide)
  have hquery : (climbing front back).toList.takeWhile (· ≠ '?') = (climbing front back).toList :=
    Text.takeWhile_of_not_mem fun hc => (hchars '?' hc).2.2 rfl
  have hhead := Url.head?_climbing front hback
  constructor
  · exact .place (.inl hhead) (fun c hc => (hchars c hc).1) fun hc => (hchars '#' hc).2.1 rfl
  · rw [climber, Target.path, hquery]
    split
    · rename_i hnone
      rw [hnone] at hhead
      exact nomatch hhead
    · exact String.ofList_toList

/-- A plain path that is not open is reached behind any plain one, as long as the path that
climbs out of the one to the other is open and forwarded. -/
theorem evades_of_climbing {method : String} {front back : List String} (hbare : IsBare g.target)
    (hback : back ≠ []) (hfront : ∀ s ∈ front, PlainSegment s)
    (hplain : ∀ s ∈ back, PlainSegment s) (hopen : g.isOpen (climbing front back) = true)
    (hclosed : g.isOpen (joined back) = false)
    (hroute : Route.of method (climbing front back) = .forward) :
    g.Evades s (climber method front back) := by
  rcases regular_climber method hback hfront hplain with ⟨hregular, hpath⟩
  rw [evades_iff_normalPath hbare hregular, hpath, Url.normalPath_climbing hback hfront hplain]
  refine ⟨hopen, hclosed, hpath ▸ hroute, Nat.zero_le _, ?_⟩
  intro hasterisk
  have hhead := Url.head?_climbing front hback
  rw [Target.place.inj hasterisk] at hhead
  exact absurd hhead (by decide)

/-! ### The standard gate -/

/-- The gate that opens what the standard settings open, and accepts no token. -/
def standard : Gate where
  authenticate := fun _ => .error .badSignature
  isOpen := fun path =>
    (Allowlist.ofTexts? Settings.standard.allowlist).any (·.allows Matcher.regular path)
  permissions := ⟨Permissions.defaultSuffixes⟩
  target := Settings.standard.apiTarget

/-- A request that climbs out of the open path. -/
def dotted : Request := ⟨"GET", .place "/auth/../api/incidents", [], ByteArray.empty⟩

theorem bare_standard : IsBare standard.target :=
  ⟨"http", "incident-svc:3000", by decide +kernel, by decide, by decide +kernel⟩

theorem regular_dotted : dotted.target.Regular := .place (by decide) (by simp) (by decide)

theorem isSent_dotted : IsSent dotted := ⟨by decide, Nat.zero_le _, by decide⟩

/-- The standard settings open the path of the request, but not its normal form. -/
theorem standard_opens_dotted :
    standard.isOpen dotted.target.path = true ∧
      standard.isOpen (normalPath dotted.target.path) = false := by
  decide +kernel

/-- The request evades the standard gate. -/
theorem evades_dotted :
    IsBare standard.target ∧ dotted.target.Regular ∧ standard.Evades secluded dotted :=
  ⟨bare_standard, regular_dotted, (evades_iff bare_standard regular_dotted).1.2
    ⟨standard_opens_dotted.1, standard_opens_dotted.2, isSent_dotted⟩⟩

/-- The path that is received for an open one is not always open. -/
theorem not_always_open :
    ¬ ∀ (g : Gate) (s : Surroundings) (r : Request) (o : Outgoing) (w : WireRequest),
      IsBare g.target → r.target.Regular → g.isOpen r.target.path = true →
      g.passedOn? s r = some o → o.onWire? = some w → g.isOpen w.url.pathText = true := by
  intro halways
  rcases (evades_iff_normalPath (s := secluded) bare_standard regular_dotted).2
    ⟨standard_opens_dotted.1, standard_opens_dotted.2, isSent_dotted⟩ with
    ⟨hopen, o, w, hpassed, hwire, hclosed⟩
  have hstill := halways _ _ _ _ _ bare_standard regular_dotted hopen hpassed hwire
  rw [hclosed] at hstill
  exact nomatch hstill

end Gate
end Gatehouse
