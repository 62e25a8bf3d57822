import Gatehouse.Proofs.Edge.Evasion
import Gatehouse.Proofs.Edge.Origin

/-!
# Where a request is forwarded

A request is forwarded to an address that is put together from the address of the service and
what the request asks for.  The address leads to the service unless what the request asks for can
belong to the authority.  Of what a request line can ask for only the asterisk can, and it does
where no path stands in front of it.

Main results:

- Theorem {lit}`Target.passedOn_ofText`: what is passed on for a request line.
- Theorem {lit}`Outgoing.onWire_to_service`: what is sent for a request that leads to the service is
  sent to its host.
- Theorem {lit}`Outgoing.leads_to_service_iff`: which requests are forwarded below the address of
  the service, and which of them lead to where it leads.
-/

namespace Gatehouse

/-! ## What a request asks for -/

namespace Target

/-- Whether a target has a query without a path in front of it. -/
def LacksPath (t : Target) : Prop := ∃ query, t = .place ("?" ++ query)

/-- What is passed on for a request line starts with a slash, unless it is an asterisk or a query
without a path. -/
theorem passedOn_ofText (line : String) :
    ofText line = .place "*" ∨ (ofText line).LacksPath ∨
      ∃ rest, (ofText line).passedOn = "/" ++ rest := by
  have hslash (rest : List Char) : String.ofList ('/' :: rest) = "/" ++ String.ofList rest :=
    String.toList_inj.1 (by simp)
  have hquery (rest : List Char) : String.ofList ('?' :: rest) = "?" ++ String.ofList rest :=
    String.toList_inj.1 (by simp)
  unfold ofText
  generalize line.toList.takeWhile (· ≠ '#') = cs
  dsimp only
  split
  · exact .inr (.inr ⟨_, hslash _⟩)
  · exact .inl rfl
  · split
    · rename_i rest hscheme
      have hstart : ∀ c, (afterHost rest).head? = some c → c = '/' ∨ c = '?' :=
        fun _ hc => head?_afterHost hc
      generalize afterHost rest = place at hstart ⊢
      cases place with
      | nil => exact .inr (.inr ⟨"", rfl⟩)
      | cons c place =>
          rcases hstart c rfl with rfl | rfl
          · exact .inr (.inr ⟨_, hslash _⟩)
          · exact .inr (.inl ⟨_, congrArg Target.place (hquery _)⟩)
    · exact .inr (.inr ⟨"", rfl⟩)

/-- A query behind a host has no path in front of it. -/
example : (ofText "http://elsewhere?page=2").LacksPath := ⟨"page=2", by decide⟩

end Target

/-! ## The address of a forwarded request -/

namespace Outgoing

variable {target scheme authority path line : String} {r : Request}

/-- A request is forwarded below the address of the service exactly if it asks for a path. -/
theorem below_service_iff (hline : r.target = .ofText line) :
    (∃ rest, (outgoing target r).address = withoutTrailingSlashes target ++ "/" ++ rest) ↔
      r.target ≠ .place "*" ∧ ¬ r.target.LacksPath := by
  have hbelow : (∃ rest, (outgoing target r).address =
      withoutTrailingSlashes target ++ "/" ++ rest) ↔
        ∃ rest, r.target.passedOn = "/" ++ rest := by
    simp only [outgoing_address, String.append_assoc, String.append_right_inj]
  rw [hbelow, hline]
  constructor
  · rintro ⟨rest, hrest⟩
    have hstart : (Target.ofText line).passedOn.toList.head? = some '/' := by
      rw [hrest, String.toList_append]
      rfl
    constructor
    · intro hasterisk
      rw [hasterisk] at hstart
      exact absurd hstart (by decide)
    · rintro ⟨query, hquery⟩
      rw [hquery, Target.passedOn, String.toList_append] at hstart
      have hmark : '?' = '/' := Option.some.inj hstart
      exact absurd hmark (by decide)
  · rintro ⟨hasterisk, hpath⟩
    rcases Target.passedOn_ofText line with hcase | hcase | hcase
    · exact absurd hcase hasterisk
    · exact absurd hcase hpath
    · exact hcase

/-- A target in the form of a scheme and an authority leads there. -/
theorem origin?_service (htarget : Url.Rooted target scheme authority path) :
    Url.origin? target = some ⟨Text.lower scheme, authority⟩ := by
  rw [htarget.text_eq]
  refine htarget.origin?_append fun c hc => ?_
  rcases htarget.path_start with hnone | hstart
  · rw [hnone] at hc
    exact nomatch hc
  · exact .inl (Option.some.inj (hc.symm.trans hstart))

/-- What is passed on stands behind the authority, or behind what is left of a path there. -/
theorem address_eq (htarget : Url.Rooted target scheme authority path) :
    (outgoing target r).address =
      scheme ++ "://" ++ authority ++ (withoutTrailingSlashes path ++ r.target.passedOn) := by
  rw [outgoing_address, htarget.withoutTrailingSlashes_eq, String.append_assoc]

/-- A request that does not ask for an asterisk leads to the service, and so does every request if
the service has a path of its own. -/
theorem origin?_outgoing (htarget : Url.Rooted target scheme authority path)
    (hline : r.target = .ofText line)
    (hfree : r.target ≠ .place "*" ∨ withoutTrailingSlashes path ≠ "") :
    Url.origin? (outgoing target r).address = some ⟨Text.lower scheme, authority⟩ := by
  rw [address_eq htarget]
  refine htarget.origin?_append fun c hc => ?_
  rw [String.toList_append] at hc
  rcases htarget.path_left with hnone | hstart
  · rw [hnone, String.toList_empty, List.nil_append, hline] at hc
    rcases Target.passedOn_ofText line with hcase | ⟨query, hcase⟩ | ⟨rest, hcase⟩
    · rcases hfree with hother | hpath
      · exact absurd (hline.trans hcase) hother
      · exact absurd hnone hpath
    · rw [hcase, Target.passedOn, String.toList_append] at hc
      exact .inr (Option.some.inj hc).symm
    · rw [hcase, String.toList_append] at hc
      exact .inl (Option.some.inj hc).symm
  · rw [List.head?_append, hstart] at hc
    exact .inl (Option.some.inj hc).symm

/-- A request for an asterisk leads to another host if the service has no path of its own. -/
theorem origin?_asterisk (htarget : Url.Rooted target scheme authority path)
    (hasterisk : r.target = .place "*") (hbare : withoutTrailingSlashes path = "") :
    Url.origin? (outgoing target r).address = some ⟨Text.lower scheme, authority ++ "*"⟩ := by
  rw [address_eq htarget, hbare, hasterisk, String.empty_append]
  exact htarget.origin?_asterisk

/-- What is sent for a request that leads to the service is sent to its host, by its scheme. -/
theorem onWire_to_service {u : Url} {w : WireRequest}
    (htarget : Url.Rooted target scheme authority path) (hline : r.target = .ofText line)
    (hfree : r.target ≠ .place "*" ∨ withoutTrailingSlashes path ≠ "")
    (hservice : Url.parse? target = some u) (hwire : (outgoing target r).onWire? = some w) :
    w.url.scheme = u.scheme ∧ w.url.authority = u.authority := by
  have horigin : Url.origin? (outgoing target r).address = Url.origin? target := by
    rw [origin?_outgoing htarget hline hfree, origin?_service htarget]
  have hsent := url_of_onWire hwire
  rw [Url.parse?_eq_readBy?] at hservice hsent
  exact Url.same_host_of_origin horigin hsent hservice

/-- A request is forwarded below the address of the service exactly if it asks for a path: not for
an asterisk, nor for a query alone.  It leads to where the service is exactly if it does not ask
for an asterisk or the service has a path of its own. -/
theorem leads_to_service_iff (htarget : Url.Rooted target scheme authority path)
    (hline : r.target = .ofText line) :
    ((∃ rest, (outgoing target r).address = withoutTrailingSlashes target ++ "/" ++ rest) ↔
        r.target ≠ .place "*" ∧ ¬ r.target.LacksPath) ∧
      Url.origin? target = some ⟨Text.lower scheme, authority⟩ ∧
      (Url.origin? (outgoing target r).address = some ⟨Text.lower scheme, authority⟩ ↔
        r.target ≠ .place "*" ∨ ∃ c ∈ path.toList, c ≠ '/') := by
  refine ⟨below_service_iff hline, origin?_service htarget, ?_⟩
  have hpath : withoutTrailingSlashes path ≠ "" ↔ ∃ c ∈ path.toList, c ≠ '/' := by
    rw [ne_eq, withoutTrailingSlashes_eq_empty_iff]
    simp only [Classical.not_forall, exists_prop]
  rw [← hpath]
  constructor
  · intro hsame
    by_cases hasterisk : r.target = .place "*"
    · refine .inr fun hbare => ?_
      rw [origin?_asterisk htarget hasterisk hbare] at hsame
      have hchars := congrArg (String.length ·.authority) (Option.some.inj hsame)
      simp at hchars
    · exact .inl hasterisk
  · exact origin?_outgoing htarget hline

/-! ### A request for an asterisk -/

/-- A request for an asterisk. -/
def starred : Request := ⟨"OPTIONS", .ofText "*", [], ByteArray.empty⟩

/-- The address of a service without a path of its own. -/
theorem rooted_bare : Url.Rooted "http://incident-svc/" "http" "incident-svc" "/" where
  text_eq := by decide
  scheme_chars := fun c hc => .inl (List.all_eq_true.1 (by decide) c hc)
  authority_ne := by decide
  authority_chars := fun c hc =>
    have hhost : Url.isAuthority "incident-svc".toList = true := by decide
    have hchar := Url.inHost_of_isAuthorityChar ((Url.isAuthorityChar_of_isAuthority hhost).2 c hc)
    ⟨hchar.2.1, hchar.1⟩
  path_start := .inr (by decide)

/-- The request is forwarded, but neither below the address of the service nor to its host. -/
theorem leads_elsewhere_of_asterisk :
    Url.Rooted "http://incident-svc/" "http" "incident-svc" "/" ∧
      starred.target = .ofText "*" ∧
      (¬ ∃ rest, (outgoing "http://incident-svc/" starred).address =
        withoutTrailingSlashes "http://incident-svc/" ++ "/" ++ rest) ∧
      Url.origin? (outgoing "http://incident-svc/" starred).address ≠
        some ⟨"http", "incident-svc"⟩ := by
  have hasterisk : starred.target = .place "*" := by decide
  have hline : starred.target = .ofText "*" := rfl
  have hexact := leads_to_service_iff rooted_bare hline
  refine ⟨rooted_bare, hline, fun hbelow => (hexact.1.1 hbelow).1 hasterisk, fun hsame => ?_⟩
  rcases hexact.2.2.1 hsame with hother | ⟨c, hc, hslash⟩
  · exact hother hasterisk
  · exact hslash (List.mem_singleton.1 hc)

/-- A forwarded request does not always lead to the service. -/
theorem not_always_to_service :
    ¬ ∀ (target scheme authority path line : String) (r : Request),
      Url.Rooted target scheme authority path → r.target = .ofText line →
      (∃ rest, (outgoing target r).address = withoutTrailingSlashes target ++ "/" ++ rest) ∧
        Url.origin? (outgoing target r).address = Url.origin? target := by
  intro halways
  have hsame := (halways _ _ _ _ "*" starred rooted_bare rfl).2
  exact absurd hsame (by decide +kernel)

end Outgoing
end Gatehouse
