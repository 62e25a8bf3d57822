import Gatehouse.Config.Environment
import Gatehouse.Proofs.Json.Scalar

/-!
# Which variables the gate starts with

Every setting is taken from variables of its own, and the gate starts exactly if there is a key
and the variables that hold numbers hold such numbers.  No role mapping and no list can keep it
from starting.

Main results:

- Theorem {lit}`number?_eq_ok_iff` and theorem {lit}`bindAddress_eq_ok_iff`: which variables are
  read as numbers.
- Theorem {lit}`ofVariables_eq_ok_iff`: which settings variables give.
- Theorem {lit}`startable_iff`: which variables the gate starts with.
-/

namespace Gatehouse
namespace Config

/-! ## Variables that are set -/

/-- Whether a variable is set to a text: it holds the text, which is not blank. -/
def IsSet (lookup : String → Option String) (name text : String) : Prop :=
  lookup name = some text ∧ Text.isBlankText text = false

/-- The number in a text, with blanks around it or without. -/
def numberOf (text : String) : Nat := Text.numeral (Text.trim text).toList

/-- Whether a variable, if it is set, holds a number that is not too small and below a bound, with
blanks around it or without. -/
def HoldsNumber (lookup : String → Option String) (name : String) (least bound : Nat) : Prop :=
  ∀ text, IsSet lookup name text →
    Text.IsNumeral (Text.trim text).toList ∧ least ≤ numberOf text ∧ numberOf text < bound

/-- Whether the gate can start with variables: there is a key, and the numbers are in their ranges,
that of the port if no address is given. -/
structure Startable (lookup : String → Option String) : Prop where
  key : ∃ key, IsSet lookup "PUBLIC_KEY" key
  port : (∀ bind, ¬IsSet lookup "BIND" bind) → HoldsNumber lookup "PORT" 0 (Nat.pow 2 16)
  queue : HoldsNumber lookup "MAX_QUEUE" 1 (Nat.pow 2 64)
  heartbeat : HoldsNumber lookup "HEARTBEAT_SECS" 1 (Nat.pow 2 64)
  backoff : HoldsNumber lookup "FEED_BACKOFF_MAX_SECS" 0 (Nat.pow 2 64)

/-- A setting with the variables that it is taken from. -/
structure Source where
  Value : Type
  setting : Settings → Value
  /-- The variables, each with what a text in it means; the first one that is set counts. -/
  readings : List (String × (String → Value))

/-- The value that variables give to a setting, the standard one if none of them is set. -/
def Source.given (o : Source) (lookup : String → Option String) : o.Value :=
  (o.readings.findSome? fun v => (nonBlank lookup v.1).map v.2).getD (o.setting Settings.standard)

/-- Where the settings are taken from. -/
def sources : List Source :=
  [⟨String, Settings.bind,
      [("BIND", id), ("PORT", fun text => "0.0.0.0:" ++ Text.decimal (numberOf text))]⟩,
    ⟨String, Settings.publicKey, [("PUBLIC_KEY", id)]⟩,
    ⟨RoleRules, Settings.roleRules, [("ROLE_MAPPING", fun text => ruleTable (.string text))]⟩,
    ⟨List String, Settings.readSuffixes, [("RBAC_READ_SUFFIXES", Text.commaList)]⟩,
    ⟨Nat, Settings.maxQueue, [("MAX_QUEUE", numberOf)]⟩,
    ⟨Option String, Settings.feedUrl, [("UPSTREAM_FEED_URL", some)]⟩,
    ⟨String, Settings.apiTarget, [("API_TARGET", id)]⟩,
    ⟨String, Settings.snapshotUrl, [("SNAPSHOT_URL", id)]⟩,
    ⟨Option String, Settings.issuer, [("JWT_ISSUER", some)]⟩,
    ⟨Option String, Settings.audience, [("JWT_AUDIENCE", some)]⟩,
    ⟨Option Nat, Settings.heartbeatSeconds, [("HEARTBEAT_SECS", fun text => some (numberOf text))]⟩,
    ⟨Nat, Settings.backoffSeconds, [("FEED_BACKOFF_MAX_SECS", numberOf)]⟩,
    ⟨List String, Settings.allowlist, [("AUTH_ALLOWLIST", Text.commaList)]⟩]

variable {lookup : String → Option String} {name text : String} {bound least : Nat} {s : Settings}

theorem nonBlank_eq_some_iff : nonBlank lookup name = some text ↔ IsSet lookup name text := by
  simp [nonBlank, IsSet, Option.filter_eq_some_iff]

theorem nonBlank_eq_none_iff : nonBlank lookup name = none ↔ ∀ text, ¬IsSet lookup name text := by
  simp only [← nonBlank_eq_some_iff, Option.eq_none_iff_forall_ne_some]

/-- Settings that agree in all that variables give are the same. -/
theorem eq_of_sources {s s' : Settings} (h : ∀ o ∈ sources, o.setting s = o.setting s') :
    s = s' := by
  simp only [sources, List.forall_mem_cons] at h
  cases s
  cases s'
  simp_all

/-- A setting with one variable has what the variable gives. -/
theorem given_singleton {α : Type} (setting : Settings → α) (name : String) (meaning : String → α) :
    Source.given ⟨α, setting, [(name, meaning)]⟩ lookup =
      ((nonBlank lookup name).map meaning).getD (setting .standard) := by
  simp [Source.given]

/-- A setting with two variables has what the first one gives, or else what the second one
gives. -/
theorem given_pair {α : Type} (setting : Settings → α) (name name' : String)
    (meaning meaning' : String → α) :
    Source.given ⟨α, setting, [(name, meaning), (name', meaning')]⟩ lookup =
      (((nonBlank lookup name).map meaning).or ((nonBlank lookup name').map meaning')).getD
        (setting .standard) := by
  cases hfirst : nonBlank lookup name <;> simp [Source.given, hfirst]

/-! ## Numbers -/

/-- A variable that is set to a number of at least one is one that is set to a number other than
zero. -/
theorem holdsNumber_one_iff :
    HoldsNumber lookup name 1 bound ↔
      HoldsNumber lookup name 0 bound ∧ (nonBlank lookup name).map numberOf ≠ some 0 := by
  constructor
  · intro h
    refine ⟨fun text htext => ?_, fun hzero => ?_⟩
    · rcases h text htext with ⟨hnumeral, -, hlt⟩
      exact ⟨hnumeral, Nat.zero_le _, hlt⟩
    · rcases Option.map_eq_some_iff.1 hzero with ⟨text, htext, hnumber⟩
      have hpos := (h text (nonBlank_eq_some_iff.1 htext)).2.1
      omega
  · rintro ⟨h, hzero⟩ text htext
    rcases h text htext with ⟨hnumeral, -, hlt⟩
    refine ⟨hnumeral, Nat.one_le_iff_ne_zero.2 fun hnumber => hzero ?_, hlt⟩
    rw [nonBlank_eq_some_iff.2 htext, Option.map_some, hnumber]

/-- A variable is read as a number if its text is this number. -/
theorem numberIn_eq_ok_iff {n : Nat} :
    numberIn bound name text = .ok n ↔
      Text.IsNumeral (Text.trim text).toList ∧ numberOf text = n ∧ n < bound := by
  rw [numberOf, ← Text.parseNatural_eq_ok_iff, numberIn]
  cases Text.parseNatural bound (Text.trim text) <;> simp

/-- A variable gives a number if it holds one below the bound, and none if it is not set. -/
theorem number?_eq_ok_iff {n : Option Nat} :
    number? lookup bound name = .ok n ↔
      HoldsNumber lookup name 0 bound ∧ n = (nonBlank lookup name).map numberOf := by
  unfold number? HoldsNumber
  simp only [← nonBlank_eq_some_iff]
  cases nonBlank lookup name with
  | none => simp [eq_comm]
  | some value =>
      have hvalue : (numberIn bound name value).map some = .ok n ↔
          ∃ m, numberIn bound name value = .ok m ∧ some m = n := by
        cases numberIn bound name value <;> simp [Except.map]
      simp only [hvalue, numberIn_eq_ok_iff]
      constructor
      · rintro ⟨m, ⟨hnumeral, rfl, hlt⟩, rfl⟩
        refine ⟨?_, rfl⟩
        rintro text htext
        obtain rfl := Option.some.inj htext
        exact ⟨hnumeral, Nat.zero_le _, hlt⟩
      · rintro ⟨hholds, rfl⟩
        rcases hholds value rfl with ⟨hnumeral, -, hlt⟩
        exact ⟨_, ⟨hnumeral, rfl, hlt⟩, rfl⟩

/-- The address is the given one; otherwise the port, if there is one, has to be a number. -/
theorem bindAddress_eq_ok_iff {bind : String} :
    bindAddress lookup = .ok bind ↔
      ((∀ bind, ¬IsSet lookup "BIND" bind) → HoldsNumber lookup "PORT" 0 (Nat.pow 2 16)) ∧
      bind = ((nonBlank lookup "BIND").or ((nonBlank lookup "PORT").map fun text =>
        "0.0.0.0:" ++ Text.decimal (numberOf text))).getD Settings.standard.bind := by
  unfold bindAddress
  rw [← nonBlank_eq_none_iff]
  cases nonBlank lookup "BIND" with
  | some given => simp [eq_comm]
  | none =>
      simp only [Json.bind_eq_ok, number?_eq_ok_iff]
      constructor
      · rintro ⟨port, ⟨hport, rfl⟩, hbind⟩
        obtain rfl := Except.ok.inj hbind
        exact ⟨fun _ => hport, by simp [Option.map_map, Function.comp_def]⟩
      · rintro ⟨hport, rfl⟩
        refine ⟨_, ⟨hport trivial, rfl⟩, ?_⟩
        simp [Option.map_map, Function.comp_def, pure, Except.pure]

/-! ## Settings -/

/-- Whether the numbers among variables can be read. -/
structure Legible (lookup : String → Option String) : Prop where
  port : (∀ bind, ¬IsSet lookup "BIND" bind) → HoldsNumber lookup "PORT" 0 (Nat.pow 2 16)
  queue : HoldsNumber lookup "MAX_QUEUE" 0 (Nat.pow 2 64)
  heartbeat : HoldsNumber lookup "HEARTBEAT_SECS" 0 (Nat.pow 2 64)
  backoff : HoldsNumber lookup "FEED_BACKOFF_MAX_SECS" 0 (Nat.pow 2 64)

/-- Variables give settings if the numbers among them can be read. -/
theorem legible_of_read (h : read lookup = .ok s) : Legible lookup := by
  simp only [read, Json.bind_eq_ok, bindAddress_eq_ok_iff, number?_eq_ok_iff] at h
  rcases h with ⟨_, ⟨hport, -⟩, _, ⟨hqueue, -⟩, _, ⟨hheartbeat, -⟩, _, ⟨hbackoff, -⟩, -⟩
  exact ⟨hport, hqueue, hheartbeat, hbackoff⟩

/-- If the numbers can be read, every setting is what its variables give. -/
theorem Legible.exists_read (h : Legible lookup) :
    ∃ s, read lookup = .ok s ∧ ∀ o ∈ sources, o.setting s = o.given lookup := by
  have hread : ∃ s, read lookup = .ok s := by
    simp only [read, Json.bind_eq_ok, bindAddress_eq_ok_iff, number?_eq_ok_iff]
    exact ⟨_, _, ⟨h.port, rfl⟩, _, ⟨h.queue, rfl⟩, _, ⟨h.heartbeat, rfl⟩, _, ⟨h.backoff, rfl⟩, rfl⟩
  rcases hread with ⟨s, hs⟩
  refine ⟨s, hs, ?_⟩
  simp only [read, Json.bind_eq_ok, bindAddress_eq_ok_iff, number?_eq_ok_iff] at hs
  rcases hs with ⟨_, ⟨-, rfl⟩, _, ⟨-, rfl⟩, _, ⟨-, rfl⟩, _, ⟨-, rfl⟩, hs⟩
  obtain rfl := Except.ok.inj hs
  have hsome {α β : Type} (o : Option α) (f : α → β) :
      (o.map fun a => some (f a)).getD none = o.map f := by cases o <;> rfl
  simp only [sources, List.forall_mem_cons, given_singleton, given_pair]
  simp [Settings.standard, hsome]

/-- The gate can start with the settings that legible variables give exactly if there is a key, and
the numbers that may not be zero are not. -/
theorem checked_iff_of_given (h : Legible lookup)
    (hgiven : ∀ o ∈ sources, o.setting s = o.given lookup) :
    s.check = .ok () ↔ Startable lookup := by
  simp only [sources, List.forall_mem_cons, given_singleton] at hgiven
  rcases hgiven with ⟨-, hkey, -, -, hqueue, -, -, -, -, -, hheartbeat, -⟩
  have hkey' : Text.isBlankText s.publicKey = false ↔ ∃ key, IsSet lookup "PUBLIC_KEY" key := by
    rw [hkey]
    cases hvalue : nonBlank lookup "PUBLIC_KEY" with
    | none =>
        exact iff_of_false (by decide) fun ⟨key, hset⟩ => nonBlank_eq_none_iff.1 hvalue key hset
    | some key =>
        have hset := nonBlank_eq_some_iff.1 hvalue
        exact iff_of_true hset.2 ⟨key, hset⟩
  have hqueue' : s.maxQueue ≠ 0 ↔ (nonBlank lookup "MAX_QUEUE").map numberOf ≠ some 0 := by
    rw [hqueue]
    cases nonBlank lookup "MAX_QUEUE" <;> simp [Settings.standard]
  have hheartbeat' : s.heartbeatSeconds ≠ some 0 ↔
      (nonBlank lookup "HEARTBEAT_SECS").map numberOf ≠ some 0 := by
    rw [hheartbeat]
    cases nonBlank lookup "HEARTBEAT_SECS" <;> simp [Settings.standard]
  rw [Settings.check_eq_ok_iff, hkey', hqueue', hheartbeat']
  constructor
  · rintro ⟨key, queue, heartbeat⟩
    exact ⟨key, h.port, holdsNumber_one_iff.2 ⟨h.queue, queue⟩,
      holdsNumber_one_iff.2 ⟨h.heartbeat, heartbeat⟩, h.backoff⟩
  · intro hstart
    exact ⟨hstart.key, (holdsNumber_one_iff.1 hstart.queue).2,
      (holdsNumber_one_iff.1 hstart.heartbeat).2⟩

/-- The numbers of variables with which the gate starts can be read. -/
theorem Startable.legible (h : Startable lookup) : Legible lookup :=
  ⟨h.port, (holdsNumber_one_iff.1 h.queue).1, (holdsNumber_one_iff.1 h.heartbeat).1, h.backoff⟩

/-- Variables give settings exactly if the gate can start with them, and then each setting is what
its own variables give. -/
theorem ofVariables_eq_ok_iff :
    ofVariables lookup = .ok s ↔
      Startable lookup ∧ ∀ o ∈ sources, o.setting s = o.given lookup := by
  have hchecked {s s' : Settings} : s.checked = .ok s' ↔ s.check = .ok () ∧ s = s' := by
    unfold Settings.checked
    cases s.check <;> simp [Except.map]
  constructor
  · intro h
    rcases Json.bind_eq_ok.1 h with ⟨s', hread, hstart⟩
    rcases hchecked.1 hstart with ⟨hcheck, rfl⟩
    have hlegible := legible_of_read hread
    rcases hlegible.exists_read with ⟨s'', hread', hgiven⟩
    obtain rfl := Except.ok.inj (hread.symm.trans hread')
    exact ⟨(checked_iff_of_given hlegible hgiven).1 hcheck, hgiven⟩
  · rintro ⟨hstart, hgiven⟩
    rcases hstart.legible.exists_read with ⟨s', hread, hgiven'⟩
    obtain rfl := eq_of_sources fun o ho => (hgiven o ho).trans (hgiven' o ho).symm
    exact Json.bind_eq_ok.2 ⟨s, hread,
      hchecked.2 ⟨(checked_iff_of_given hstart.legible hgiven).2 hstart, rfl⟩⟩

/-- Variables that are set to the same texts give the same. -/
theorem given_congr {o : Source} {other : String → Option String}
    (h : ∀ v ∈ o.readings, ∀ text, IsSet other v.1 text ↔ IsSet lookup v.1 text) :
    o.given other = o.given lookup := by
  have hvalue : ∀ v ∈ o.readings, nonBlank other v.1 = nonBlank lookup v.1 := by
    intro v hv
    refine Option.ext fun text => ?_
    rw [nonBlank_eq_some_iff, nonBlank_eq_some_iff, h v hv]
  unfold Source.given
  generalize o.readings = readings at hvalue
  congr 1
  induction readings with
  | nil => rfl
  | cons v readings ih =>
      rcases List.forall_mem_cons.1 hvalue with ⟨hv, hrest⟩
      rw [List.findSome?_cons, List.findSome?_cons, hv, ih hrest]

/-- Variables that are not set give the standard value. -/
theorem given_of_unset {o : Source} (h : ∀ v ∈ o.readings, ∀ text, ¬IsSet lookup v.1 text) :
    o.given lookup = o.setting .standard := by
  have hnone : (o.readings.findSome? fun v => (nonBlank lookup v.1).map v.2) = none := by
    rw [List.findSome?_eq_none_iff]
    intro v hv
    rw [nonBlank_eq_none_iff.2 (h v hv), Option.map_none]
  rw [Source.given, hnone, Option.getD_none]

/-- The variables of which any value will do. -/
def freeVariables : List String := ["ROLE_MAPPING", "RBAC_READ_SUFFIXES", "AUTH_ALLOWLIST"]

/-- Whether the gate can start depends on the other variables only. -/
theorem Startable.congr {other : String → Option String}
    (hother : ∀ name ∉ freeVariables, other name = lookup name) (h : Startable lookup) :
    Startable other := by
  have hset {name : String} (hname : name ∉ freeVariables) (text : String) :
      IsSet other name text ↔ IsSet lookup name text := by
    rw [IsSet, IsSet, hother name hname]
  have hnumber {name : String} (hname : name ∉ freeVariables) {least bound : Nat}
      (hholds : HoldsNumber lookup name least bound) : HoldsNumber other name least bound :=
    fun text htext => hholds text ((hset hname text).1 htext)
  refine ⟨?_, fun hbind => ?_, ?_, ?_, ?_⟩
  · rcases h.key with ⟨key, hkey⟩
    exact ⟨key, (hset (by decide) key).2 hkey⟩
  · exact hnumber (by decide)
      (h.port fun bind hbound => hbind bind ((hset (by decide) bind).2 hbound))
  · exact hnumber (by decide) h.queue
  · exact hnumber (by decide) h.heartbeat
  · exact hnumber (by decide) h.backoff

/-- Variables give settings exactly if the key is set and the numbers that are set are in their
ranges.  Each setting is then what its own variables give, the first one that is set; so it is the
standard one if none of them is set, and depends on no others.  Whatever the role mapping and the
lists are, they make no difference to whether there are settings. -/
theorem startable_iff (lookup : String → Option String) :
    ((∃ s, ofVariables lookup = .ok s) ↔ Startable lookup) ∧
    (∀ s, ofVariables lookup = .ok s ↔
      Startable lookup ∧ ∀ o ∈ sources, o.setting s = o.given lookup) ∧
    (∀ s, ofVariables lookup = .ok s → ∀ o ∈ sources,
      ((∀ v ∈ o.readings, ∀ text, ¬IsSet lookup v.1 text) → o.setting s = o.setting .standard) ∧
      ∀ other s', ofVariables other = .ok s' →
        (∀ v ∈ o.readings, ∀ text, IsSet other v.1 text ↔ IsSet lookup v.1 text) →
        o.setting s' = o.setting s) ∧
    ∀ other, (∀ name ∉ freeVariables, other name = lookup name) →
      ((∃ s, ofVariables other = .ok s) ↔ ∃ s, ofVariables lookup = .ok s) := by
  have hstarts (lookup : String → Option String) :
      (∃ s, ofVariables lookup = .ok s) ↔ Startable lookup := by
    refine ⟨fun ⟨s, hs⟩ => (ofVariables_eq_ok_iff.1 hs).1, fun hstart => ?_⟩
    rcases hstart.legible.exists_read with ⟨s, -, hgiven⟩
    exact ⟨s, ofVariables_eq_ok_iff.2 ⟨hstart, hgiven⟩⟩
  refine ⟨hstarts lookup, fun s => ofVariables_eq_ok_iff, fun s hs o ho => ⟨?_, ?_⟩, ?_⟩
  · intro hunset
    rw [(ofVariables_eq_ok_iff.1 hs).2 o ho, given_of_unset hunset]
  · intro other s' hs' hsame
    rw [(ofVariables_eq_ok_iff.1 hs).2 o ho, (ofVariables_eq_ok_iff.1 hs').2 o ho,
      given_congr hsame]
  · intro other hother
    rw [hstarts, hstarts]
    exact ⟨Startable.congr fun name hname => (hother name hname).symm, Startable.congr hother⟩

/-- A port may have a sign and blanks around it, and a text that holds no rules does no harm. -/
example :
    (ofVariables fun
      | "PUBLIC_KEY" => some "k"
      | "BIND" => some " "
      | "PORT" => some " +8080 "
      | "ROLE_MAPPING" => some "oops"
      | _ => none).toOption.map (fun s => (s.bind, s.roleRules)) = some ("0.0.0.0:8080", []) := by
  decide +kernel

end Config
end Gatehouse
