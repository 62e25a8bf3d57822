import Gatehouse.Edge.Startup
import Gatehouse.Proofs.Config.Variables
import Gatehouse.Proofs.Json.Members
import Gatehouse.Proofs.Text.CommaList

/-!
# The read suffixes of a list

A list of read suffixes can be made a rule at once, or its entries can be kept among the settings
and be made a rule when the gate starts.  The second way trims twice and leaves out blank entries
twice, and a blank variable does not even come to the list.  The rule is the same.

Main results:

- Theorem {lit}`Permissions.suffixes_ofCsv_iff`: which suffixes a list configures.
- Theorem {lit}`Permissions.ofSuffixes_commaList`: the entries of a list make the rule of the list.
- Theorem {lit}`Permissions.ofSuffixes_readSuffixes`: so do the settings with the list.
- Theorem {lit}`Permissions.reads_lists_alike`: all readings of a list agree, and so do those of
  its suffixes with commas between them.
-/

namespace Gatehouse
namespace Permissions

variable {rule : Permissions} {csv : String} {given suffixes : List String}
  {lookup : String → Option String} {s : Settings}

/-! ## Suffixes from entries -/

/-- Whether a comma-separated list configures the suffixes: they are its entries, or the default
ones if it has no entries. -/
def Configures (csv : String) (suffixes : List String) : Prop :=
  (suffixes ≠ [] ∧ Text.Lists csv suffixes) ∨ (Text.Lists csv [] ∧ suffixes = defaultSuffixes)

/-- Entries of a list are suffixes as they are, and the default ones are if there are none. -/
theorem suffixes_ofSuffixes (h : ∀ suffix ∈ given, Text.IsEntry suffix) :
    (ofSuffixes given).suffixes = if given = [] then defaultSuffixes else given := by
  rw [ofSuffixes, Text.filter_map_trim h]
  cases given with
  | nil => rfl
  | cons suffix others => rw [if_neg (List.cons_ne_nil _ _)]

/-- The entries of a list make the rule of the list. -/
theorem ofSuffixes_commaList (csv : String) : ofSuffixes (Text.commaList csv) = ofCsv csv := by
  rw [ofSuffixes, Text.filter_map_trim fun _ => Text.isEntry_of_mem_commaList]
  rfl

/-- The suffixes of a list, in terms of its entries. -/
theorem suffixes_ofCsv (csv : String) :
    (ofCsv csv).suffixes =
      if Text.commaList csv = [] then defaultSuffixes else Text.commaList csv := by
  rw [← ofSuffixes_commaList, suffixes_ofSuffixes fun _ => Text.isEntry_of_mem_commaList]

/-- A list has the suffixes that it configures. -/
theorem suffixes_ofCsv_iff : (ofCsv csv).suffixes = suffixes ↔ Configures csv suffixes := by
  unfold Configures
  rw [suffixes_ofCsv, ← Text.commaList_eq_iff, ← Text.commaList_eq_iff]
  by_cases hnone : Text.commaList csv = []
  · rw [if_pos hnone, hnone]
    constructor
    · intro hdefault
      exact .inr ⟨rfl, hdefault.symm⟩
    · rintro (⟨hsome, hempty⟩ | ⟨-, hdefault⟩)
      · exact absurd hempty.symm hsome
      · exact hdefault.symm
  · rw [if_neg hnone]
    constructor
    · rintro rfl
      exact .inl ⟨hnone, rfl⟩
    · rintro (⟨-, hentries⟩ | ⟨hempty, -⟩)
      · exact hentries
      · exact absurd hempty hnone

/-- Every suffix of a list can be an entry of a list. -/
theorem isEntry_of_mem_suffixes : ∀ suffix ∈ (ofCsv csv).suffixes, Text.IsEntry suffix := by
  have hdefault : ∀ suffix ∈ defaultSuffixes,
      suffix ≠ "" ∧ Text.trim suffix = suffix ∧ ',' ∉ suffix.toList := by decide
  intro suffix hsuffix
  rw [suffixes_ofCsv] at hsuffix
  split at hsuffix
  · rcases hdefault suffix hsuffix with ⟨hne, htrimmed, hplain⟩
    exact ⟨hne, (Text.trim_eq_iff.1 htrimmed).1, hplain⟩
  · exact Text.isEntry_of_mem_commaList hsuffix

/-- A rule has some suffix. -/
theorem suffixes_ne_nil (given : List String) : (ofSuffixes given).suffixes ≠ [] := by
  unfold ofSuffixes
  split
  · exact List.cons_ne_nil _ _
  · assumption

/-- The suffixes of a rule with commas between them. -/
def joined (rule : Permissions) : String := ",".intercalate rule.suffixes

/-- A rule has the suffixes of the list that is made of them. -/
theorem suffixes_ofCsv_joined (hne : rule.suffixes ≠ [])
    (h : ∀ suffix ∈ rule.suffixes, Text.IsEntry suffix) :
    (ofCsv rule.joined).suffixes = rule.suffixes := by
  rw [← ofSuffixes_commaList, joined, Text.commaList_intercalate h, suffixes_ofSuffixes h,
    if_neg hne]

/-! ## Suffixes from settings -/

/-- The settings that variables give have the entries of the list in its variable. -/
theorem readSuffixes_eq (h : Config.ofVariables lookup = .ok s) :
    s.readSuffixes = ((Config.nonBlank lookup "RBAC_READ_SUFFIXES").map Text.commaList).getD
      defaultSuffixes := by
  have hgiven := (Config.ofVariables_eq_ok_iff.1 h).2
  simp only [Config.sources, List.forall_mem_cons, Config.given_singleton] at hgiven
  rcases hgiven with ⟨-, -, -, hsuffixes, -⟩
  exact hsuffixes

/-- The settings with a list make the rule of the list. -/
theorem ofSuffixes_readSuffixes (hcsv : lookup "RBAC_READ_SUFFIXES" = some csv)
    (h : Config.ofVariables lookup = .ok s) : ofSuffixes s.readSuffixes = ofCsv csv := by
  rw [readSuffixes_eq h, ← ofSuffixes_commaList]
  by_cases hblank : Text.isBlankText csv = true
  · -- the variable counts as not set, and the list has no entries
    have hunset : Config.nonBlank lookup "RBAC_READ_SUFFIXES" = none := by
      rw [Config.nonBlank, hcsv, Option.filter_some, hblank]
      rfl
    rw [hunset, Text.commaList_eq_iff.2 (Text.lists_of_blank hblank)]
    decide
  · have hset : Config.IsSet lookup "RBAC_READ_SUFFIXES" csv :=
      ⟨hcsv, Bool.eq_false_iff.2 hblank⟩
    rw [Config.nonBlank_eq_some_iff.2 hset]
    rfl

/-- Whatever a list is, a rule that is made of it at once and a rule that is made of its entries
have the same suffixes: the entries of the list in their order, each as often as it stands there,
without the blanks around it, or the default ones if there are no entries.  Both find the same
suffixes again in the list that is made of them with commas in between.  And with variables of which
one holds the list, and which are otherwise such that the gate can start with them, settings are
read that have the same suffixes, too, and so has the gate. -/
theorem reads_lists_alike (csv : String) :
    (ofSuffixes (Text.commaList csv)).suffixes = (ofCsv csv).suffixes ∧
    (∀ suffixes, (ofCsv csv).suffixes = suffixes ↔ Configures csv suffixes) ∧
    (ofCsv (ofCsv csv).joined).suffixes = (ofCsv csv).suffixes ∧
    (ofSuffixes (Text.commaList (ofCsv csv).joined)).suffixes = (ofCsv csv).suffixes ∧
    Text.commaList (ofCsv csv).joined = (ofCsv csv).suffixes ∧
    ∀ lookup, Config.Startable lookup → lookup "RBAC_READ_SUFFIXES" = some csv →
      ∃ s, Config.ofVariables lookup = .ok s ∧
        (ofSuffixes s.readSuffixes).suffixes = (ofCsv csv).suffixes ∧
        ∀ now g, Gate.ofSettings s now = .ok g → g.permissions.suffixes = (ofCsv csv).suffixes := by
  have hagain : (ofCsv (ofCsv csv).joined).suffixes = (ofCsv csv).suffixes :=
    suffixes_ofCsv_joined (suffixes_ne_nil _) isEntry_of_mem_suffixes
  refine ⟨?_, fun _ => suffixes_ofCsv_iff, hagain, ?_, ?_, ?_⟩
  · rw [ofSuffixes_commaList]
  · rw [ofSuffixes_commaList, hagain]
  · exact Text.commaList_intercalate isEntry_of_mem_suffixes
  · intro lookup hstart hcsv
    rcases hstart.legible.exists_read with ⟨s, -, hgiven⟩
    have hs : Config.ofVariables lookup = .ok s := Config.ofVariables_eq_ok_iff.2 ⟨hstart, hgiven⟩
    have hrule := ofSuffixes_readSuffixes hcsv hs
    refine ⟨s, hs, by rw [hrule], fun now g hg => ?_⟩
    rw [(Gate.ofSettings_ok hg).2, hrule]

/-! ### A repeated suffix -/

/-- Variables of which one holds a list of suffixes and one a key; no others are set. -/
def keyed (csv : String) : String → Option String
  | "PUBLIC_KEY" => some "-----BEGIN RSA PUBLIC KEY-----BQA=-----END RSA PUBLIC KEY-----"
  | "RBAC_READ_SUFFIXES" => some csv
  | _ => none

/-- A list with a repeated suffix, with blanks of several kinds around the suffixes and as an entry
of their own, is read by a gate as it is read at once. -/
theorem reads_lists_alike_of_repeated :
    let csv := " READER ,\u00a0,OBSERVER\u2003,\tREADER"
    let suffixes := ["READER", "OBSERVER", "READER"]
    (ofSuffixes (Text.commaList csv)).suffixes = suffixes ∧ Configures csv suffixes ∧
      (ofCsv "READER,OBSERVER,READER").suffixes = suffixes ∧
      ∃ s g, Config.ofVariables (keyed csv) = .ok s ∧ Gate.ofSettings s (.ofNat 0) = .ok g ∧
        g.permissions.suffixes = suffixes := by
  intro csv suffixes
  have hsuffixes : (ofCsv csv).suffixes = suffixes := by decide
  have hstarts : ((Config.ofVariables (keyed csv)).toOption.bind fun s =>
      (Gate.ofSettings s (.ofNat 0)).toOption).isSome = true := by decide +kernel
  rcases Option.isSome_iff_exists.1 hstarts with ⟨g, hstarts⟩
  rcases Option.bind_eq_some_iff.1 hstarts with ⟨s, hs, hg⟩
  rw [Json.toOption_eq_some_iff] at hs hg
  rcases reads_lists_alike csv with ⟨hentries, hconfigures, hagain, -, -, hvariables⟩
  rcases hvariables (keyed csv) (Config.ofVariables_eq_ok_iff.1 hs).1 rfl with ⟨s', hs', -, hgate⟩
  obtain rfl := Except.ok.inj (hs.symm.trans hs')
  rw [hsuffixes] at hentries hgate
  refine ⟨hentries, (hconfigures suffixes).1 hsuffixes, ?_, s, g, hs, hg, hgate _ g hg⟩
  rw [joined, hsuffixes] at hagain
  exact hagain

end Permissions
end Gatehouse
