import Gatehouse.Proofs.Json.Canonical
import Gatehouse.Proofs.Json.Members
import Gatehouse.Proofs.Json.Yield

/-!
# Bounds of what is read

Whatever text a value is read from, its containers stand inside each other no further than the
reading allows, and its whole numbers are of 64 bits.  What is kept by every field of a record
is kept by the record.

Main results:

- Theorem {lit}`Value.ensures_read`: what holds of every value that is read.
- Theorem {lit}`ensures_readRecord`: what every field keeps holds of every record that is read.
-/

namespace Gatehouse
namespace Json

/-- Whether every value that a reader gives has a property. -/
def Ensures {α : Type} (r : Reader α) (P : α → Prop) : Prop :=
  ∀ ⦃c c' : Cursor⦄ ⦃a : α⦄, r c = .ok (a, c') → P a

section Ensures

variable {α β : Type} {P : α → Prop} {Q : β → Prop} {r : Reader α} {a : α}

/-- A value made of a value that is read has what follows from its property. -/
theorem Ensures.map {f : α → β} (h : Ensures r P) (hf : ∀ a, P a → Q (f a)) :
    Ensures (fun c => do
      let (a, c) ← r c
      return (f a, c)) Q := by
  intro c c' b hread
  rcases return_eq_ok hread with ⟨a, hvalue, rfl⟩
  exact hf a (h hvalue)

/-- A text holds a value with the property that the reader ensures. -/
theorem Ensures.run (h : Ensures r P) {text : List Char} (hread : r.run text = .ok a) : P a := by
  rcases run_eq_ok_iff.1 hread with ⟨c, hvalue, -⟩
  exact h hvalue

/-- What every piece keeps holds behind all of them. -/
theorem Ensures.foldPieces {more : Bool → Cursor → Except Failure (Bool × Cursor)} {cause : Cause}
    {piece : α → Reader α} (hpiece : ∀ a, P a → Ensures (piece a) P) (ha : P a) (fuel : Nat)
    (first : Bool) : Ensures (foldPieces more cause piece fuel first a) P := by
  induction fuel generalizing first a with
  | zero => exact fun c c' b hread => by simp [Json.foldPieces, Failure.atNext] at hread
  | succ fuel ih =>
      intro c c' b hread
      simp only [Json.foldPieces] at hread
      split at hread
      · contradiction
      · rw [Except.ok.injEq, Prod.mk.injEq] at hread
        exact hread.1 ▸ ha
      · split at hread
        · contradiction
        · rename_i a' d hvalue
          exact ih (hpiece a ha hvalue) false hread

theorem Ensures.readItems {item : α → Reader α} (hitem : ∀ a, P a → Ensures (item a) P)
    (ha : P a) : Ensures (readItems item a) P := by
  intro c c' b hread
  unfold Json.readItems at hread
  rw [foldItems_eq_foldPieces] at hread
  exact Ensures.foldPieces hitem ha _ true hread

theorem Ensures.readMembers {member : α → Reader α} (hmember : ∀ a, P a → Ensures (member a) P)
    (ha : P a) : Ensures (readMembers member a) P := by
  intro c c' b hread
  unfold Json.readMembers at hread
  rw [foldMembers_eq_foldPieces] at hread
  exact Ensures.foldPieces hmember ha _ true hread

theorem Ensures.inList {body : Reader α} (h : Ensures body P) : Ensures (inList body) P := by
  intro c c' a hread
  rcases inList_eq_ok.1 hread with ⟨d, hbody, -⟩
  exact h hbody

theorem Ensures.inObject {body : Reader α} (h : Ensures body P) : Ensures (inObject body) P := by
  intro c c' a hread
  rcases inObject_eq_ok.1 hread with ⟨d, hbody, -⟩
  exact h hbody

/-- The value behind a key has its property. -/
theorem Ensures.readPair (h : Ensures r P) : Ensures (readPair r) fun m => P m.2 := by
  intro c c' m hread
  rcases readPair_eq_ok_iff.1 hread with ⟨d, e, -, -, hvalue⟩
  exact h hvalue

end Ensures

/-! ## Numbers -/

/-- A further digit keeps the leading digits below 64 bits. -/
theorem Significand.pushWhole_lt {s : Significand} (h : s.value < limit) (digit : Nat) :
    (s.pushWhole digit).value < limit := by
  unfold pushWhole
  split
  · exact h
  · split
    · assumption
    · exact h

/-- The leading digits of a number are below 64 bits. -/
theorem Significand.ofWhole_lt (digits : List Char) : (ofWhole digits).value < limit := by
  have hfold : ∀ s : Significand, s.value < limit →
      (digits.foldl (fun (s : Significand) c => s.pushWhole (Text.digitValue c)) s).value <
        limit := by
    induction digits with
    | nil => exact fun s h => h
    | cons ch digits ih => exact fun s h => ih _ (pushWhole_lt h _)
  exact hfold _ (by decide)

/-- A number of whole digits fits. -/
theorem fits_of_wholeNumber? {negative : Bool} {s : Significand} {n : Number}
    (hs : s.value < Significand.limit) (h : wholeNumber? negative s = some n) : n.Fits := by
  have hdouble : ∀ {x : Option Double}, x.map Number.double = some n → n.Fits := by
    intro x hx
    rcases Option.map_eq_some_iff.1 hx with ⟨y, -, rfl⟩
    trivial
  unfold wholeNumber? at h
  split at h
  · exact hdouble h
  · split at h
    · split at h
      · rename_i hsize
        exact Option.some.inj h ▸ hsize
      · exact hdouble h
    · exact Option.some.inj h ▸ hs

theorem ensures_readExponentDigits (negative positive : Bool) (s : Significand)
    (digits : List Char) (value : Nat) :
    Ensures (readExponentDigits negative positive s digits value) Number.Fits := by
  induction digits generalizing value with
  | nil =>
      intro c c' n hread
      simp only [readExponentDigits] at hread
      split at hread
      · rw [Except.ok.injEq, Prod.mk.injEq] at hread
        exact hread.1 ▸ trivial
      · simp [Failure.atHere] at hread
  | cons ch digits ih =>
      intro c c' n hread
      simp only [readExponentDigits] at hread
      split at hread
      · exact ih _ hread
      · split at hread
        · simp [Failure.atHere] at hread
        · rw [Except.ok.injEq, Prod.mk.injEq] at hread
          exact hread.1 ▸ trivial

theorem ensures_readScale (negative : Bool) (s : Significand) :
    Ensures (readScale negative s) Number.Fits := by
  intro c c' n hread
  unfold readScale at hread
  split at hread
  · unfold readExponent at hread
    dsimp only at hread
    split at hread
    · simp [Failure.atHere] at hread
    · split at hread
      · exact ensures_readExponentDigits _ _ _ _ _ hread
      · simp [Failure.atNext] at hread
  · split at hread
    · rw [Except.ok.injEq, Prod.mk.injEq] at hread
      exact hread.1 ▸ trivial
    · simp [Failure.atHere] at hread

theorem ensures_readAfterWhole (negative : Bool) {s : Significand}
    (hs : s.value < Significand.limit) : Ensures (readAfterWhole negative s) Number.Fits := by
  intro c c' n hread
  unfold readAfterWhole at hread
  split at hread
  · dsimp only at hread
    split at hread
    · simp [Failure.atNext] at hread
    · exact ensures_readScale _ _ hread
  · split at hread
    · exact ensures_readScale _ _ hread
    · split at hread
      · rename_i m hnumber
        rw [Except.ok.injEq, Prod.mk.injEq] at hread
        exact hread.1 ▸ fits_of_wholeNumber? hs hnumber
      · simp [Failure.atHere] at hread

/-- Every number that is read fits. -/
theorem ensures_readNumber : Ensures readNumber Number.Fits := by
  have hunsigned : ∀ negative, Ensures (readUnsigned negative) Number.Fits := by
    intro negative c c' n hread
    unfold readUnsigned at hread
    split at hread
    · simp [Failure.atHere] at hread
    · split at hread
      · simp [Failure.atNext] at hread
      · exact ensures_readAfterWhole _ (Significand.ofWhole_lt _) hread
    · split at hread
      · exact ensures_readAfterWhole _ (Significand.ofWhole_lt _) hread
      · simp [Failure.atNext] at hread
  intro c c' n hread
  unfold readNumber at hread
  split at hread
  · exact hunsigned true hread
  · exact hunsigned false hread

/-! ## Values -/

namespace Value

/-- Whether fewer than so many containers stand inside each other in a value and its numbers
fit. -/
def Within (d : Nat) (v : Value) : Prop := v.depth < d ∧ ∀ n ∈ v.numbers, n.Fits

variable {d : Nat}

theorem within_array {items : List Value} (h : ∀ item ∈ items, Within (d + 1) item) :
    Within (d + 2) (.array items) := by
  refine ⟨depth_array_lt_iff.2 fun item hitem => (h item hitem).1, fun n hn => ?_⟩
  rcases mem_numbers_array.1 hn with ⟨item, hitem, hown⟩
  exact (h item hitem).2 n hown

theorem within_object {members : List (String × Value)} (h : ∀ m ∈ members, Within (d + 1) m.2) :
    Within (d + 2) (.object members) := by
  refine ⟨depth_object_lt_iff.2 fun m hm => (h m hm).1, fun n hn => ?_⟩
  rcases mem_numbers_object.1 hn with ⟨m, hm, hown⟩
  exact (h m hm).2 n hown

/-- Whether a value is one that is kept: the members of every object are sorted, with one for each
key, and the numbers fit. -/
structure Kept (v : Value) : Prop where
  canonical : v.canonical = v
  fits : ∀ n ∈ v.numbers, n.Fits

/-- The canonical form of a value stays within what the value stands within. -/
theorem Within.canonical {v : Value} (h : Within d v) : Within d v.canonical :=
  ⟨Nat.lt_of_le_of_lt (depth_canonical_le v) h.1, fun n hn => h.2 n (mem_numbers_of_canonical hn)⟩

/-- A value that stands within bounds is kept in its canonical form. -/
theorem Within.kept {v : Value} (h : Within d v) : v.canonical.Kept :=
  ⟨canonical_idem v, h.canonical.2⟩

/-- Every value that is read stays within the bounds of the reading. -/
theorem ensures_read (d : Nat) : Ensures (read d) (Within d) := by
  induction d with
  | zero => exact fun c c' v hread => by simp [read, Failure.atNext] at hread
  | succ d ih =>
      have hplain : ∀ {v : Value}, v.depth = 0 → v.numbers = [] → Within (d + 1) v := by
        intro v hdepth hnumbers
        exact ⟨by omega, by simp [hnumbers]⟩
      intro c c' v hread
      simp only [read] at hread
      split at hread
      · simp [Failure.atNext] at hread
      case h_2 rest hrest | h_3 rest hrest | h_4 rest hrest =>
        rcases return_eq_ok hread with ⟨⟨⟩, -, rfl⟩
        exact hplain rfl rfl
      case h_5 rest hrest =>
        rcases return_eq_ok hread with ⟨s, -, rfl⟩
        exact hplain rfl rfl
      case h_6 rest hrest =>
        cases d with
        | zero => simp [nested, Failure.atNext] at hread
        | succ d =>
            have hitems := Ensures.readItems (P := fun items => ∀ item ∈ items, Within (d + 1) item)
              (fun items hitems => ih.map (f := (· :: items)) fun item hitem =>
                List.forall_mem_cons.2 ⟨hitem, hitems⟩) (a := []) (by simp)
            have hvalue := hitems.map (f := fun items => Value.array items.reverse)
              fun items hitems => within_array fun item hitem =>
                hitems item (List.mem_reverse.1 hitem)
            exact hvalue.inList (nested_eq_ok hread)
      case h_7 rest hrest =>
        cases d with
        | zero => simp [nested, Failure.atNext] at hread
        | succ d =>
            have hmembers := Ensures.readMembers
              (P := fun members => ∀ m ∈ members, Within (d + 1) m.2)
              (fun members hmembers => ih.readPair.map (f := (· :: members))
                fun (m : String × Value) hm other hother => by
                  rcases List.mem_cons.1 hother with rfl | hother
                  · exact hm
                  · exact hmembers other hother)
              (a := []) (by simp)
            have hvalue := hmembers.map (f := fun members => Value.object members.reverse)
              fun members hmembers => within_object fun m hm =>
                hmembers m (List.mem_reverse.1 hm)
            exact hvalue.inObject (nested_eq_ok hread)
      case h_8 ch rest hnull htrue hfalse hquote hlist hobject hrest =>
        split at hread
        · rcases return_eq_ok hread with ⟨n, hnumber, rfl⟩
          refine ⟨Nat.succ_pos d, fun m hm => ?_⟩
          rw [List.mem_singleton.1 hm]
          exact ensures_readNumber hnumber
        · simp [Failure.atNext] at hread

end Value

/-! ## Records -/

section Records

variable {δ : Type} {P : δ → Prop} {fields : List (Field δ)} {depth : Nat} {draft : δ}

/-- What every field keeps, a member keeps. -/
theorem Field.ensures_readMember
    (hfields : ∀ field ∈ fields, ∀ d, P d → Ensures (field.read depth d) P) (hdraft : P draft) :
    Ensures (readMember fields depth draft) P := by
  intro c c' d hread
  rcases bind_eq_ok.1 hread with ⟨⟨key, e⟩, -, hbehind⟩
  simp only at hbehind
  split at hbehind
  · rename_i field hfound
    split at hbehind
    · exact nomatch hbehind
    · rcases bind_eq_ok.1 hbehind with ⟨f, -, hvalue⟩
      exact hfields field (List.mem_of_find?_eq_some hfound) draft hdraft hvalue
  · rcases bind_eq_ok.1 hbehind with ⟨f, -, hskip⟩
    rcases return_eq_ok hskip with ⟨⟨⟩, -, rfl⟩
    exact hdraft

/-- What every field keeps, the fields in order keep. -/
theorem Field.ensures_readInOrder {label : String} {count index : Nat}
    (hfields : ∀ field ∈ fields, ∀ d, P d → Ensures (field.read depth d) P) (hdraft : P draft) :
    Ensures (readInOrder label depth count fields index draft) P := by
  induction fields generalizing index draft with
  | nil =>
      intro c c' d hread
      simp only [readInOrder, Except.ok.injEq, Prod.mk.injEq] at hread
      exact hread.1 ▸ hdraft
  | cons field fields ih =>
      rcases List.forall_mem_cons.1 hfields with ⟨hfield, hmore⟩
      intro c c' d hread
      simp only [readInOrder] at hread
      split at hread
      · contradiction
      · split at hread
        · contradiction
        · rename_i draft' e hvalue
          exact ih hmore (hfield draft hdraft hvalue) hread
      · split at hread
        · contradiction
        · exact ih hmore hdraft hread

/-- What every field keeps holds of a record that is read, be it written as an object or as a
list. -/
theorem ensures_readRecord {label : String}
    (hfields : ∀ field ∈ fields, ∀ d, P d → Ensures (field.read depth d) P) (hdraft : P draft) :
    Ensures (readRecord label fields draft (depth + 1)) P := by
  intro c c' d hread
  simp only [readRecord] at hread
  split at hread
  · simp [Failure.atNext] at hread
  · exact (Field.ensures_readInOrder hfields hdraft).inList (nested_eq_ok hread)
  · refine Ensures.inObject (fun c c' d hread => ?_) (nested_eq_ok hread)
    rcases bind_eq_ok.1 hread with ⟨⟨draft', e⟩, hmembers, hcomplete⟩
    have hkept := Ensures.readMembers
      (fun d hd => Field.ensures_readMember hfields hd) hdraft hmembers
    dsimp only at hcomplete
    split at hcomplete
    · contradiction
    · rw [Except.ok.injEq, Prod.mk.injEq] at hcomplete
      exact hcomplete.1 ▸ hkept
  · exact absurd hread refuseKind_ne_ok

/-- A record has what follows from what holds of its draft. -/
theorem Ensures.finishRecord {ρ : Type} {Q : ρ → Prop} {r : Reader δ} {finish : δ → Option ρ}
    (h : Ensures r P) (hfinish : ∀ draft record, P draft → finish draft = some record → Q record) :
    Ensures (finishRecord r finish) Q := by
  intro c c' record hread
  rcases bind_eq_ok.1 hread with ⟨⟨draft, d⟩, hdraft, hfinished⟩
  dsimp only at hfinished
  split at hfinished
  · rename_i found hfound
    rw [Except.ok.injEq, Prod.mk.injEq] at hfinished
    exact hfinished.1 ▸ hfinish draft found (h hdraft) hfound
  · simp [Failure.atHere] at hfinished

end Records

end Json
end Gatehouse
