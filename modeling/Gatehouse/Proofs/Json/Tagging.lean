import Gatehouse.Json.Tagged
import Gatehouse.Proofs.Json.Freeform

/-!
# Tagged messages as values

The members of a tagged message are read one after the other, the tag among them.  What is read so
is an object with one member of the name of the tag, which holds the name of a variant; it can be
read as a value first, and taken apart afterwards.

Main results:

- Theorem {lit}`foldPieces_eq_ok_iff`: pieces that are read as values and taken apart one by one
  can be collected first.
- Theorem {lit}`readTagged_object_iff`: which objects are tagged messages.
- Theorem {lit}`Slot.exists_of_byName`: a message has a member for each required field.
-/

namespace Gatehouse
namespace Json

/-! ## Taking values apart while they are read -/

section Pieces

variable {α β : Type} {more : Bool → Cursor → Except Failure (Bool × Cursor)} {cause : Cause}
  {piece : α → Reader α} {r : Reader β} {step : β → α → Option α} {start a a' : α}
  {bs bs' : List β}

/-- What is made of some values is made of the earlier ones first. -/
theorem foldrM_of_suffix (hsuffix : bs <:+ bs') (h : bs'.foldrM step start = some a') :
    ∃ a, bs.foldrM step start = some a := by
  rcases hsuffix with ⟨later, rfl⟩
  rw [List.foldrM_append] at h
  rcases Option.bind_eq_some_iff.1 h with ⟨a, ha, -⟩
  exact ⟨a, ha⟩

/-- Pieces that are read as values, each of which makes a state of the one before, can be
collected first. -/
theorem foldPieces_eq_ok_iff
    (hpiece : ∀ (a a' : α) (c c' : Cursor), piece a c = .ok (a', c') ↔
      ∃ b, r c = .ok (b, c') ∧ step b a = some a')
    {fuel : Nat} {first : Bool} {c c' : Cursor} (hstate : bs.foldrM step start = some a) :
    foldPieces more cause piece fuel first a c = .ok (a', c') ↔
      ∃ bs', foldPieces more cause (fun bs c => do
          let (b, c) ← r c
          return (b :: bs, c)) fuel first bs c = .ok (bs', c') ∧
        bs'.foldrM step start = some a' := by
  induction fuel generalizing first a bs c with
  | zero => simp [foldPieces, Failure.atNext]
  | succ fuel ih =>
      simp only [foldPieces]
      cases hmore : more first c with
      | error failure => simp
      | ok result =>
          rcases result with ⟨goesOn, d⟩
          cases goesOn with
          | false =>
              simp only [Except.ok.injEq, Prod.mk.injEq]
              constructor
              · rintro ⟨rfl, rfl⟩
                exact ⟨bs, ⟨rfl, rfl⟩, hstate⟩
              · rintro ⟨_, ⟨rfl, rfl⟩, hlast⟩
                exact ⟨Option.some.inj (hstate.symm.trans hlast), rfl⟩
          | true =>
              simp only
              constructor
              · intro hread
                split at hread
                · contradiction
                · rename_i a₁ e hfirst
                  rcases (hpiece _ _ _ _).1 hfirst with ⟨b, hvalue, hstep⟩
                  have hnext : (b :: bs).foldrM step start = some a₁ := by
                    rw [List.foldrM_cons, hstate]
                    exact hstep
                  rcases (ih hnext).1 hread with ⟨bs', hcollected, hlast⟩
                  exact ⟨bs', by simpa [hvalue, bind, Except.bind, pure, Except.pure]
                    using hcollected, hlast⟩
              · rintro ⟨bs', hread, hlast⟩
                split at hread
                · contradiction
                · rename_i collected e hfirst
                  rcases return_eq_ok hfirst with ⟨b, hvalue, rfl⟩
                  -- what has been collected makes a state, since all that is collected does
                  rcases foldrM_of_suffix (suffix_of_foldPieces hread) hlast with ⟨a₁, hnext⟩
                  have hstep : step b a = some a₁ := by
                    rw [List.foldrM_cons, hstate] at hnext
                    exact hnext
                  rw [(hpiece _ _ _ _).2 ⟨b, hvalue, hstep⟩]
                  exact (ih hnext).2 ⟨bs', hread, hlast⟩

/-- Members that are read as values and taken apart one by one can be collected first. -/
theorem readMembers_eq_ok_iff
    (hpiece : ∀ (a a' : α) (c c' : Cursor), piece a c = .ok (a', c') ↔
      ∃ b, r c = .ok (b, c') ∧ step b a = some a')
    {c c' : Cursor} :
    readMembers piece start c = .ok (a', c') ↔
      ∃ bs, readMembers (fun bs c => do
          let (b, c) ← r c
          return (b :: bs, c)) [] c = .ok (bs, c') ∧ bs.foldrM step start = some a' := by
  unfold readMembers
  rw [foldMembers_eq_foldPieces, foldMembers_eq_foldPieces]
  exact foldPieces_eq_ok_iff hpiece rfl

end Pieces

/-! ## The tag of a message -/

section Tagged

variable {τ : Type} {tag label : String} {ofName? : String → Option τ} {names : List String}
  {t : τ} {depth : Nat}

/-- What a further member makes of the tag and the other members of a message: the tag stands once,
and names a variant. -/
def tagStep (tag : String) (ofName? : String → Option τ) (m : String × Value)
    (found : Option τ × List (String × Value)) : Option (Option τ × List (String × Value)) :=
  if m.1 = tag then
    match found.1, m.2 with
    | none, .string name => (ofName? name).map fun t => (some t, found.2)
    | _, _ => none
  else some (found.1, m :: found.2)

/-- The name of a variant is a string. -/
theorem readName_eq_ok_iff (depth : Nat) {c c' : Cursor} :
    readName ofName? names c = .ok (t, c') ↔
      ∃ name, Value.read (depth + 1) c = .ok (.string name, c') ∧ ofName? name = some t := by
  constructor
  · intro hread
    rcases bind_eq_ok.1 hread with ⟨⟨name, d⟩, htext, hname⟩
    simp only at hname
    split at hname
    · rename_i t' ht
      rw [Except.ok.injEq, Prod.mk.injEq] at hname
      rcases hname with ⟨rfl, rfl⟩
      exact ⟨name, (standsFor_readText _ depth).read htext, ht⟩
    · simp [Failure.atHere] at hname
  · rintro ⟨name, hread, ht⟩
    exact bind_eq_ok.2 ⟨(name, c'), readText_of_read _ hread, by simp only [ht]⟩

/-- The value behind the tag or another name. -/
theorem tagStep_of_eq {m : String × Value} {found : Option τ × List (String × Value)}
    (h : m.1 = tag) : tagStep tag ofName? m found =
      match found.1, m.2 with
      | none, .string name => (ofName? name).map fun t => (some t, found.2)
      | _, _ => none := if_pos h

/-- Any other member is kept. -/
theorem tagStep_of_ne {m : String × Value} {found : Option τ × List (String × Value)}
    (h : m.1 ≠ tag) : tagStep tag ofName? m found = some (found.1, m :: found.2) := if_neg h

/-- Members beside the tag are kept as they are. -/
theorem foldrM_tagStep_of_ne {members : List (String × Value)} (h : ∀ m ∈ members, m.1 ≠ tag)
    (found : Option τ × List (String × Value)) :
    members.foldrM (tagStep tag ofName?) found = some (found.1, members ++ found.2) := by
  induction members with
  | nil => rfl
  | cons m members ih =>
      rcases List.forall_mem_cons.1 h with ⟨hm, hmembers⟩
      rw [List.foldrM_cons, ih hmembers]
      exact tagStep_of_ne hm

/-- The tag in front of other members names the variant. -/
theorem foldrM_tagStep_first {members : List (String × Value)} (h : ∀ m ∈ members, m.1 ≠ tag)
    (name : String) :
    (((tag, .string name) :: members : List (String × Value)).reverse).foldrM
        (tagStep tag ofName?) (none, []) =
      (ofName? name).map fun t => (some t, members.reverse) := by
  have hothers : ∀ m ∈ members.reverse, m.1 ≠ tag := fun m hm => h m (List.mem_reverse.1 hm)
  have hfirst : tagStep tag ofName? (tag, .string name) (none, []) =
      (ofName? name).map fun t => (some t, []) := tagStep_of_eq rfl
  rw [List.reverse_cons, List.foldrM_append, List.foldrM_cons, List.foldrM_nil, pure_bind, hfirst]
  cases ofName? name with
  | none => rfl
  | some t =>
      refine (foldrM_tagStep_of_ne hothers _).trans ?_
      rw [List.append_nil]
      rfl

/-- A member of a message is read as a value. -/
theorem readTagOrMember_eq_ok_iff (found found' : Option τ × List (String × Value))
    (c c' : Cursor) :
    readTagOrMember tag (readName ofName? names) (depth + 1) found c = .ok (found', c') ↔
      ∃ m, readPair (Value.read (depth + 1)) c = .ok (m, c') ∧
        tagStep tag ofName? m found = some found' := by
  constructor
  · intro hread
    rcases bind_eq_ok.1 hread with ⟨⟨key, d⟩, hkey, hbehind⟩
    simp only at hbehind
    split at hbehind
    · rename_i htag
      split at hbehind
      · exact nomatch hbehind
      · rename_i hnone
        rcases bind_eq_ok.1 hbehind with ⟨e, hcolon, hvalue⟩
        rcases return_eq_ok hvalue with ⟨t, hname, rfl⟩
        rcases (readName_eq_ok_iff depth).1 hname with ⟨name, hstring, ht⟩
        refine ⟨(key, .string name), readPair_eq_ok_iff.2 ⟨d, e, hkey, hcolon, hstring⟩, ?_⟩
        rw [tagStep_of_eq htag, Option.not_isSome_iff_eq_none.1 hnone]
        simp [ht]
    · rename_i hother
      rcases bind_eq_ok.1 hbehind with ⟨e, hcolon, hvalue⟩
      rcases return_eq_ok hvalue with ⟨v, hread', rfl⟩
      exact ⟨(key, v), readPair_eq_ok_iff.2 ⟨d, e, hkey, hcolon, hread'⟩, tagStep_of_ne hother⟩
  · rintro ⟨⟨key, v⟩, hread, hstep⟩
    rcases readPair_eq_ok_iff.1 hread with ⟨d, e, hkey, hcolon, hread'⟩
    refine bind_eq_ok.2 ⟨(key, d), hkey, ?_⟩
    by_cases htag : key = tag
    · rw [tagStep_of_eq htag] at hstep
      split at hstep
      · rename_i name hnone hstring
        rcases Option.map_eq_some_iff.1 hstep with ⟨t, ht, rfl⟩
        simp only at hstring
        subst hstring
        simp only [if_pos htag, hnone, Option.isSome_none, Bool.false_eq_true, if_false]
        exact bind_eq_ok.2 ⟨e, hcolon, bind_eq_ok.2
          ⟨(t, c'), (readName_eq_ok_iff depth).2 ⟨name, hread', ht⟩, rfl⟩⟩
      · exact nomatch hstep
    · rw [tagStep_of_ne htag, Option.some.injEq] at hstep
      subst hstep
      simp only [if_neg htag]
      exact bind_eq_ok.2 ⟨e, hcolon, bind_eq_ok.2 ⟨(v, c'), hread', rfl⟩⟩

/-- A tagged message that stands as an object is a value with one member of the name of the tag. -/
theorem readTagged_object_iff {c c' : Cursor} {rest : List Char} {content : Content}
    (hrest : c.rest = '\x7b' :: rest) :
    readTagged tag label ofName? names (depth + 2) c = .ok ((t, content), c') ↔
      ∃ members others, Value.read (depth + 2) c = .ok (.object members, c') ∧
        members.reverse.foldrM (tagStep tag ofName?) (none, []) = some (some t, others) ∧
        content = .map others.reverse := by
  rw [Value.read_at_brace hrest]
  simp only [readTagged, Cursor.skipSpace_eq_self hrest (by decide), hrest, nested_succ]
  constructor
  · intro h
    rcases inObject_eq_ok.1 h with ⟨d, hbody, hclose⟩
    rcases bind_eq_ok.1 hbody with ⟨⟨⟨found, others⟩, e⟩, hmembers, hfound⟩
    simp only at hfound
    split at hfound
    · rcases (readMembers_eq_ok_iff readTagOrMember_eq_ok_iff).1 hmembers with
        ⟨members, hcollected, hsteps⟩
      simp only [pure, Except.pure, Except.ok.injEq, Prod.mk.injEq] at hfound
      rcases hfound with ⟨⟨rfl, rfl⟩, rfl⟩
      refine ⟨members.reverse, others, ?_, by simpa using hsteps, rfl⟩
      exact inObject_eq_ok.2 ⟨e, bind_eq_ok.2 ⟨(members, e), hcollected, rfl⟩, hclose⟩
    · contradiction
  · rintro ⟨members, others, hobject, hsteps, rfl⟩
    rcases inObject_eq_ok.1 hobject with ⟨d, hbody, hclose⟩
    rcases return_eq_ok hbody with ⟨collected, hcollected, hsame⟩
    rw [Value.object.injEq] at hsame
    subst hsame
    rw [List.reverse_reverse] at hsteps
    refine inObject_eq_ok.2 ⟨d, bind_eq_ok.2 ⟨((some t, others), d), ?_, rfl⟩, hclose⟩
    exact (readMembers_eq_ok_iff readTagOrMember_eq_ok_iff).2 ⟨collected, hcollected, hsteps⟩

end Tagged

/-! ## Required members -/

/-- Members that are taken by name include one for each required field. -/
theorem Slot.exists_of_byName {δ : Type} {slots : List (Slot δ)} {slot : Slot δ}
    (hslot : slot ∈ slots) (hrequired : slot.required = true)
    (hown : ∀ other ∈ slots, other.name ≠ slot.name →
      ∀ d v d', other.take d v = .ok d' → slot.given d' = slot.given d)
    {members : List (String × Value)} {d d' : δ} (hd : slot.given d = false)
    (h : byName slots members d = .ok d') : ∃ m ∈ members, m.1 = slot.name := by
  induction members generalizing d with
  | nil =>
      unfold byName at h
      split at h
      · exact nomatch h
      · rename_i hnone
        have hgiven := List.find?_eq_none.1 hnone slot hslot
        simp [hrequired, hd] at hgiven
  | cons m members ih =>
      by_cases hname : m.1 = slot.name
      · exact ⟨m, List.mem_cons_self, hname⟩
      · have hlater : ∃ d₁, slot.given d₁ = false ∧ byName slots members d₁ = .ok d' := by
          unfold byName at h
          split at h
          · rename_i other hother
            split at h
            · exact nomatch h
            · rcases bind_eq_ok.1 h with ⟨d₁, htake, hrest⟩
              have hkey : other.name = m.1 := by simpa using List.find?_some hother
              have hkept := hown other (List.mem_of_find?_eq_some hother) (hkey ▸ hname) _ _ _ htake
              exact ⟨d₁, hkept.trans hd, hrest⟩
          · exact ⟨d, hd, h⟩
        rcases hlater with ⟨d₁, hd₁, hrest⟩
        rcases ih hd₁ hrest with ⟨m', hm', hsame⟩
        exact ⟨m', List.mem_cons_of_mem m hm', hsame⟩

end Json
end Gatehouse
