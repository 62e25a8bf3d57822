import Mathlib.Data.List.Forall2
import Gatehouse.Proofs.Json.Freeform

/-!
# What is written can be stepped over

Whatever is written is stepped over to its end, however many containers stand inside each other
and whatever the numbers are.  A reader that asks for more may refuse what was written, but if it
takes the whole value it stops at the same place, so that the members of a written object are
found by their names.

Main results:

- Theorem {lit}`yields_skipValue`: written values are stepped over.
- Theorem {lit}`TakesValue.accepts`: a reader that takes the whole value stops behind what was
  written.
- Theorem {lit}`members_of_read`: a written object that is read has the same names, and the same
  strings behind them.
- Theorem {lit}`readRecord_ne_ok_of_missing`: no record is read from an object that leaves out one
  of its fields.
-/

namespace Gatehouse
namespace Json

/-! ## Stepping over -/

section Stepping

variable {β : Type} {test : Char → Prop} {r : Reader Unit} {front : β → List Char → List Char}
  {bs : List β}

/-- Pieces are stepped over one after the other if each of them is. -/
theorem passes_each (h : ∀ b ∈ bs, Begins test (front b) ∧ Yields Stops r (front b) ()) :
    Passes test (fun _ => r) front () bs () := by
  induction bs with
  | nil => exact .nil _
  | cons b bs ih =>
      rcases List.forall_mem_cons.1 h with ⟨⟨hbegins, hpiece⟩, hrest⟩
      exact .cons hbegins hpiece (ih hrest)

/-- A string is stepped over. -/
theorem yields_skipQuoted (s : String) : Yields anyText skipQuoted (writeString s) () := by
  intro c rest htest hc
  rcases yields_readQuoted s htest hc with ⟨c', hread, hc'⟩
  exact ⟨c', skipQuoted_of_readQuoted hread, hc'⟩

/-- A member of an object is stepped over if its value is. -/
theorem yields_skipPair {fuel : Nat} (m : String × Value)
    (h : Yields Stops (skipValueWith fuel) m.2.write ()) :
    Yields Stops (skipPair fuel) (Value.writeMember m) () := by
  intro c rest hrest hc
  rcases reads_key hc with ⟨d, e, hkey, hcolon, he⟩
  rcases h hrest he with ⟨c', hvalue, hc'⟩
  exact ⟨c', bind_eq_ok.2 ⟨((), d), skipQuoted_of_readQuoted hkey,
    bind_eq_ok.2 ⟨e, hcolon, hvalue⟩⟩, hc'⟩

end Stepping

/-- A word is stepped over behind its first letter. -/
theorem skipWord_behind (word : List Char) {rest : List Char} {ch : Char} {c : Cursor}
    (h : c.rest = ch :: (word ++ rest)) :
    ∃ c', readWord word c.advance = .ok ((), c') ∧ c'.rest = rest :=
  yields_readWord word trivial (by simp [h])

/-- A written value is stepped over with fuel for the containers that stand inside each other. -/
theorem yields_skipValueWith (v : Value) (d : Nat) (hdepth : v.depth < d) :
    Yields Stops (skipValueWith d) v.write () := by
  induction v using Value.induction generalizing d with
  | null =>
      rcases Nat.exists_eq_succ_of_ne_zero (Nat.ne_of_gt hdepth) with ⟨d, rfl⟩
      intro c rest _ hc
      simp only [skipValueWith, Cursor.skipSpace_eq_self hc (by decide), hc]
      exact skipWord_behind ['u', 'l', 'l'] hc
  | bool b =>
      rcases Nat.exists_eq_succ_of_ne_zero (Nat.ne_of_gt hdepth) with ⟨d, rfl⟩
      intro c rest _ hc
      cases b
      · simp only [skipValueWith, Cursor.skipSpace_eq_self hc (by decide), hc]
        exact skipWord_behind ['a', 'l', 's', 'e'] hc
      · simp only [skipValueWith, Cursor.skipSpace_eq_self hc (by decide), hc]
        exact skipWord_behind ['r', 'u', 'e'] hc
  | number n =>
      rcases Nat.exists_eq_succ_of_ne_zero (Nat.ne_of_gt hdepth) with ⟨d, rfl⟩
      rcases (isNumberText_chars n).eq_cons with ⟨ch, own, hch, hchars⟩
      intro c rest hrest hc
      have hfirst : c.rest = ch :: (own ++ rest) := by rw [hc, Value.write, hchars]; rfl
      have hspace := Cursor.skipSpace_eq_self hfirst (startsItem_of_numberStart hch).1
      rw [skipValueWith_number (hspace.symm ▸ hfirst) hch, hspace]
      exact yields_skipNumber (isNumberText_chars n) hrest hc
  | string s =>
      rcases Nat.exists_eq_succ_of_ne_zero (Nat.ne_of_gt hdepth) with ⟨d, rfl⟩
      intro c rest _ hc
      have hquote : c.rest = '"' :: writeBody s.toList rest := hc
      simp only [skipValueWith, Cursor.skipSpace_eq_self hquote (by decide), hquote]
      exact yields_skipQuoted s trivial hc
  | array items ih =>
      rcases Nat.exists_eq_add_of_le' (show 2 ≤ d by rw [Value.depth] at hdepth; omega) with
        ⟨d, rfl⟩
      have hitems : ∀ item ∈ items, Begins StartsItem item.write ∧
          Yields Stops (skipValueWith (d + 1)) item.write () := fun item hitem =>
        ⟨Value.begins_write item,
          ih item hitem _ (Value.depth_array_lt_iff.1 hdepth item hitem)⟩
      intro c rest _ hc
      rw [Value.write_array] at hc
      simp only [skipValueWith, Cursor.skipSpace_eq_self hc (by decide), hc]
      exact (passes_each hitems).readItems.inList trivial hc
  | object members ih =>
      rcases Nat.exists_eq_add_of_le' (show 2 ≤ d by rw [Value.depth] at hdepth; omega) with
        ⟨d, rfl⟩
      have hmembers : ∀ m ∈ members, Begins (· = '"') (Value.writeMember m) ∧
          Yields Stops (skipPair (d + 1)) (Value.writeMember m) () := fun m hm =>
        ⟨Value.begins_writeMember m,
          yields_skipPair m (ih m hm _ (Value.depth_object_lt_iff.1 hdepth m hm))⟩
      intro c rest _ hc
      rw [Value.write_object] at hc
      rw [skipValueWith]
      simp only [Cursor.skipSpace_eq_self hc (by decide), hc]
      exact (passes_each hmembers).readMembers.inObject trivial hc

/-- A written value is stepped over. -/
theorem yields_skipValue (v : Value) : Yields Stops skipValue v.write () := by
  intro c rest hrest hc
  rcases yields_skipValueWith v _ (Nat.lt_succ_self _) hrest hc with ⟨c', hskip, hc'⟩
  rcases (steppedOver_skipValueWith _).leads _ (Nat.le_refl _) hskip with ⟨-, ⟨⟩, hled, -⟩
  exact ⟨c', hled, hc'⟩

/-! ## Readers that may refuse -/

/-- Whether a reader that accepts what was written in front of other text stops at that text, with
a value of a certain kind. -/
def Accepts {α : Type} (r : Reader α) (front : List Char → List Char) (P : α → Prop) : Prop :=
  ∀ ⦃c c' : Cursor⦄ ⦃rest : List Char⦄ ⦃a : α⦄, Stops rest → c.rest = front rest →
    r c = .ok (a, c') → c'.rest = rest ∧ P a

section Accepts

variable {α β : Type} {r : Reader α} {inside : List Char → List Char} {P : α → Prop}

/-- A reader that takes the whole value stops behind what was written. -/
theorem TakesValue.accepts (h : TakesValue r) (v : Value) :
    Accepts r v.write fun _ => True := by
  intro c c' rest a hrest hc hread
  rcases yields_skipValue v hrest hc with ⟨d, hskip, hd⟩
  rcases h.agree hread hskip with ⟨rfl, -⟩
  exact ⟨hd, trivial⟩

/-- A key with a value is accepted as that key if the value is accepted. -/
theorem Accepts.readPair (h : Accepts r inside P) (key : String) :
    Accepts (readPair r) (fun rest => writeString key (':' :: inside rest))
      fun m => m.1 = key ∧ P m.2 := by
  intro c c' rest m hrest hc hread
  rcases reads_key hc with ⟨d, e, hkey, hcolon, he⟩
  rcases readPair_eq_ok_iff.1 hread with ⟨d', e', hkey', hcolon', hvalue⟩
  rw [hkey, Except.ok.injEq, Prod.mk.injEq] at hkey'
  rcases hkey' with ⟨hsame, rfl⟩
  rw [hcolon, Except.ok.injEq] at hcolon'
  subst hcolon'
  rcases h hrest he hvalue with ⟨hc', ha⟩
  exact ⟨hc', hsame.symm, ha⟩

/-- Pieces that are accepted are collected with what they stand for, the last one first. -/
theorem collect_of_pieces {test : Char → Prop} {front : β → List Char → List Char}
    {kind : β → α → Prop} {more : Bool → Cursor → Except Failure (Bool × Cursor)} {close : Char}
    {cause : Cause} (hmore : Separates more close test) {bs : List β}
    (h : ∀ b ∈ bs, Begins test (front b) ∧ Accepts r (front b) (kind b)) {fuel : Nat}
    {first : Bool} {collected as : List α} {c c' : Cursor} {rest : List Char}
    (hrest : Stops (close :: rest)) (hc : c.rest = pieces front first bs (close :: rest))
    (hread : foldPieces more cause (fun as c => do
      let (a, c) ← r c
      return (a :: as, c)) fuel first collected c = .ok (as, c')) :
    ∃ own, as = own.reverse ++ collected ∧ List.Forall₂ kind bs own := by
  induction bs generalizing fuel first collected c with
  | nil =>
      cases fuel with
      | zero => simp [foldPieces, Failure.atNext] at hread
      | succ fuel =>
          simp only [foldPieces, hmore.ends hc, Except.ok.injEq, Prod.mk.injEq] at hread
          exact ⟨[], hread.1.symm, .nil⟩
  | cons b bs ih =>
      rcases List.forall_mem_cons.1 h with ⟨⟨hbegins, hpiece⟩, hlater⟩
      cases fuel with
      | zero => simp [foldPieces, Failure.atNext] at hread
      | succ fuel =>
          rcases hmore.finds hbegins hc with ⟨d, hfound, hd⟩
          simp only [foldPieces, hfound] at hread
          split at hread
          · contradiction
          · rename_i collected' e hfirst
            rcases return_eq_ok hfirst with ⟨a, hvalue, rfl⟩
            rcases hpiece (stops_pieces hrest) hd hvalue with ⟨he, ha⟩
            rcases ih hlater he hread with ⟨own, rfl, hown⟩
            exact ⟨a :: own, by simp, .cons ha hown⟩

end Accepts

/-! ## Written objects -/

/-- Whether a member has the same name as another one, and the same string if the other one has a
string. -/
def SameText (m m' : String × Value) : Prop :=
  m'.1 = m.1 ∧ ∀ s, m.2 = .string s → m'.2 = .string s

/-- Such members have the same names. -/
theorem map_fst_of_sameText {members members' : List (String × Value)}
    (h : List.Forall₂ SameText members members') : members'.map (·.1) = members.map (·.1) := by
  induction h with
  | nil => rfl
  | cons hfirst _ ih => rw [List.map_cons, List.map_cons, hfirst.1, ih]

/-- A written value that is read is the same string, if it is one. -/
theorem accepts_read (depth : Nat) (v : Value) :
    Accepts (Value.read depth) v.write fun w => ∀ s, v = .string s → w = .string s := by
  intro c c' rest w hrest hc hread
  refine ⟨((steppedOver_read depth).takesValue.accepts v hrest hc hread).1, ?_⟩
  rintro s rfl
  cases depth with
  | zero => simp [Value.read, Failure.atNext] at hread
  | succ depth =>
      have hyields := Value.yields_read (.string s) (depth + 1) (Nat.zero_lt_succ _)
        fun _ hn => absurd hn List.not_mem_nil
      rcases hyields hrest hc with ⟨d, hread', -⟩
      rw [hread, Except.ok.injEq, Prod.mk.injEq] at hread'
      exact hread'.1

/-- A written object that is read has the same names, and the same strings behind them. -/
theorem members_of_read {members : List (String × Value)} {depth : Nat} {c c' : Cursor}
    {rest : List Char} {w : Value} (hc : c.rest = (Value.object members).write rest)
    (hread : Value.read depth c = .ok (w, c')) :
    ∃ members', w = .object members' ∧ List.Forall₂ SameText members members' := by
  rw [Value.write_object] at hc
  have hdepth : 2 ≤ depth := by
    match depth with
    | 0 => simp [Value.read, Failure.atNext] at hread
    | 1 =>
        simp [Value.read, Cursor.skipSpace_eq_self hc (by decide), hc, nested,
          Failure.atNext] at hread
    | _ + 2 => omega
  rcases Nat.exists_eq_add_of_le' hdepth with ⟨depth, rfl⟩
  rw [Value.read_at_brace hc] at hread
  rcases inObject_eq_ok.1 hread with ⟨d, hbody, -⟩
  rcases return_eq_ok hbody with ⟨collected, hmembers, rfl⟩
  unfold readMembers at hmembers
  rw [foldMembers_eq_foldPieces] at hmembers
  have hpieces : ∀ m ∈ members, Begins (· = '"') (Value.writeMember m) ∧
      Accepts (readPair (Value.read (depth + 1))) (Value.writeMember m) (SameText m) :=
    fun m _ => ⟨Value.begins_writeMember m, (accepts_read (depth + 1) m.2).readPair m.1⟩
  have hbehind : c.advance.rest = pieces Value.writeMember true members ('\x7d' :: rest) := by
    simp [hc]
  rcases collect_of_pieces separates_hasMember hpieces (.inr (.inr rfl)) hbehind hmembers with
    ⟨own, rfl, hown⟩
  exact ⟨own, by simp, hown⟩

/-! ## Records -/

section Records

variable {δ : Type} {fields : List (Field δ)} {field : Field δ} {depth : Nat} {draft draft' : δ}
  {members : List (String × Value)} {name label : String}

/-- A member with the name of no field is stepped over. -/
theorem Field.passes_other (v : Value)
    (hnone : (fields.find? fun field => field.name == name) = none)
    (hmembers : Passes (· = '"') (readMember fields depth) Value.writeMember draft members
      draft') :
    Passes (· = '"') (readMember fields depth) Value.writeMember draft ((name, v) :: members)
      draft' := by
  refine .cons (Value.begins_writeMember _) (fun c rest hrest hc => ?_) hmembers
  rcases reads_key hc with ⟨d, e, hkey, hcolon, he⟩
  rcases yields_skipValue v hrest he with ⟨c', hskip, hc'⟩
  exact ⟨c', readMember_of_none hkey hnone hcolon hskip, hc'⟩

/-- A record is not read from an object that leaves out a required field. -/
theorem readRecord_ne_ok_of_missing
    (hmembers : Passes (· = '"') (Field.readMember fields (depth + 1)) Value.writeMember draft
      members draft')
    (hmissing : (fields.find? fun field => field.required && !field.given draft') = some field)
    {c c' : Cursor} {rest : List Char} {d : δ} (hc : c.rest = (Value.object members).write rest) :
    readRecord label fields draft (depth + 2) c ≠ .ok (d, c') := by
  intro hread
  rw [Value.write_object] at hc
  simp only [readRecord, Cursor.skipSpace_eq_self hc (by decide), hc, nested_succ] at hread
  rcases inObject_eq_ok.1 hread with ⟨e, hbody, -⟩
  have hbehind : c.advance.rest = pieces Value.writeMember true members ('\x7d' :: rest) := by
    simp [hc]
  rcases hmembers.readMembers ⟨rest, rfl⟩ hbehind with ⟨e', hread', -⟩
  rcases bind_eq_ok.1 hbody with ⟨result, hresult, hcomplete⟩
  rw [hread', Except.ok.injEq] at hresult
  subst hresult
  simp only [hmissing] at hcomplete
  contradiction

end Records

end Json
end Gatehouse
