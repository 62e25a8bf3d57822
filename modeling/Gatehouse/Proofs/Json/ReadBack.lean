import Gatehouse.Proofs.Json.Canonical
import Gatehouse.Proofs.Json.Numeral

/-!
# Values read back

The text of a value reads back as the value, as long as fewer containers stand inside each
other than a reading allows and every number is a whole one.  A container is read piece by
piece, so that it reads back if its pieces do.

Main results:

- Theorems {lit}`Passes.readItems` and {lit}`Passes.readMembers`: what stands in a container reads
  back piece by piece.
- Theorem {lit}`Value.yields_read`: values read back.
-/

namespace Gatehouse
namespace Json

/-! ## Pieces -/

/-- Whether what is written begins with a character that passes the test, whatever follows. -/
def Begins (test : Char → Prop) (front : List Char → List Char) : Prop :=
  ∃ ch own, test ch ∧ ∀ rest, front rest = ch :: (own ++ rest)

/-- The text of pieces, each after a comma but the first one. -/
def pieces {β : Type} (front : β → List Char → List Char) : Bool → List β → List Char → List Char
  | _, [], rest => rest
  | true, b :: bs, rest => front b (pieces front false bs rest)
  | false, b :: bs, rest => ',' :: front b (pieces front false bs rest)

/-- How a reader of a container looks for further pieces, which begin with certain
characters. -/
structure Separates (more : Bool → Cursor → Except Failure (Bool × Cursor)) (close : Char)
    (test : Char → Prop) : Prop where
  ends {first : Bool} {c : Cursor} {rest : List Char} (h : c.rest = close :: rest) :
    more first c = .ok (false, c)
  begins {c : Cursor} {ch : Char} {rest : List Char} (h : c.rest = ch :: rest) (hch : test ch) :
    more true c = .ok (true, c)
  goesOn {c : Cursor} {ch : Char} {rest : List Char} (h : c.rest = ',' :: ch :: rest)
    (hch : test ch) : more false c = .ok (true, c.advance)

/-- Whether a reader of pieces, one after the other, comes from a state to another one with
these pieces. -/
inductive Passes {α β : Type} (test : Char → Prop) (piece : α → Reader α)
    (front : β → List Char → List Char) : α → List β → α → Prop where
  | nil (a : α) : Passes test piece front a [] a
  | cons {a a' a'' : α} {b : β} {bs : List β} (hbegins : Begins test (front b))
      (hpiece : Yields Stops (piece a) (front b) a') (hrest : Passes test piece front a' bs a'') :
      Passes test piece front a (b :: bs) a''

section Pieces

variable {α β : Type} {test : Char → Prop} {piece : α → Reader α}
  {front : β → List Char → List Char} {a a' : α} {b : β} {bs : List β}
  {more : Bool → Cursor → Except Failure (Bool × Cursor)} {close : Char} {cause : Cause}

/-- Behind a piece stands a comma or the end of the container. -/
theorem stops_pieces {rest : List Char} (hrest : Stops rest) :
    Stops (pieces front false bs rest) := by
  cases bs with
  | nil => exact hrest
  | cons b bs => exact .inl rfl

/-- Each piece takes one character at least. -/
theorem Passes.length_le (h : Passes test piece front a bs a') (first : Bool) (rest : List Char) :
    bs.length ≤ (pieces front first bs rest).length := by
  induction h generalizing first with
  | nil => exact Nat.zero_le _
  | @cons a a' a'' b bs hbegins hpiece hrest ih =>
      rcases hbegins with ⟨ch, own, -, hfront⟩
      have hlater := ih false
      cases first <;> simp only [pieces, hfront, List.length_cons, List.length_append] <;> omega

/-- Where a piece is written a reader of the container finds it. -/
theorem Separates.finds (hmore : Separates more close test) (hbegins : Begins test (front b))
    {first : Bool} {c : Cursor} {rest : List Char}
    (hc : c.rest = pieces front first (b :: bs) rest) :
    ∃ c', more first c = .ok (true, c') ∧ c'.rest = front b (pieces front false bs rest) := by
  rcases hbegins with ⟨ch, own, hch, hfront⟩
  cases first with
  | true =>
      exact ⟨c, hmore.begins (hc.trans (hfront _)) hch, hc⟩
  | false =>
      have hcomma := hc.trans (congrArg (List.cons ',') (hfront (pieces front false bs rest)))
      exact ⟨c.advance, hmore.goesOn hcomma hch, by rw [Cursor.advance_rest, hc]; rfl⟩

/-- Pieces read back one after the other. -/
theorem Passes.foldPieces (h : Passes test piece front a bs a')
    (hmore : Separates more close test) {fuel : Nat} (hfuel : bs.length < fuel) (first : Bool)
    {c : Cursor} {rest : List Char} (hrest : Stops (close :: rest))
    (hc : c.rest = pieces front first bs (close :: rest)) :
    ∃ c', foldPieces more cause piece fuel first a c = .ok (a', c') ∧ c'.rest = close :: rest := by
  induction h generalizing fuel first c with
  | nil a =>
      rcases Nat.exists_eq_succ_of_ne_zero (Nat.ne_of_gt hfuel) with ⟨fuel, rfl⟩
      exact ⟨c, by simp only [Json.foldPieces, hmore.ends hc], hc⟩
  | @cons a a' a'' b bs hbegins hpiece _ ih =>
      rcases Nat.exists_eq_succ_of_ne_zero (Nat.ne_of_gt (Nat.zero_lt_of_lt hfuel)) with
        ⟨fuel, rfl⟩
      rcases hmore.finds hbegins hc with ⟨d, hfound, hd⟩
      rcases hpiece (stops_pieces hrest) hd with ⟨e, hread, he⟩
      rcases ih (Nat.lt_of_succ_lt_succ hfuel) false he with ⟨c', hlater, hc'⟩
      exact ⟨c', by simp only [Json.foldPieces, hfound, hread, hlater], hc'⟩

end Pieces

/-- An item of a list begins with no blank and does not end the list. -/
def StartsItem (ch : Char) : Prop := Cursor.isSpace ch = false ∧ ch ≠ ']'

instance (ch : Char) : Decidable (StartsItem ch) :=
  inferInstanceAs (Decidable (Cursor.isSpace ch = false ∧ ch ≠ ']'))

/-- Behind a comma in a list stands a further item. -/
theorem hasItem_comma {c : Cursor} {rest : List Char} (h : c.rest = ',' :: rest) :
    hasItem false c =
      match c.advance.skipSpace.rest with
      | [] => Failure.atNext .endInValue c.advance.skipSpace
      | ']' :: _ => Failure.atNext .trailingComma c.advance.skipSpace
      | _ :: _ => .ok (true, c.advance.skipSpace) := by
  simp only [hasItem, Cursor.skipSpace_eq_self h (by decide), h]
  rfl

theorem separates_hasItem : Separates hasItem ']' StartsItem where
  ends {first c rest} h := by
    simp only [hasItem, Cursor.skipSpace_eq_self h (by decide), h]
  begins {c ch rest} h hch := by
    unfold hasItem
    rw [Cursor.skipSpace_eq_self h hch.1]
    simp only [h]
    split
    · rename_i hnil
      cases hnil
    · rename_i hend
      exact absurd (List.cons.inj hend).1 hch.2
    · rfl
  goesOn {c ch rest} h hch := by
    have hbehind : c.advance.rest = ch :: rest := by simp [h]
    rw [hasItem_comma h, Cursor.skipSpace_eq_self hbehind hch.1, hbehind]
    split
    · rename_i hnil
      cases hnil
    · rename_i hend
      exact absurd (List.cons.inj hend).1 hch.2
    · rfl

theorem separates_hasMember : Separates hasMember '\x7d' (· = '"') where
  ends {first c rest} h := by
    simp only [hasMember, Cursor.skipSpace_eq_self h (by decide), h]
  begins {c ch rest} h hch := by
    subst hch
    simp only [hasMember, Cursor.skipSpace_eq_self h (by decide), h]
    rfl
  goesOn {c ch rest} h hch := by
    subst hch
    have hbehind : c.advance.rest = '"' :: rest := by simp [h]
    simp only [hasMember, Cursor.skipSpace_eq_self h (by decide), h,
      Cursor.skipSpace_eq_self hbehind (by decide), hbehind]
    rfl

/-! ## Containers -/

/-- Whether a text begins with a character. -/
def Before (close : Char) (rest : List Char) : Prop := ∃ more, rest = close :: more

section Containers

variable {α β : Type} {item : α → Reader α} {front : β → List Char → List Char} {a a' : α}
  {bs : List β} {body : Reader α} {inside : List Char → List Char}

/-- The items of a list read back. -/
theorem Passes.readItems (h : Passes StartsItem item front a bs a') :
    Yields (Before ']') (readItems item a) (pieces front true bs) a' := by
  rintro c _ ⟨rest, rfl⟩ hc
  have hfuel : bs.length < c.rest.length + 1 := by
    rw [hc]
    exact Nat.lt_succ_of_le (h.length_le true _)
  unfold Json.readItems
  rw [foldItems_eq_foldPieces]
  exact h.foldPieces separates_hasItem hfuel true (.inr (.inl rfl)) hc

/-- The members of an object read back. -/
theorem Passes.readMembers (h : Passes (· = '"') item front a bs a') :
    Yields (Before '\x7d') (readMembers item a) (pieces front true bs) a' := by
  rintro c _ ⟨rest, rfl⟩ hc
  have hfuel : bs.length < c.rest.length + 1 := by
    rw [hc]
    exact Nat.lt_succ_of_le (h.length_le true _)
  unfold Json.readMembers
  rw [foldMembers_eq_foldPieces]
  exact h.foldPieces separates_hasMember hfuel true (.inr (.inr rfl)) hc

/-- A container is read where there may be one. -/
theorem nested_succ (depth : Nat) (container : Reader α) (c : Cursor) :
    nested (depth + 1) container c = container c :=
  rfl

/-- A list reads back if what stands between its brackets does. -/
theorem Yields.inList (h : Yields (Before ']') body inside a) :
    Yields anyText (inList body) (fun rest => '[' :: inside (']' :: rest)) a := by
  intro c rest _ hc
  rcases h (c := c.advance) ⟨rest, rfl⟩ (by simp [hc]) with ⟨d, hbody, hd⟩
  have hclose : closeList d = .ok d.advance := by
    simp only [closeList, Cursor.skipSpace_eq_self hd (by decide), hd]
  exact ⟨d.advance, inList_eq_ok.2 ⟨d, hbody, hclose⟩, by simp [hd]⟩

/-- An object reads back if what stands between its braces does. -/
theorem Yields.inObject (h : Yields (Before '\x7d') body inside a) :
    Yields anyText (inObject body) (fun rest => '\x7b' :: inside ('\x7d' :: rest)) a := by
  intro c rest _ hc
  rcases h (c := c.advance) ⟨rest, rfl⟩ (by simp [hc]) with ⟨d, hbody, hd⟩
  have hclose : closeObject d = .ok d.advance := by
    simp only [closeObject, Cursor.skipSpace_eq_self hd (by decide), hd]
  exact ⟨d.advance, inObject_eq_ok.2 ⟨d, hbody, hclose⟩, by simp [hd]⟩

/-- Pieces that read back are collected, the last one first. -/
theorem passes_collect {test : Char → Prop} {r : Reader β}
    (h : ∀ b ∈ bs, Begins test (front b) ∧ Yields Stops r (front b) b) (collected : List β) :
    Passes test (fun collected c => do
      let (b, c) ← r c
      return (b :: collected, c)) front collected bs (bs.reverse ++ collected) := by
  induction bs generalizing collected with
  | nil => exact .nil _
  | cons b bs ih =>
      rcases List.forall_mem_cons.1 h with ⟨⟨hbegins, hpiece⟩, hrest⟩
      rw [List.reverse_cons, List.append_assoc]
      exact .cons hbegins (hpiece.map (f := (· :: collected))) (ih hrest _)

/-- The key of a member reads back with the colon behind it. -/
theorem reads_key {key : String} {c : Cursor} {rest : List Char}
    (h : c.rest = writeString key (':' :: rest)) :
    ∃ d e, readQuoted c = .ok (key, d) ∧ readColon d = .ok e ∧ e.rest = rest := by
  rcases yields_readQuoted key trivial h with ⟨d, hkey, hd⟩
  have hcolon : readColon d = .ok d.advance := by
    simp only [readColon, Cursor.skipSpace_eq_self hd (by decide), hd]
  exact ⟨d, d.advance, hkey, hcolon, by simp [hd]⟩

/-- A key with a value reads back if the value does. -/
theorem Yields.readPair {r : Reader α} (key : String) (h : Yields Stops r inside a) :
    Yields Stops (readPair r) (fun rest => writeString key (':' :: inside rest)) (key, a) := by
  intro c rest hrest hc
  rcases reads_key hc with ⟨d, e, hkey, hcolon, he⟩
  rcases h hrest he with ⟨c', hvalue, hc'⟩
  exact ⟨c', readPair_eq_ok_iff.2 ⟨d, e, hkey, hcolon, hvalue⟩, hc'⟩

end Containers

/-! ## Values -/

/-- A number may be an item of a list. -/
theorem startsItem_of_numberStart {ch : Char} (h : ch = '-' ∨ ch.isDigit = true) :
    StartsItem ch := by
  constructor
  · rw [← Bool.not_eq_true]
    intro hspace
    simp only [Cursor.isSpace, Bool.or_eq_true, decide_eq_true_eq] at hspace
    rcases hspace with ((rfl | rfl) | rfl) | rfl <;> revert h <;> decide
  · rintro rfl
    revert h
    decide

namespace Value

/-- The text of a member of an object. -/
def writeMember (m : String × Value) (rest : List Char) : List Char :=
  writeString m.1 (':' :: m.2.write rest)

theorem write_array (items : List Value) (rest : List Char) :
    (Value.array items).write rest = '[' :: pieces Value.write true items (']' :: rest) := by
  have hitems : ∀ (items : List Value) (rest : List Char),
      writeItems items rest = pieces Value.write false items rest := by
    intro items rest
    induction items with
    | nil => rfl
    | cons item items ih => rw [writeItems, ih]; rfl
  cases items with
  | nil => rfl
  | cons item items => rw [write, hitems]; rfl

theorem write_object (members : List (String × Value)) (rest : List Char) :
    (Value.object members).write rest =
      '\x7b' :: pieces writeMember true members ('\x7d' :: rest) := by
  have hmembers : ∀ (members : List (String × Value)) (rest : List Char),
      writeMembers members rest = pieces writeMember false members rest := by
    intro members rest
    induction members with
    | nil => rfl
    | cons m members ih => rw [writeMembers, ih]; rfl
  cases members with
  | nil => rfl
  | cons m members => rw [write, hmembers]; rfl

/-- The text of a value begins with no blank and does not end a list. -/
theorem begins_write (v : Value) : Begins StartsItem v.write := by
  have hfirst : ∃ ch own, StartsItem ch ∧ v.write [] = ch :: own := by
    cases v with
    | null => exact ⟨_, _, by decide, rfl⟩
    | bool b => cases b <;> exact ⟨_, _, by decide, rfl⟩
    | number n =>
        rcases (isNumberText_chars n).eq_cons with ⟨ch, own, hch, hchars⟩
        exact ⟨ch, own, startsItem_of_numberStart hch, by rw [write, List.append_nil, hchars]⟩
    | string s => exact ⟨_, _, by decide, rfl⟩
    | array items => exact ⟨_, _, by decide, write_array items []⟩
    | object members => exact ⟨_, _, by decide, write_object members []⟩
  rcases hfirst with ⟨ch, own, hch, hwrite⟩
  refine ⟨ch, own, hch, fun rest => ?_⟩
  rw [← List.cons_append, ← hwrite, ← write_append, List.nil_append]

/-- The text of a member begins with a quote. -/
theorem begins_writeMember (m : String × Value) : Begins (· = '"') (writeMember m) := by
  refine ⟨'"', writeBody m.1.toList (':' :: m.2.write []), rfl, fun rest => ?_⟩
  rw [writeMember, writeString, ← writeBody_append, List.cons_append, ← write_append,
    List.nil_append]

/-- A number is read at its sign or first digit. -/
theorem read_at_number {d : Nat} {c : Cursor} {ch : Char} {rest : List Char}
    (h : c.rest = ch :: rest) (hfirst : ch = '-' ∨ ch.isDigit = true) :
    read (d + 1) c = (do
      let (n, c) ← readNumber c
      return (.number n, c)) := by
  have hspace : c.skipSpace = c :=
    Cursor.skipSpace_eq_self h (startsItem_of_numberStart hfirst).1
  have hplain := numberStart_plain hfirst
  simp [read, hspace, h, hplain, hfirst]

/-- A string is read at its quote. -/
theorem read_at_quote {d : Nat} {c : Cursor} {rest : List Char} (h : c.rest = '"' :: rest) :
    read (d + 1) c = (do
      let (s, c) ← readQuoted c
      return (.string s, c)) := by
  simp only [read, Cursor.skipSpace_eq_self h (by decide), h]

/-- A list is read at its bracket. -/
theorem read_at_bracket {d : Nat} {c : Cursor} {rest : List Char} (h : c.rest = '[' :: rest) :
    read (d + 2) c = inList (fun c => do
      let (items, c) ← readItems (fun items c => do
        let (item, c) ← read (d + 1) c
        return (item :: items, c)) [] c
      return (.array items.reverse, c)) c := by
  rw [read]
  simp only [Cursor.skipSpace_eq_self h (by decide), h]
  rfl

/-- An object is read at its brace. -/
theorem read_at_brace {d : Nat} {c : Cursor} {rest : List Char} (h : c.rest = '\x7b' :: rest) :
    read (d + 2) c = inObject (fun c => do
      let (members, c) ← readMembers (fun members c => do
        let (member, c) ← readPair (read (d + 1)) c
        return (member :: members, c)) [] c
      return (.object members.reverse, c)) c := by
  rw [read]
  simp only [Cursor.skipSpace_eq_self h (by decide), h]
  rfl

/-- A word that stands for a value reads back behind its first letter. -/
theorem readWord_behind (v : Value) (word : List Char) {rest : List Char} {ch : Char} {c : Cursor}
    (h : c.rest = ch :: (word ++ rest)) :
    ∃ c', (do
      let ((), c) ← readWord word c.advance
      return (v, c)) = (.ok (v, c') : Except Failure (Value × Cursor)) ∧ c'.rest = rest := by
  have hbehind : c.advance.rest = word ++ rest := by simp [h]
  rcases yields_readWord word trivial hbehind with ⟨c', hread, hc'⟩
  exact ⟨c', bind_eq_ok.2 ⟨((), c'), hread, rfl⟩, hc'⟩

/-- Values read back where fewer containers stand inside each other than are allowed and all
numbers are whole. -/
theorem yields_read (v : Value) (d : Nat) (hdepth : v.depth < d)
    (hnumbers : ∀ n ∈ v.numbers, n.Fits ∧ n.IsWhole) : Yields Stops (read d) v.write v := by
  induction v using induction generalizing d with
  | null =>
      rcases Nat.exists_eq_succ_of_ne_zero (Nat.ne_of_gt hdepth) with ⟨d, rfl⟩
      intro c rest _ hc
      simp only [read, Cursor.skipSpace_eq_self hc (by decide), hc]
      exact readWord_behind .null ['u', 'l', 'l'] hc
  | bool b =>
      rcases Nat.exists_eq_succ_of_ne_zero (Nat.ne_of_gt hdepth) with ⟨d, rfl⟩
      intro c rest _ hc
      cases b
      · simp only [read, Cursor.skipSpace_eq_self hc (by decide), hc]
        exact readWord_behind (.bool false) ['a', 'l', 's', 'e'] hc
      · simp only [read, Cursor.skipSpace_eq_self hc (by decide), hc]
        exact readWord_behind (.bool true) ['r', 'u', 'e'] hc
  | number n =>
      rcases Nat.exists_eq_succ_of_ne_zero (Nat.ne_of_gt hdepth) with ⟨d, rfl⟩
      rcases hnumbers n (List.mem_singleton_self n) with ⟨hfits, hwhole⟩
      rcases (isNumberText_chars n).eq_cons with ⟨ch, own, hch, hchars⟩
      intro c rest hrest hc
      have hfirst : c.rest = ch :: (own ++ rest) := by rw [hc, write, hchars]; rfl
      rw [read_at_number hfirst hch]
      exact (yields_readNumber hfits hwhole).map (f := Value.number) hrest hc
  | string s =>
      rcases Nat.exists_eq_succ_of_ne_zero (Nat.ne_of_gt hdepth) with ⟨d, rfl⟩
      intro c rest _ hc
      rw [read_at_quote hc]
      exact (yields_readQuoted s).map (f := Value.string) trivial hc
  | array items ih =>
      rcases Nat.exists_eq_add_of_le' (show 2 ≤ d by rw [depth] at hdepth; omega) with ⟨d, rfl⟩
      have hitems : ∀ item ∈ items, Begins StartsItem item.write ∧
          Yields Stops (read (d + 1)) item.write item := by
        intro item hitem
        have hown : ∀ n ∈ item.numbers, n.Fits ∧ n.IsWhole := fun n hn =>
          hnumbers n (mem_numbers_array.2 ⟨item, hitem, hn⟩)
        exact ⟨begins_write item, ih item hitem _ (depth_array_lt_iff.1 hdepth item hitem) hown⟩
      have hread := ((passes_collect hitems []).readItems.map
        (f := fun items => Value.array items.reverse)).inList
      rw [List.append_nil, List.reverse_reverse] at hread
      intro c rest _ hc
      rw [write_array] at hc
      rw [read_at_bracket hc]
      exact hread trivial hc
  | object members ih =>
      rcases Nat.exists_eq_add_of_le' (show 2 ≤ d by rw [depth] at hdepth; omega) with ⟨d, rfl⟩
      have hmembers : ∀ m ∈ members, Begins (· = '"') (writeMember m) ∧
          Yields Stops (readPair (read (d + 1))) (writeMember m) m := by
        intro m hm
        have hown : ∀ n ∈ m.2.numbers, n.Fits ∧ n.IsWhole := fun n hn =>
          hnumbers n (mem_numbers_object.2 ⟨m, hm, hn⟩)
        exact ⟨begins_writeMember m,
          (ih m hm _ (depth_object_lt_iff.1 hdepth m hm) hown).readPair m.1⟩
      have hread := ((passes_collect hmembers []).readMembers.map
        (f := fun members => Value.object members.reverse)).inObject
      rw [List.append_nil, List.reverse_reverse] at hread
      intro c rest _ hc
      rw [write_object] at hc
      rw [read_at_brace hc]
      exact hread trivial hc

end Value

end Json
end Gatehouse
