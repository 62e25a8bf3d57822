import Gatehouse.Json.Tagged
import Gatehouse.Proofs.Json.Members
import Gatehouse.Proofs.Json.ReadBack

/-!
# Typed values read back

A typed value is read straight from the text.  A record reads back from an object if its members
do, one after the other; so does a tagged message, whose members are values of any kind.

Main results:

- Theorem {lit}`Yields.run`: the text of a value holds what reads back from it.
- Theorem {lit}`yields_readRecord`: records read back member by member.
- Theorem {lit}`yields_readTagged`: the tag and the other members of a message read back.
-/

namespace Gatehouse
namespace Json

section Yields

variable {α : Type} {test : List Char → Prop} {r : Reader α} {a : α}
  {front : List Char → List Char}

/-- The text of a value holds what reads back from it. -/
theorem Yields.run {v : Value} (h : Yields anyText r v.write a) : r.run v.text.toList = .ok a := by
  rw [Value.text, String.toList_ofList]
  have hstart : (Cursor.start (v.write [])).rest = v.write [] := rfl
  rcases h trivial hstart with ⟨c, hread, hc⟩
  exact run_eq_ok_iff.2 ⟨c, hread, readEnd_of_nil hc⟩

/-! ## Scalars -/

/-- The text of a string begins with its quote. -/
theorem begins_writeString (s : String) : Begins (· = '"') (writeString s) :=
  ⟨'"', writeBody s.toList [], rfl, fun rest => by
    rw [writeString, ← writeBody_append, List.nil_append]⟩

theorem yields_readText (expected s : String) :
    Yields anyText (readText expected) (writeString s) s := by
  intro c rest htest hc
  have hquote : c.rest = '"' :: writeBody s.toList rest := hc
  have hread : readText expected c = readQuoted c := by
    simp only [readText, Cursor.skipSpace_eq_self hquote (by decide), hquote]
  rw [hread]
  exact yields_readQuoted s htest hc

/-- What begins with a quote reads back where there might be null instead. -/
theorem Yields.readOptional (h : Yields test r front a) (hbegins : Begins (· = '"') front) :
    Yields test (readOptional r) front (some a) := by
  rcases hbegins with ⟨ch, own, rfl, hfront⟩
  intro c rest hrest hc
  have hquote : c.rest = '"' :: (own ++ rest) := hc.trans (hfront rest)
  rcases h hrest hc with ⟨c', hread, hc'⟩
  refine ⟨c', ?_, hc'⟩
  simp only [Json.readOptional, Cursor.skipSpace_eq_self hquote (by decide), hquote]
  exact bind_eq_ok.2 ⟨(a, c'), hread, rfl⟩

/-- A natural number of 64 bits is one of a text. -/
theorem toWord_val (w : Word) : (Number.natural w.val).toWord = .ok w :=
  dif_pos w.isLt

theorem yields_readWord64 (w : Word) :
    Yields Stops readWord64 (Text.decimalList w.val ++ ·) w := by
  intro c rest hrest hc
  rcases decimalList_eq_cons w.val with ⟨ch, own, hcons, hdigit, -⟩
  have hfirst : c.rest = ch :: (own ++ rest) := by rw [hc, hcons]; rfl
  have hplain : Cursor.isSpace ch = false := (startsItem_of_numberStart (.inr hdigit)).1
  rcases yields_readNumber (n := .natural w.val) w.isLt trivial hrest hc with ⟨c', hread, hc'⟩
  refine ⟨c', ?_, hc'⟩
  simp only [readWord64, Cursor.skipSpace_eq_self hfirst hplain, hfirst, hdigit, or_true, if_true]
  exact bind_eq_ok.2 ⟨(_, c'), hread, by simp only [toWord_val]⟩

section Names

variable {ofName? : String → Option α} {names : List String} {name : String}

theorem yields_readName (hname : ofName? name = some a) :
    Yields anyText (readName ofName? names) (writeString name) a := by
  intro c rest htest hc
  rcases yields_readText "variant identifier" name htest hc with ⟨c', hread, hc'⟩
  exact ⟨c', bind_eq_ok.2 ⟨(name, c'), hread, by simp only [hname]⟩, hc'⟩

/-- A name that stands alone reads back as the one of the choice. -/
theorem yields_readChoice {depth : Nat} (hname : ofName? name = some a) :
    Yields anyText (readChoice depth ofName? names) (writeString name) a := by
  intro c rest htest hc
  have hquote : c.rest = '"' :: writeBody name.toList rest := hc
  have hread : readChoice depth ofName? names c = readName ofName? names c := by
    simp only [readChoice, Cursor.skipSpace_eq_self hquote (by decide), hquote]
  rw [hread]
  exact yields_readName hname htest hc

end Names

end Yields

/-! ## Records -/

section Records

variable {δ ρ : Type} {fields : List (Field δ)} {field : Field δ} {depth : Nat} {draft draft' : δ}
  {inside : List Char → List Char} {name label : String}

/-- A member reads back if its field does and has not been given before. -/
theorem Field.yields_readMember
    (hfield : (fields.find? fun field => field.name == name) = some field)
    (hgiven : field.given draft = false)
    (hvalue : Yields Stops (field.read depth draft) inside draft') :
    Yields Stops (readMember fields depth draft)
      (fun rest => writeString name (':' :: inside rest)) draft' := by
  intro c rest hrest hc
  rcases reads_key hc with ⟨d, e, hkey, hcolon, he⟩
  rw [readMember_of_some hkey hfield hgiven hcolon]
  exact hvalue hrest he

/-- Members read back one after the other if the first one is a field that reads back and the
others do. -/
theorem Field.passes_cons {v : Value} {draft'' : δ} {members : List (String × Value)}
    (hfield : (fields.find? fun field => field.name == name) = some field)
    (hgiven : field.given draft = false)
    (hvalue : Yields Stops (field.read depth draft) v.write draft')
    (hmembers : Passes (· = '"') (readMember fields depth) Value.writeMember draft' members
      draft'') :
    Passes (· = '"') (readMember fields depth) Value.writeMember draft ((name, v) :: members)
      draft'' :=
  .cons (Value.begins_writeMember _) (yields_readMember hfield hgiven hvalue) hmembers

/-- A record reads back from an object if its members do, one after the other, and no required
field is left out. -/
theorem yields_readRecord {members : List (String × Value)}
    (hmembers : Passes (· = '"') (Field.readMember fields (depth + 1)) Value.writeMember draft
      members draft')
    (hcomplete : (fields.find? fun field => field.required && !field.given draft') = none) :
    Yields anyText (readRecord label fields draft (depth + 2)) (Value.object members).write
      draft' := by
  intro c rest htest hc
  rw [Value.write_object] at hc
  simp only [readRecord, Cursor.skipSpace_eq_self hc (by decide), hc, nested_succ]
  refine Yields.inObject (fun d rest hrest hd => ?_) htest hc
  rcases hmembers.readMembers hrest hd with ⟨d', hread, hd'⟩
  exact ⟨d', bind_eq_ok.2 ⟨(draft', d'), hread, by simp only [hcomplete]⟩, hd'⟩

/-- A record reads back if its draft does and holds the record. -/
theorem Yields.finishRecord {test : List Char → Prop} {r : Reader δ} {finish : δ → Option ρ}
    {record : ρ} (h : Yields test r inside draft) (hfinish : finish draft = some record) :
    Yields test (finishRecord r finish) inside record := by
  intro c rest hrest hc
  rcases h hrest hc with ⟨c', hread, hc'⟩
  exact ⟨c', bind_eq_ok.2 ⟨(draft, c'), hread, by simp only [hfinish]⟩, hc'⟩

end Records

/-! ## Tagged messages -/

section Tagged

variable {τ : Type} {tag label name : String} {ofName? : String → Option τ} {names : List String}
  {t : τ} {depth : Nat} {members : List (String × Value)}

/-- The tag of a message reads back. -/
theorem yields_readTag (hname : ofName? name = some t) :
    Yields Stops (readTagOrMember tag (readName ofName? names) depth (none, []))
      (Value.writeMember (tag, .string name)) (some t, []) := by
  intro c rest _ hc
  rcases reads_key hc with ⟨d, e, hkey, hcolon, he⟩
  have hread : Yields anyText (readName ofName? names) (writeString name) t := yields_readName hname
  rcases hread trivial he with ⟨c', hread, hc'⟩
  refine ⟨c', ?_, hc'⟩
  refine bind_eq_ok.2 ⟨(tag, d), hkey, ?_⟩
  simp only [if_true]
  exact bind_eq_ok.2 ⟨e, hcolon, bind_eq_ok.2 ⟨(t, c'), hread, rfl⟩⟩

/-- Behind the tag of a message the other members are collected. -/
theorem passes_readTagOrMember {readTag : Reader τ}
    (h : ∀ m ∈ members, m.1 ≠ tag ∧ Yields Stops (Value.read depth) m.2.write m.2)
    (collected : List (String × Value)) :
    Passes (· = '"') (readTagOrMember tag readTag depth) Value.writeMember (some t, collected)
      members (some t, members.reverse ++ collected) := by
  induction members generalizing collected with
  | nil => exact .nil _
  | cons m members ih =>
      rcases List.forall_mem_cons.1 h with ⟨⟨hkey, hvalue⟩, hmore⟩
      have hpiece : Yields Stops (readTagOrMember tag readTag depth (some t, collected))
          (Value.writeMember m) (some t, m :: collected) := by
        intro c rest hrest hc
        rcases reads_key hc with ⟨d, e, hname, hcolon, he⟩
        rcases hvalue hrest he with ⟨c', hread, hc'⟩
        refine ⟨c', ?_, hc'⟩
        refine bind_eq_ok.2 ⟨(m.1, d), hname, ?_⟩
        simp only [if_neg hkey]
        exact bind_eq_ok.2 ⟨e, hcolon, bind_eq_ok.2 ⟨(m.2, c'), hread, rfl⟩⟩
      rw [List.reverse_cons, List.append_assoc]
      exact .cons (Value.begins_writeMember m) hpiece (ih hmore _)

/-- A message reads back from an object that begins with the tag, if no other member has the name
of the tag and the members read back as values. -/
theorem yields_readTagged (hname : ofName? name = some t) (hkeys : ∀ m ∈ members, m.1 ≠ tag)
    (hdepth : (Value.object members).depth < depth + 2)
    (hnumbers : ∀ n ∈ (Value.object members).numbers, n.Fits ∧ n.IsWhole) :
    Yields anyText (readTagged tag label ofName? names (depth + 2))
      (Value.object ((tag, .string name) :: members)).write (t, .map members) := by
  have hmembers : ∀ m ∈ members,
      m.1 ≠ tag ∧ Yields Stops (Value.read (depth + 1)) m.2.write m.2 := fun m hm =>
    ⟨hkeys m hm, Value.yields_read m.2 _ (Value.depth_object_lt_iff.1 hdepth m hm) fun n hn =>
      hnumbers n (Value.mem_numbers_object.2 ⟨m, hm, hn⟩)⟩
  have hpasses : Passes (· = '"')
      (readTagOrMember tag (readName ofName? names) (depth + 1)) Value.writeMember (none, [])
      ((tag, .string name) :: members) (some t, members.reverse ++ []) :=
    .cons (Value.begins_writeMember _) (yields_readTag hname)
      (passes_readTagOrMember hmembers [])
  intro c rest htest hc
  rw [Value.write_object] at hc
  simp only [readTagged, Cursor.skipSpace_eq_self hc (by decide), hc, nested_succ]
  refine Yields.inObject (fun d rest hrest hd => ?_) htest hc
  rcases hpasses.readMembers hrest hd with ⟨d', hread, hd'⟩
  rw [List.append_nil] at hread
  refine ⟨d', bind_eq_ok.2 ⟨(_, d'), hread, ?_⟩, hd'⟩
  simp only [List.reverse_reverse]
  rfl

/-- A message reads back if it is what a reader makes of its tag and its other members. -/
theorem run_readTagged {α : Type} {r : Reader α} {a : α} (hname : ofName? name = some t)
    (hkeys : ∀ m ∈ members, m.1 ≠ tag) (hdepth : (Value.object members).depth < depth + 2)
    (hnumbers : ∀ n ∈ (Value.object members).numbers, n.Fits ∧ n.IsWhole)
    (hmessage : ∀ c c', readTagged tag label ofName? names (depth + 2) c =
      .ok ((t, .map members), c') → r c = .ok (a, c')) :
    r.run (Value.object ((tag, .string name) :: members)).text.toList = .ok a := by
  have hread : Yields anyText r (Value.object ((tag, .string name) :: members)).write a := by
    intro c rest htest hc
    rcases yields_readTagged hname hkeys hdepth hnumbers htest hc with ⟨c', htagged, hc'⟩
    exact ⟨c', hmessage c c' htagged, hc'⟩
  exact hread.run

/-- The members of a message are taken one after the other if the first one is taken for its slot
and the others are. -/
theorem Content.fill_cons {δ : Type} {slots : List (Slot δ)} {slot : Slot δ} {v : Value}
    {draft draft'' : δ} (draft' : δ)
    (hslot : (slots.find? fun slot => slot.name == name) = some slot)
    (hgiven : slot.given draft = false) (htake : slot.take draft v = .ok draft')
    (hmembers : fill label slots draft' (.map members) = .ok draft'') :
    fill label slots draft (.map ((name, v) :: members)) = .ok draft'' := by
  simp only [fill, Slot.byName, hslot, hgiven, htake]
  exact hmembers

end Tagged

end Json
end Gatehouse
