import Gatehouse.Proofs.Json.Members
import Gatehouse.Proofs.Json.ReadBack

/-!
# Typed readings and free-form ones

A text can be read as a value of a certain type or as a value of any kind.  What the first
reading accepts the second one accepts as well, to the same end, and with a value of the form
that stands for the typed one.  The other way round a list that is read as a value of any kind
is read with its type if its items are.

Main results:

- Theorem {lit}`standsFor_readText`, theorem {lit}`standsFor_readList` and theorem
  {lit}`standsFor_readMap`: strings, lists and maps are values of a certain form.
- Theorem {lit}`readList_of_read`: a value is a list if its items are of the type of the list.
-/

namespace Gatehouse
namespace Json

/-- What is made of what a whole text holds. -/
theorem run_map {α β : Type} (f : α → β) (r : Reader α) (text : List Char) :
    Reader.run (fun c => do
      let (a, c) ← r c
      return (f a, c)) text = (r.run text).map f := by
  unfold Reader.run
  dsimp only
  cases r (Cursor.start text) with
  | error failure => rfl
  | ok result =>
      rcases result with ⟨a, c⟩
      simp only [bind, Except.bind, pure, Except.pure]
      cases readEnd c <;> rfl

/-- The text of a value whose containers stand inside each other no further than a reading allows
and whose numbers are whole holds the value in canonical form. -/
theorem parse_text {v : Value} (hdepth : v.depth < nestingLimit)
    (hnumbers : ∀ n ∈ v.numbers, n.Fits ∧ n.IsWhole) : parse v.text.toList = .ok v.canonical := by
  have hstart : (Cursor.start v.text.toList).rest = v.write [] := by
    rw [Value.text, String.toList_ofList]
    rfl
  have hstops : Stops [] := trivial
  rcases Value.yields_read v nestingLimit hdepth hnumbers hstops hstart with ⟨c, hread, hc⟩
  rw [parse, run_eq_ok_iff.2 ⟨c, hread, readEnd_of_nil hc⟩]
  rfl

/-- Blanks in front of a value are read with it. -/
theorem Value.read_skipSpace (depth : Nat) (c : Cursor) :
    Value.read (depth + 1) c.skipSpace = Value.read (depth + 1) c := by
  simp only [Value.read, Cursor.skipSpace_idem]

/-- A number that is a natural number of 64 bits. -/
theorem eq_natural_of_toWord {n : Number} {word : Word} (h : n.toWord = .ok word) :
    n = .natural word.val := by
  cases n with
  | natural m =>
      simp only [Number.toWord] at h
      split at h
      · rw [← Except.ok.inj h]
      · exact nomatch h
  | negative m => exact nomatch h
  | double x => exact nomatch h

/-- A value that stands as an object is read member by member. -/
theorem Value.members_of_read {depth : Nat} {c c' : Cursor} {rest : List Char} {v : Value}
    (hrest : c.skipSpace.rest = '\x7b' :: rest) (h : Value.read (depth + 1) c = .ok (v, c')) :
    ∃ members, v = .object members.reverse ∧
      inObject (readMembers (fun members c => do
        let (member, c) ← readPair (Value.read depth) c
        return (member :: members, c)) []) c.skipSpace = .ok (members, c') := by
  simp only [Value.read, hrest] at h
  rcases inObject_eq_ok.1 (nested_eq_ok h) with ⟨d, hbody, hclose⟩
  rcases return_eq_ok hbody with ⟨members, hmembers, rfl⟩
  exact ⟨members, rfl, inObject_eq_ok.2 ⟨d, hmembers, hclose⟩⟩

/-! ## From typed readings to free-form ones -/

/-- Whether a reading of any kind of values leads on wherever a typed one does, and gives the
value that stands for the typed one. -/
def StandsFor {α β : Type} (value : α → β) (r : Reader α) (r' : Reader β) : Prop :=
  ∀ bound, Leads bound (fun a b => b = value a) r r'

section StandsFor

variable {α β γ : Type} {depth : Nat} {value : α → β} {kind : α → Value} {r : Reader α}
  {r' : Reader β}

/-- What stands for a typed value is read where the typed value is. -/
theorem StandsFor.read (h : StandsFor value r r') {c c' : Cursor} {a : α}
    (hread : r c = .ok (a, c')) : r' c = .ok (value a, c') := by
  rcases h c.rest.length (Nat.le_refl _) hread with ⟨-, b, hled, rfl⟩
  exact hled

/-- A whole text that holds a typed value holds what stands for it. -/
theorem StandsFor.run (h : StandsFor value r r') {text : List Char} {a : α}
    (hread : r.run text = .ok a) : r'.run text = .ok (value a) := by
  rcases run_eq_ok_iff.1 hread with ⟨c, hvalue, hend⟩
  exact run_eq_ok_iff.2 ⟨c, h.read hvalue, hend⟩

/-- What stands for a typed value is the value that is read in its place. -/
theorem StandsFor.agree (h : StandsFor value r r') : Agree (fun a b => b = value a) r r' := by
  intro c c₁ c₂ a b hread hread'
  rw [h.read hread, Except.ok.injEq, Prod.mk.injEq] at hread'
  exact ⟨hread'.2, hread'.1.symm⟩

/-- A value stands for a typed one if it is read wherever the typed one is. -/
theorem standsFor_of_read
    (h : ∀ {c c' a}, r c = .ok (a, c') → Value.read (depth + 1) c = .ok (kind a, c')) :
    StandsFor kind r (Value.read (depth + 1)) := by
  intro bound c c' a hbound hread
  rcases (steppedOver_read _).leads bound hbound (h hread) with ⟨hlength, -⟩
  exact ⟨hlength, kind a, h hread, rfl⟩

/-- A string that is asked for is a value. -/
theorem standsFor_readText (expected : String) (depth : Nat) :
    StandsFor Value.string (readText expected) (Value.read (depth + 1)) := by
  intro bound c c' s hbound hread
  simp only [readText] at hread
  split at hread
  · simp [Failure.atNext] at hread
  · rename_i rest hrest
    refine ⟨(skipQuoted_behind_space hread).1, .string s, ?_, rfl⟩
    simp only [Value.read, hrest]
    exact bind_eq_ok.2 ⟨(s, c'), hread, rfl⟩
  · exact absurd hread refuseKind_ne_ok

/-- The value that stands for a natural number of 64 bits. -/
def wordValue (word : Word) : Value := .number (.natural word.val)

/-- A natural number that is asked for is a value. -/
theorem standsFor_readWord64 (depth : Nat) :
    StandsFor wordValue readWord64 (Value.read (depth + 1)) := by
  refine standsFor_of_read fun {c c' word} hread => ?_
  simp only [readWord64] at hread
  split at hread
  · simp [Failure.atNext] at hread
  · rename_i ch rest hrest
    split at hread
    · rename_i hfirst
      rcases bind_eq_ok.1 hread with ⟨⟨n, d⟩, hnumber, hword⟩
      simp only at hword
      split at hword
      · rename_i word' hn
        rw [Except.ok.injEq, Prod.mk.injEq] at hword
        rcases hword with ⟨rfl, rfl⟩
        rw [← Value.read_skipSpace, Value.read_at_number hrest hfirst]
        refine bind_eq_ok.2 ⟨(n, d), hnumber, ?_⟩
        rw [eq_natural_of_toWord hn]
        rfl
      · simp [Failure.atHere] at hword
    · exact absurd hread refuseKind_ne_ok

/-- The value that stands for a typed one, or null for none. -/
def orNull (kind : α → Value) (a : Option α) : Value := (a.map kind).getD .null

/-- A value that may be null stands for an optional one. -/
theorem StandsFor.readOptional (h : StandsFor kind r (Value.read (depth + 1))) :
    StandsFor (orNull kind) (readOptional r) (Value.read (depth + 1)) := by
  refine standsFor_of_read fun {c c' a} hread => ?_
  simp only [Json.readOptional] at hread
  split at hread
  · rename_i rest hrest
    rcases return_eq_ok hread with ⟨_, hword, rfl⟩
    simp only [Value.read, hrest]
    exact bind_eq_ok.2 ⟨((), c'), hword, rfl⟩
  · rcases return_eq_ok hread with ⟨a, hvalue, rfl⟩
    rw [← Value.read_skipSpace]
    exact h.read hvalue

/-- A key with a value stands for one with a typed value. -/
theorem StandsFor.readPair (h : StandsFor value r r') :
    StandsFor (fun m => (m.1, value m.2)) (readPair r) (readPair r') := by
  intro bound
  have hkey : Leads bound Eq readQuoted readQuoted := by
    intro c c' key hbound hread
    exact ⟨(leads_readQuoted bound hbound hread).1, key, hread, rfl⟩
  refine Leads.behindKey (v := fun key c => do
    let (a, c) ← r c
    return ((key, a), c)) (w := fun key c => do
    let (b, c) ← r' c
    return ((key, b), c)) hkey ?_
  rintro key _ rfl
  refine ((h bound).mapLeft (S := fun m b => (m.1, value m.2) = (key, b))
    (f := fun a => (key, a)) ?_).mapRight ?_
  · rintro a _ rfl
    rfl
  · rintro m b hvalues
    exact hvalues.symm

/-- Collected pieces stand for collected typed ones. -/
theorem StandsFor.collect (h : StandsFor value r r') (bound : Nat) (as : List α) (bs : List β)
    (hcollected : bs = as.map value) :
    Leads bound (fun as bs => bs = as.map value)
      (fun c => do
        let (a, c) ← r c
        return (a :: as, c))
      (fun c => do
        let (b, c) ← r' c
        return (b :: bs, c)) := by
  subst hcollected
  refine ((h bound).mapLeft (S := fun as' b => as'.map value = b :: as.map value)
    (f := (· :: as)) ?_).mapRight (g := (· :: as.map value)) ?_
  · rintro a _ rfl
    rfl
  · rintro as' b hvalues
    exact hvalues.symm

/-- Collected values in their order stand for the typed ones. -/
theorem StandsFor.reversed (make : List β → γ) {as : Reader (List α)} {bs : Reader (List β)}
    {bound : Nat} (h : Leads bound (fun as bs => bs = as.map value) as bs) :
    Leads bound (fun as b => b = make (as.map value))
      (fun c => do
        let (as, c) ← as c
        return (as.reverse, c))
      (fun c => do
        let (bs, c) ← bs c
        return (make bs.reverse, c)) := by
  refine (h.mapLeft (S := fun as bs => bs.reverse = as.map value) (f := List.reverse) ?_).mapRight
    (g := fun bs => make bs.reverse) ?_
  · rintro as _ rfl
    exact List.map_reverse.symm
  · rintro as bs hvalues
    exact congrArg make hvalues

/-- A list of what stands for typed values stands for a list of these. -/
theorem standsFor_readList {item : Nat → Reader α}
    (hitem : StandsFor kind (item depth) (Value.read depth)) :
    StandsFor (fun as => Value.array (as.map kind)) (readList item (depth + 1))
      (Value.read (depth + 1)) := by
  intro bound c c' as hbound hread
  have hspace := c.skipSpace_length_le
  simp only [readList] at hread
  split at hread
  · simp [Failure.atNext] at hread
  · rename_i rest hrest
    have hbody := StandsFor.reversed Value.array
      (Leads.readItems (hitem.collect bound) (a := []) rfl)
    have hlist := hbody.inList (Nat.le_succ_of_le (Nat.le_trans hspace hbound))
      (nested_eq_ok hread)
    rcases hlist with ⟨hlength, v, hled, hvalue⟩
    refine ⟨Nat.le_trans hlength hspace, v, ?_, hvalue⟩
    cases depth with
    | zero => simp [nested, Failure.atNext] at hread
    | succ depth =>
        simp only [Value.read, hrest]
        exact hled
  · exact absurd hread refuseKind_ne_ok

/-- A map of what stands for typed values stands for a map of these. -/
theorem standsFor_readMap {member : Nat → Reader α}
    (hmember : StandsFor kind (member depth) (Value.read depth)) :
    StandsFor (fun ms => Value.object (ms.map fun m => (m.1, kind m.2)))
      (readMap member (depth + 1)) (Value.read (depth + 1)) := by
  intro bound c c' ms hbound hread
  have hspace := c.skipSpace_length_le
  simp only [readMap] at hread
  split at hread
  · simp [Failure.atNext] at hread
  · rename_i rest hrest
    have hbody := StandsFor.reversed Value.object
      (Leads.readMembers (hmember.readPair.collect bound) (a := []) rfl)
    have hobject := hbody.inObject (Nat.le_succ_of_le (Nat.le_trans hspace hbound))
      (nested_eq_ok hread)
    rcases hobject with ⟨hlength, v, hled, hvalue⟩
    refine ⟨Nat.le_trans hlength hspace, v, ?_, hvalue⟩
    cases depth with
    | zero => simp [nested, Failure.atNext] at hread
    | succ depth =>
        rw [Value.read]
        simp only [hrest]
        exact hled
  · exact absurd hread refuseKind_ne_ok

end StandsFor

/-! ## From free-form readings to typed ones -/

/-- Reads the items of a list of values, the last one first. -/
def collectItems {α : Type} (item : Reader α) : Reader (List α) :=
  readItems (fun items c => do
    let (a, c) ← item c
    return (a :: items, c)) []

/-- How strings and lists are read as values, by what stands at their place. -/
inductive ReadAs (depth : Nat) (c c' : Cursor) : Value → Prop where
  | string {rest : List Char} {s : String} (hrest : c.skipSpace.rest = '"' :: rest)
      (hquoted : readQuoted c.skipSpace = .ok (s, c')) : ReadAs depth c c' (.string s)
  | list {rest : List Char} {collected : List Value} (hrest : c.skipSpace.rest = '[' :: rest)
      (hdepth : depth ≠ 0) {d : Cursor}
      (hitems : collectItems (Value.read depth) c.skipSpace.advance = .ok (collected, d))
      (hclose : closeList d = .ok c') : ReadAs depth c c' (.array collected.reverse)
  | other {v : Value} (hstring : ∀ s, v ≠ .string s) (hlist : ∀ items, v ≠ .array items) :
      ReadAs depth c c' v

/-- A value is read in one of these ways. -/
theorem readAs_of_read {depth : Nat} {c c' : Cursor} {v : Value}
    (h : Value.read (depth + 1) c = .ok (v, c')) : ReadAs depth c c' v := by
  simp only [Value.read] at h
  split at h
  case h_1 => simp [Failure.atNext] at h
  case h_2 | h_3 | h_4 =>
    rcases return_eq_ok h with ⟨_, -, rfl⟩
    exact .other (by simp) (by simp)
  case h_5 rest hrest =>
    rcases return_eq_ok h with ⟨s, hquoted, rfl⟩
    exact .string hrest hquoted
  case h_6 rest hrest =>
    have hdepth : depth ≠ 0 := by
      rintro rfl
      simp [nested, Failure.atNext] at h
    rcases inList_eq_ok.1 (nested_eq_ok h) with ⟨d, hbody, hclose⟩
    rcases return_eq_ok hbody with ⟨collected, hitems, rfl⟩
    exact .list hrest hdepth hitems hclose
  case h_7 =>
    rcases inObject_eq_ok.1 (nested_eq_ok h) with ⟨d, hbody, -⟩
    rcases return_eq_ok hbody with ⟨_, -, rfl⟩
    exact .other (by simp) (by simp)
  case h_8 =>
    split at h
    · rcases return_eq_ok h with ⟨_, -, rfl⟩
      exact .other (by simp) (by simp)
    · simp [Failure.atNext] at h

/-- A string that is read as a value is read where it is asked for. -/
theorem readText_of_read {depth : Nat} {c c' : Cursor} {s : String} (expected : String)
    (h : Value.read (depth + 1) c = .ok (.string s, c')) : readText expected c = .ok (s, c') := by
  generalize hvalue : Value.string s = v at h
  cases readAs_of_read h with
  | string hrest hquoted =>
      rw [Value.string.inj hvalue]
      simp only [readText, hrest]
      exact hquoted
  | list => contradiction
  | other hstring => exact absurd hvalue.symm (hstring s)

/-- A name of a choice that is read as a value is read as what it names. -/
theorem readChoice_of_read {α : Type} {ofName? : String → Option α} {names : List String}
    {depth : Nat} {c c' : Cursor} {name : String} {a : α} (hname : ofName? name = some a)
    (h : Value.read (depth + 1) c = .ok (.string name, c')) (limit : Nat) :
    readChoice limit ofName? names c = .ok (a, c') := by
  have htext := readText_of_read "variant identifier" h
  generalize hvalue : Value.string name = v at h
  cases readAs_of_read h with
  | string hrest hquoted =>
      have hsame : readText "variant identifier" c.skipSpace = .ok (name, c') := by
        simpa only [readText, Cursor.skipSpace_idem] using htext
      simp only [readChoice, hrest, readName]
      exact bind_eq_ok.2 ⟨(name, c'), hsame, by simp only [hname]⟩
  | list => contradiction
  | other hstring => exact absurd hvalue.symm (hstring name)

/-- What has been collected stays. -/
theorem suffix_of_foldPieces {α : Type} {more : Bool → Cursor → Except Failure (Bool × Cursor)}
    {cause : Cause} {item : Reader α} {fuel : Nat} {first : Bool} {as as' : List α}
    {c c' : Cursor}
    (h : foldPieces more cause (fun as c => do
      let (a, c) ← item c
      return (a :: as, c)) fuel first as c = .ok (as', c')) : as <:+ as' := by
  induction fuel generalizing first as c with
  | zero => simp [foldPieces, Failure.atNext] at h
  | succ fuel ih =>
      simp only [foldPieces] at h
      split at h
      · contradiction
      · rw [Except.ok.injEq, Prod.mk.injEq] at h
        exact h.1 ▸ List.suffix_rfl
      · split at h
        · contradiction
        · rename_i collected d hpiece
          rcases return_eq_ok hpiece with ⟨a, -, rfl⟩
          exact (List.suffix_cons a as).trans (ih h)

section Items

variable {α : Type} {depth : Nat} {kind : α → Value} {item : Reader α}

/-- Items that are collected as values are collected as what they stand for, if each of them is
read so. -/
theorem collect_of_read (hkind : Function.Injective kind)
    (hitem : ∀ {c c' a}, Value.read depth c = .ok (kind a, c') → item c = .ok (a, c'))
    {more : Bool → Cursor → Except Failure (Bool × Cursor)} {cause : Cause} {fuel : Nat}
    {first : Bool} (as : List α) {as' : List α} {c c' : Cursor}
    (h : foldPieces more cause (fun items c => do
      let (v, c) ← Value.read depth c
      return (v :: items, c)) fuel first (as.map kind) c = .ok (as'.map kind, c')) :
    foldPieces more cause (fun items c => do
      let (a, c) ← item c
      return (a :: items, c)) fuel first as c = .ok (as', c') := by
  induction fuel generalizing first as c with
  | zero => simp [foldPieces, Failure.atNext] at h
  | succ fuel ih =>
      simp only [foldPieces] at h ⊢
      cases hmore : more first c with
      | error failure => simp [hmore] at h
      | ok result =>
          rcases result with ⟨goesOn, d⟩
          cases goesOn with
          | false =>
              simp only [hmore, Except.ok.injEq, Prod.mk.injEq] at h
              rcases h with ⟨hsame, rfl⟩
              rw [(List.map_inj_right fun _ _ hab => hkind hab).1 hsame]
          | true =>
              simp only [hmore] at h
              split at h
              · contradiction
              · rename_i collected e hpiece
                rcases return_eq_ok hpiece with ⟨v, hread, rfl⟩
                -- what is collected is among the items at the end, which are all of the type
                have hmem : v ∈ as'.map kind := (suffix_of_foldPieces h).subset List.mem_cons_self
                rcases List.mem_map.1 hmem with ⟨a, -, rfl⟩
                simp only [hitem hread, bind, Except.bind, pure, Except.pure]
                exact ih _ h

/-- A value is a list if its items are of the type of the list. -/
theorem readList_of_read {item : Nat → Reader α} (hkind : Function.Injective kind)
    (hitem : ∀ {c c' a}, Value.read depth c = .ok (kind a, c') → item depth c = .ok (a, c'))
    {as : List α} {c c' : Cursor}
    (h : Value.read (depth + 1) c = .ok (.array (as.map kind), c')) :
    readList item (depth + 1) c = .ok (as, c') := by
  generalize hvalue : Value.array (as.map kind) = v at h
  cases readAs_of_read h with
  | string => contradiction
  | other _ hlist => exact absurd hvalue.symm (hlist _)
  | @list rest collected hrest hdepth d hitems hclose =>
      have hcollected : as.reverse.map kind = collected := by
        rw [List.map_reverse, Value.array.inj hvalue, List.reverse_reverse]
      subst hcollected
      have hread : collectItems (item depth) c.skipSpace.advance = .ok (as.reverse, d) := by
        unfold collectItems readItems at hitems ⊢
        rw [foldItems_eq_foldPieces] at hitems ⊢
        exact collect_of_read hkind hitem [] hitems
      rcases Nat.exists_eq_succ_of_ne_zero hdepth with ⟨depth, rfl⟩
      simp only [readList, hrest, nested_succ]
      refine inList_eq_ok.2 ⟨d, bind_eq_ok.2 ⟨(as.reverse, d), hread, ?_⟩, hclose⟩
      rw [List.reverse_reverse]
      rfl

end Items

end Json
end Gatehouse
