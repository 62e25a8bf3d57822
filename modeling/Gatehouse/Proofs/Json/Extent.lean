import Gatehouse.Json.Record
import Gatehouse.Proofs.Json.Scalar

/-!
# Where values end

Readers of different kinds that both accept what stands at a place stop at the same place
behind it.  So two readings of one text go along with each other, member by member.

Main results:

- Theorem {lit}`Agree.readMembers`: two readings of the members of an object go along if
  those of each member do.
- Theorem {lit}`skipped_of_skipValueWith`: how a value is stepped over.
- Theorem {lit}`Field.agree_readMember`: two readings of a member go along if those of the
  value behind each key do.
-/

namespace Gatehouse
namespace Json

/-! ## Blanks -/

namespace Cursor

/-- Behind the blanks there is nothing more to skip. -/
theorem skipWhile_idem (test : Char → Bool) (rest : List Char) (line column : Nat) :
    skipWhile test (skipWhile test rest line column).rest (skipWhile test rest line column).line
      (skipWhile test rest line column).column = skipWhile test rest line column := by
  fun_induction skipWhile test rest line column with
  | case1 => rfl
  | case2 line column ch more htest line' column' hbehind ih => exact ih
  | case3 line column ch more htest =>
      simp only [skipWhile, htest]
      rfl

/-- Behind the blanks there are none. -/
@[simp] theorem skipSpace_idem (c : Cursor) : c.skipSpace.skipSpace = c.skipSpace :=
  skipWhile_idem isSpace c.rest c.line c.column

end Cursor

/-! ## Readings that go along -/

/-- Whether two readers that both accept what stands at a place stop at the same place, with
values in some relation. -/
def Agree {α β : Type} (R : α → β → Prop) (r : Reader α) (r' : Reader β) : Prop :=
  ∀ ⦃c c₁ c₂ : Cursor⦄ ⦃a : α⦄ ⦃b : β⦄,
    r c = .ok (a, c₁) → r' c = .ok (b, c₂) → c₁ = c₂ ∧ R a b

/-- Any two values. -/
def anyValues {α β : Type} : α → β → Prop := fun _ _ => True

/-- Going along has no direction. -/
theorem Agree.symm {α β : Type} {R : α → β → Prop} {r : Reader α} {r' : Reader β}
    (h : Agree R r r') : Agree (fun b a => R a b) r' r := by
  intro c c₁ c₂ b a hread hread'
  rcases h hread' hread with ⟨hsame, hvalues⟩
  exact ⟨hsame.symm, hvalues⟩

section Containers

variable {α β : Type} {R : α → β → Prop}

/-- What stands between brackets is read, and then the closing one. -/
theorem enclosed_eq_ok {x : Except Failure (α × Cursor)} {close : Cursor → Except Failure Cursor}
    {settle : Failure → Failure} {c' : Cursor} {a : α} :
    (match x with
      | .error failure => .error (settle failure)
      | .ok (a, d) =>
          match close d with
          | .error failure => .error failure
          | .ok d => .ok (a, d)) = (.ok (a, c') : Except Failure (α × Cursor)) ↔
      ∃ d, x = .ok (a, d) ∧ close d = .ok c' := by
  cases x with
  | error failure => simp
  | ok result =>
      rcases result with ⟨b, d⟩
      cases hclose : close d with
      | error failure =>
          simp only [hclose, Except.ok.injEq, Prod.mk.injEq]
          constructor
          · rintro ⟨⟩
          · rintro ⟨_, ⟨-, rfl⟩, hsame⟩
            rw [hclose] at hsame
            cases hsame
      | ok behind =>
          simp only [hclose, Except.ok.injEq, Prod.mk.injEq]
          constructor
          · rintro ⟨rfl, rfl⟩
            exact ⟨d, ⟨rfl, rfl⟩, hclose⟩
          · rintro ⟨_, ⟨rfl, rfl⟩, hsame⟩
            rw [hclose, Except.ok.injEq] at hsame
            exact ⟨rfl, hsame⟩

/-- A list is read from its opening bracket to its closing one. -/
theorem inList_eq_ok {body : Reader α} {c c' : Cursor} {a : α} :
    inList body c = .ok (a, c') ↔ ∃ d, body c.advance = .ok (a, d) ∧ closeList d = .ok c' :=
  enclosed_eq_ok

/-- An object is read from its opening brace to its closing one. -/
theorem inObject_eq_ok {body : Reader α} {c c' : Cursor} {a : α} :
    inObject body c = .ok (a, c') ↔
      ∃ d, body c.advance = .ok (a, d) ∧ closeObject d = .ok c' :=
  enclosed_eq_ok

/-- Two readings go along if what they make of the values keeps them in relation. -/
theorem Agree.mapLeft {γ : Type} {S : γ → β → Prop} {r : Reader α} {r' : Reader β} {f : α → γ}
    (h : Agree R r r') (hmake : ∀ a b, R a b → S (f a) b) :
    Agree S (fun c => do
      let (a, c) ← r c
      return (f a, c)) r' := by
  intro c c₁ c₂ x b hread hread'
  rcases return_eq_ok hread with ⟨a, hvalue, rfl⟩
  rcases h hvalue hread' with ⟨rfl, hrelated⟩
  exact ⟨rfl, hmake a b hrelated⟩

/-- Two readings go along if what the other makes of the values keeps them in relation. -/
theorem Agree.mapRight {γ : Type} {S : α → γ → Prop} {r : Reader α} {r' : Reader β} {g : β → γ}
    (h : Agree R r r') (hmake : ∀ a b, R a b → S a (g b)) :
    Agree S r (fun c => do
      let (b, c) ← r' c
      return (g b, c)) :=
  (h.symm.mapLeft fun b a => hmake a b).symm

/-- Two readings of an object go along if those of what stands inside do. -/
theorem Agree.inObject {body : Reader α} {body' : Reader β} (h : Agree R body body') :
    Agree R (inObject body) (inObject body') := by
  intro c c₁ c₂ a b hread hread'
  rcases inObject_eq_ok.1 hread with ⟨d, hbody, hclose⟩
  rcases inObject_eq_ok.1 hread' with ⟨d', hbody', hclose'⟩
  rcases h hbody hbody' with ⟨rfl, hvalues⟩
  rw [hclose, Except.ok.injEq] at hclose'
  exact ⟨hclose', hvalues⟩

/-- Reads pieces one after the other as long as there are more. -/
def foldPieces {α : Type} (more : Bool → Cursor → Except Failure (Bool × Cursor)) (cause : Cause)
    (piece : α → Reader α) : Nat → Bool → α → Reader α
  | 0, _, _, c => Failure.atNext cause c
  | fuel + 1, first, acc, c =>
      match more first c with
      | .error failure => .error failure
      | .ok (false, c) => .ok (acc, c)
      | .ok (true, c) =>
          match piece acc c with
          | .error failure => .error failure
          | .ok (acc, c) => foldPieces more cause piece fuel false acc c

/-- The items of a list are pieces. -/
theorem foldItems_eq_foldPieces (item : α → Reader α) (fuel : Nat) :
    foldItems item fuel = foldPieces hasItem .endInList item fuel := by
  induction fuel with
  | zero => rfl
  | succ fuel ih =>
      funext first a c
      unfold foldItems foldPieces
      exact ih ▸ rfl

/-- The members of an object are pieces. -/
theorem foldMembers_eq_foldPieces (member : α → Reader α) (fuel : Nat) :
    foldMembers member fuel = foldPieces hasMember .endInObject member fuel := by
  induction fuel with
  | zero => rfl
  | succ fuel ih =>
      funext first a c
      unfold foldMembers foldPieces
      exact ih ▸ rfl

/-- Two readings of pieces go along if those of each piece do. -/
theorem Agree.foldPieces {more : Bool → Cursor → Except Failure (Bool × Cursor)} {cause : Cause}
    {piece : α → Reader α} {piece' : β → Reader β}
    (hpiece : ∀ a b, R a b → Agree R (piece a) (piece' b)) (fuel : Nat) (first : Bool) {a : α}
    {b : β} (hstart : R a b) :
    Agree R (foldPieces more cause piece fuel first a)
      (foldPieces more cause piece' fuel first b) := by
  induction fuel generalizing first a b with
  | zero =>
      intro c c₁ c₂ x y hread
      simp [Json.foldPieces, Failure.atNext] at hread
  | succ fuel ih =>
      intro c c₁ c₂ x y hread hread'
      simp only [Json.foldPieces] at hread hread'
      cases hmore : more first c with
      | error failure => simp [hmore] at hread
      | ok result =>
          rcases result with ⟨goesOn, d⟩
          cases goesOn with
          | false =>
              simp only [hmore, Except.ok.injEq, Prod.mk.injEq] at hread hread'
              rcases hread with ⟨rfl, rfl⟩
              rcases hread' with ⟨rfl, rfl⟩
              exact ⟨rfl, hstart⟩
          | true =>
              simp only [hmore] at hread hread'
              split at hread
              · simp at hread
              · rename_i a' e hfirst
                split at hread'
                · simp at hread'
                · rename_i b' e' hfirst'
                  rcases hpiece a b hstart hfirst hfirst' with ⟨rfl, hvalues⟩
                  exact ih false hvalues hread hread'

/-- Two readings of all members of an object go along if those of each member do. -/
theorem Agree.readMembers {member : α → Reader α} {member' : β → Reader β}
    (hmember : ∀ a b, R a b → Agree R (member a) (member' b)) {a : α} {b : β}
    (hstart : R a b) : Agree R (readMembers member a) (readMembers member' b) := by
  intro c _ _ _ _ hread hread'
  unfold Json.readMembers at hread hread'
  rw [foldMembers_eq_foldPieces] at hread hread'
  exact Agree.foldPieces hmember _ true hstart hread hread'

/-- A list ends with its bracket. -/
theorem closeList_ok {c c' : Cursor} (h : closeList c = .ok c') :
    (∃ rest, c.skipSpace.rest = ']' :: rest) ∧ c' = c.skipSpace.advance := by
  simp only [closeList] at h
  split at h
  · simp [Failure.atNext] at h
  · rename_i rest hrest
    exact ⟨⟨rest, hrest⟩, (Except.ok.inj h).symm⟩
  · split at h
    · simp [Failure.atNext] at h
    · simp [Failure.atNext] at h
  · simp [Failure.atNext] at h

/-- An object ends with its brace. -/
theorem closeObject_ok {c c' : Cursor} (h : closeObject c = .ok c') :
    (∃ rest, c.skipSpace.rest = '\x7d' :: rest) ∧ c' = c.skipSpace.advance := by
  simp only [closeObject] at h
  split at h
  · simp [Failure.atNext] at h
  · rename_i rest hrest
    exact ⟨⟨rest, hrest⟩, (Except.ok.inj h).symm⟩
  · simp [Failure.atNext] at h
  · simp [Failure.atNext] at h

/-- A list that is read as an empty one ends where its items are read to. -/
theorem agree_emptyList {item : α → Reader α} {a : α} :
    Agree anyValues (inList fun c => .ok ((), c)) (inList (Json.readItems item a)) := by
  intro c c₁ c₂ u b hread hread'
  rcases inList_eq_ok.1 hread with ⟨d, hbody, hclose⟩
  rcases inList_eq_ok.1 hread' with ⟨d', hbody', hclose'⟩
  rw [Except.ok.injEq, Prod.mk.injEq] at hbody
  rw [← hbody.2] at hclose
  rcases closeList_ok hclose with ⟨⟨rest, hrest⟩, rfl⟩
  simp only [Json.readItems, foldItems, hasItem, hrest, Except.ok.injEq, Prod.mk.injEq] at hbody'
  rw [← hbody'.2] at hclose'
  exact ⟨by rw [(closeList_ok hclose').2, Cursor.skipSpace_idem], trivial⟩

/-- An object that is read as an empty one ends where its members are read to. -/
theorem agree_emptyObject {member : α → Reader α} {a : α} :
    Agree anyValues (inObject fun c => .ok ((), c)) (inObject (Json.readMembers member a)) := by
  intro c c₁ c₂ u b hread hread'
  rcases inObject_eq_ok.1 hread with ⟨d, hbody, hclose⟩
  rcases inObject_eq_ok.1 hread' with ⟨d', hbody', hclose'⟩
  rw [Except.ok.injEq, Prod.mk.injEq] at hbody
  rw [← hbody.2] at hclose
  rcases closeObject_ok hclose with ⟨⟨rest, hrest⟩, rfl⟩
  simp only [Json.readMembers, foldMembers, hasMember, hrest, Except.ok.injEq, Prod.mk.injEq]
    at hbody'
  rw [← hbody'.2] at hclose'
  exact ⟨by rw [(closeObject_ok hclose').2, Cursor.skipSpace_idem], trivial⟩

end Containers

/-! ## Values -/

/-- Steps over a key and the value behind its colon. -/
def skipPair (fuel : Nat) : Reader Unit := fun c => do
  let ((), c) ← skipQuoted c
  let c ← readColon c
  skipValueWith fuel c

/-- How a value is stepped over, by what stands at its place. -/
inductive Skipped (fuel : Nat) (c c' : Cursor) : Prop where
  | null {rest : List Char} (hrest : c.skipSpace.rest = 'n' :: rest)
      (hword : readWord ['u', 'l', 'l'] c.skipSpace.advance = .ok ((), c'))
  | yes {rest : List Char} (hrest : c.skipSpace.rest = 't' :: rest)
      (hword : readWord ['r', 'u', 'e'] c.skipSpace.advance = .ok ((), c'))
  | no {rest : List Char} (hrest : c.skipSpace.rest = 'f' :: rest)
      (hword : readWord ['a', 'l', 's', 'e'] c.skipSpace.advance = .ok ((), c'))
  | string {rest : List Char} (hrest : c.skipSpace.rest = '"' :: rest)
      (hend : c.skipSpace.advance.stringEnd = some c')
  | list {rest : List Char} (hrest : c.skipSpace.rest = '[' :: rest)
      (hlist : inList (readItems (fun _ => skipValueWith fuel) ()) c.skipSpace = .ok ((), c'))
  | object {rest : List Char} (hrest : c.skipSpace.rest = '\x7b' :: rest)
      (hobject : inObject (readMembers (fun _ => skipPair fuel) ()) c.skipSpace = .ok ((), c'))
  | number {ch : Char} {rest : List Char} (hrest : c.skipSpace.rest = ch :: rest)
      (hfirst : ch = '-' ∨ ch.isDigit = true)
      (hnumber : skipNumber c.skipSpace = .ok ((), c'))

/-- What is stepped over is one of these cases. -/
theorem skipped_of_skipValueWith {fuel : Nat} {c c' : Cursor}
    (h : skipValueWith (fuel + 1) c = .ok ((), c')) : Skipped fuel c c' := by
  simp only [skipValueWith] at h
  split at h
  · simp [Failure.atNext] at h
  · rename_i rest hrest
    exact .null hrest h
  · rename_i rest hrest
    exact .yes hrest h
  · rename_i rest hrest
    exact .no hrest h
  · rename_i rest hrest
    exact .string hrest (stringEnd_of_skipQuoted h)
  · rename_i rest hrest
    exact .list hrest h
  · rename_i rest hrest
    exact .object hrest h
  · rename_i ch rest _ _ _ _ _ _ hrest
    split at h
    · rename_i hfirst
      exact .number hrest hfirst h
    · simp [Failure.atNext] at h

/-- A number starts with no mark of another kind of value. -/
theorem numberStart_plain {ch : Char} (h : ch = '-' ∨ ch.isDigit = true) :
    ch ≠ 'n' ∧ ch ≠ 't' ∧ ch ≠ 'f' ∧ ch ≠ '"' ∧ ch ≠ '[' ∧ ch ≠ '\x7b' := by
  refine ⟨?_, ?_, ?_, ?_, ?_, ?_⟩
  all_goals
    rintro rfl
    revert h
    decide

/-- A number is stepped over as a number. -/
theorem skipValueWith_number {fuel : Nat} {c : Cursor} {ch : Char} {rest : List Char}
    (hrest : c.skipSpace.rest = ch :: rest) (hfirst : ch = '-' ∨ ch.isDigit = true) :
    skipValueWith (fuel + 1) c = skipNumber c.skipSpace := by
  have hplain := numberStart_plain hfirst
  simp [skipValueWith, hrest, hplain, hfirst]

/-- Whether a reader takes the whole value: it stops where the value is stepped over to. -/
def TakesValue {α : Type} (r : Reader α) : Prop :=
  ∀ fuel, Agree anyValues r (skipValueWith fuel)

/-- A reader takes the whole value if it stops where the value is stepped over to with any
fuel that is enough. -/
theorem takesValue_of_end {α : Type} {r : Reader α}
    (h : ∀ (fuel : Nat) (c c₁ c₂ : Cursor) (a : α), r c = .ok (a, c₁) →
      skipValueWith (fuel + 1) c = .ok ((), c₂) → c₁ = c₂) : TakesValue r := by
  intro fuel c c₁ c₂ a u hread hskip
  cases fuel with
  | zero => simp [skipValueWith, Failure.atNext] at hskip
  | succ fuel => exact ⟨h fuel c c₁ c₂ a hread hskip, trivial⟩

/-- A container that is read stands inside few enough others. -/
theorem nested_eq_ok {α : Type} {depth : Nat} {container : Reader α} {c c' : Cursor} {a : α}
    (h : nested depth container c = .ok (a, c')) : container c = .ok (a, c') := by
  unfold nested at h
  split at h
  · simp [Failure.atNext] at h
  · exact h

/-- Two readings of a member go along if those of its key and those of its value do. -/
theorem Agree.behindKey {α β γ δ : Type} {Q : α → β → Prop} {S : γ → δ → Prop} {k : Reader α}
    {l : Reader β} {v : α → Reader γ} {w : β → Reader δ} (hkey : Agree Q k l)
    (hvalue : ∀ a b, Q a b → Agree S (v a) (w b)) :
    Agree S
      (fun c => do
        let (a, c) ← k c
        let c ← readColon c
        v a c)
      (fun c => do
        let (b, c) ← l c
        let c ← readColon c
        w b c) := by
  intro c c₁ c₂ x y hread hread'
  rcases bind_eq_ok.1 hread with ⟨⟨a, d⟩, hfirst, hbehind⟩
  rcases bind_eq_ok.1 hbehind with ⟨e, hcolon, hlast⟩
  rcases bind_eq_ok.1 hread' with ⟨⟨b, d'⟩, hfirst', hbehind'⟩
  rcases bind_eq_ok.1 hbehind' with ⟨e', hcolon', hlast'⟩
  rcases hkey hfirst hfirst' with ⟨rfl, hkeys⟩
  have hcolons := hcolon.symm.trans hcolon'
  rw [Except.ok.injEq] at hcolons
  subst hcolons
  exact hvalue a b hkeys hlast hlast'

/-- A string that is read ends where it is stepped over to. -/
theorem agree_readQuoted : Agree anyValues readQuoted skipQuoted := by
  intro c c₁ c₂ s u hread hskip
  have hend := stringEnd_of_readQuoted hread
  rw [stringEnd_of_skipQuoted hskip, Option.some.injEq] at hend
  exact ⟨hend.symm, trivial⟩

/-- A reader always goes along with itself. -/
theorem Agree.refl {α : Type} (r : Reader α) : Agree Eq r r := by
  intro c c₁ c₂ a b hread hread'
  rw [hread, Except.ok.injEq, Prod.mk.injEq] at hread'
  exact ⟨hread'.2, hread'.1⟩

/-! ## Typed values -/

/-- Blanks in front of a value are stepped over with it. -/
theorem skipValueWith_skipSpace (fuel : Nat) (c : Cursor) :
    skipValueWith (fuel + 1) c.skipSpace = skipValueWith (fuel + 1) c := by
  simp only [skipValueWith, Cursor.skipSpace_idem]

/-- A value of the wrong kind is never read. -/
theorem refuseKind_ne_ok {α : Type} {expected : String} {c c' : Cursor} {a : α} :
    refuseKind expected c ≠ .ok (a, c') := by
  intro h
  unfold refuseKind at h
  dsimp only at h
  split at h
  case h_1 | h_2 | h_3 | h_4 =>
    rcases bind_eq_ok.1 h with ⟨⟨_, d⟩, -, hrefuse⟩
    simp [Failure.atHere] at hrefuse
  case h_5 | h_6 => simp [Failure.atHere] at h
  case h_7 =>
    split at h
    · rcases bind_eq_ok.1 h with ⟨⟨_, d⟩, -, hrefuse⟩
      simp [Failure.atHere] at hrefuse
    · simp [Failure.atNext] at h
  case h_8 => simp [Failure.atNext] at h

/-- A value ends where it is stepped over to. -/
theorem TakesValue.agree {α : Type} {r : Reader α} (h : TakesValue r) :
    Agree anyValues r skipValue :=
  fun c _ _ _ _ => @h (c.rest.length + 1) c _ _ _ _

/-! ## Records -/

/-- A member is a key, a colon and a value. -/
theorem readPair_eq_ok_iff {α : Type} {value : Reader α} {m : String × α} {c c' : Cursor} :
    readPair value c = .ok (m, c') ↔
      ∃ d e, readQuoted c = .ok (m.1, d) ∧ readColon d = .ok e ∧ value e = .ok (m.2, c') := by
  constructor
  · intro h
    rcases bind_eq_ok.1 h with ⟨⟨key, d⟩, hkey, hbehind⟩
    rcases bind_eq_ok.1 hbehind with ⟨e, hcolon, hlast⟩
    rcases return_eq_ok hlast with ⟨a, hvalue, rfl⟩
    exact ⟨d, e, hkey, hcolon, hvalue⟩
  · rintro ⟨d, e, hkey, hcolon, hvalue⟩
    exact bind_eq_ok.2 ⟨(m.1, d), hkey, bind_eq_ok.2 ⟨e, hcolon,
      bind_eq_ok.2 ⟨(m.2, c'), hvalue, rfl⟩⟩⟩

namespace Field

variable {δ ε : Type}

/-- Reads the value behind a key into the draft, or steps over it. -/
def readNamed (fields : List (Field δ)) (depth : Nat) (draft : δ) (key : String) : Reader δ :=
  fun c =>
    match fields.find? fun field => field.name == key with
    | some field => field.read depth draft c
    | none => do
        let ((), c) ← skipValue c
        return (draft, c)

/-- A field of the name of a key is read. -/
theorem readNamed_of_some {fields : List (Field δ)} {field : Field δ} {depth : Nat} {draft : δ}
    {key : String} (h : (fields.find? fun field => field.name == key) = some field) :
    readNamed fields depth draft key = field.read depth draft := by
  funext c
  rw [readNamed, h]

/-- The value behind a key that no field has is stepped over. -/
theorem readNamed_of_none {fields : List (Field δ)} {depth : Nat} {draft : δ} {key : String}
    (h : (fields.find? fun field => field.name == key) = none) :
    readNamed fields depth draft key = fun c => do
      let (_, c) ← skipValue c
      return (draft, c) := by
  funext c
  rw [readNamed, h]

/-- The value behind a key that no field has changes nothing. -/
theorem eq_of_readNamed {fields : List (Field δ)} {depth : Nat} {draft draft' : δ} {key : String}
    {c c' : Cursor} (h : (fields.find? fun field => field.name == key) = none)
    (hread : readNamed fields depth draft key c = .ok (draft', c')) : draft' = draft := by
  rw [readNamed_of_none h] at hread
  rcases return_eq_ok hread with ⟨_, -, hsame⟩
  exact hsame

/-- A member that is read is a key, a colon and the value of the key. -/
theorem readMember_ok {fields : List (Field δ)} {depth : Nat} {draft draft' : δ} {c c' : Cursor}
    (h : readMember fields depth draft c = .ok (draft', c')) :
    (do
      let (key, c) ← readQuoted c
      let c ← readColon c
      readNamed fields depth draft key c) = .ok (draft', c') := by
  rcases bind_eq_ok.1 h with ⟨⟨key, d⟩, hkey, hbehind⟩
  refine bind_eq_ok.2 ⟨⟨key, d⟩, hkey, ?_⟩
  dsimp only at hbehind ⊢
  split at hbehind
  · rename_i field hfield
    split at hbehind
    · exact nomatch hbehind
    · simpa only [readNamed, hfield] using hbehind
  · rename_i hnone
    simpa only [readNamed, hnone] using hbehind

/-- A member that is read is the value of its key. -/
theorem exists_of_readMember {fields : List (Field δ)} {depth : Nat} {draft draft' : δ}
    {c c' : Cursor} (h : readMember fields depth draft c = .ok (draft', c')) :
    ∃ key d e, readQuoted c = .ok (key, d) ∧ readColon d = .ok e ∧
      readNamed fields depth draft key e = .ok (draft', c') := by
  rcases bind_eq_ok.1 (readMember_ok h) with ⟨⟨key, d⟩, hkey, hbehind⟩
  rcases bind_eq_ok.1 hbehind with ⟨e, hcolon, hnamed⟩
  exact ⟨key, d, e, hkey, hcolon, hnamed⟩

/-- A member with a certain key that is read is the value of that key. -/
theorem readNamed_of_readMember {fields : List (Field δ)} {depth : Nat} {draft draft' : δ}
    {key : String} {c c' d : Cursor} (hkey : readQuoted c = .ok (key, d))
    (h : readMember fields depth draft c = .ok (draft', c')) :
    ∃ e, readColon d = .ok e ∧ readNamed fields depth draft key e = .ok (draft', c') := by
  rcases exists_of_readMember h with ⟨key', d', e, hkey', hcolon, hnamed⟩
  rw [hkey, Except.ok.injEq, Prod.mk.injEq] at hkey'
  rcases hkey' with ⟨rfl, rfl⟩
  exact ⟨e, hcolon, hnamed⟩

/-- Two readings of a member go along if those of the value behind each key do. -/
theorem agree_readMember {R : δ → ε → Prop} {fields : List (Field δ)}
    {fields' : List (Field ε)} {depth depth' : Nat} {draft : δ} {draft' : ε}
    (h : ∀ key, Agree R (readNamed fields depth draft key)
      (readNamed fields' depth' draft' key)) :
    Agree R (readMember fields depth draft) (readMember fields' depth' draft') := by
  intro c c₁ c₂ a b hread hread'
  have hagree := Agree.behindKey (Agree.refl readQuoted)
    (v := readNamed fields depth draft) (w := readNamed fields' depth' draft') (S := R)
    fun key key' hsame => hsame ▸ h key
  exact hagree (readMember_ok hread) (readMember_ok hread')

/-- The reading of a member and that of a key with a value go along if those of the value behind
each key do. -/
theorem agree_readPair {R : δ → String × ε → Prop} {fields : List (Field δ)} {depth : Nat}
    {draft : δ} {value : Reader ε}
    (h : ∀ key, Agree (fun d v => R d (key, v)) (readNamed fields depth draft key) value) :
    Agree R (readMember fields depth draft) (readPair value) := by
  intro c c₁ c₂ d m hread hread'
  have hagree := Agree.behindKey (Agree.refl readQuoted) (v := readNamed fields depth draft)
    (w := fun key c => do
      let (v, c) ← value c
      return ((key, v), c)) (S := R) fun key key' hsame =>
    hsame ▸ (h key).mapRight fun _ _ hrelated => hrelated
  exact hagree (readMember_ok hread) hread'

end Field

/-- A record stands as a list or as an object. -/
theorem readRecord_start {δ : Type} {label : String} {fields : List (Field δ)} {draft d : δ}
    {depth : Nat} {c c' : Cursor} (h : readRecord label fields draft depth c = .ok (d, c')) :
    ∃ rest, c.skipSpace.rest = '[' :: rest ∨ c.skipSpace.rest = '\x7b' :: rest := by
  cases depth with
  | zero => simp [readRecord, Failure.atNext] at h
  | succ depth =>
      simp only [readRecord] at h
      split at h
      · simp [Failure.atNext] at h
      · rename_i rest hrest
        exact ⟨rest, .inl hrest⟩
      · rename_i rest hrest
        exact ⟨rest, .inr hrest⟩
      · exact absurd h refuseKind_ne_ok

/-- An object whose members all have values of one kind stands as an object. -/
theorem readMap_start {α : Type} {value : Nat → Reader α} {depth : Nat} {c c' : Cursor}
    {members : List (String × α)} (h : readMap value depth c = .ok (members, c')) :
    ∃ rest, c.skipSpace.rest = '\x7b' :: rest := by
  cases depth with
  | zero => simp [readMap, Failure.atNext] at h
  | succ depth =>
      simp only [readMap] at h
      split at h
      · simp [Failure.atNext] at h
      · rename_i rest hrest
        exact ⟨rest, hrest⟩
      · exact absurd h refuseKind_ne_ok

/-- A record that stands as an object is read member by member. -/
theorem readRecord_object {δ : Type} {label : String} {fields : List (Field δ)} {draft d : δ}
    {depth : Nat} {c c' : Cursor} {rest : List Char} (hrest : c.skipSpace.rest = '\x7b' :: rest)
    (h : readRecord label fields draft (depth + 1) c = .ok (d, c')) :
    inObject (readMembers (Field.readMember fields depth) draft) c.skipSpace = .ok (d, c') := by
  simp only [readRecord, hrest] at h
  rcases inObject_eq_ok.1 (nested_eq_ok h) with ⟨e, hbody, hclose⟩
  rcases bind_eq_ok.1 hbody with ⟨⟨d', e'⟩, hmembers, hgiven⟩
  dsimp only at hgiven
  split at hgiven
  · exact nomatch hgiven
  · rw [Except.ok.injEq] at hgiven
    exact inObject_eq_ok.2 ⟨e, hgiven ▸ hmembers, hclose⟩

/-- A record that is finished comes from its draft. -/
theorem finishRecord_ok {δ ρ : Type} {reader : Reader δ} {finish : δ → Option ρ} {c c' : Cursor}
    {record : ρ} (h : finishRecord reader finish c = .ok (record, c')) :
    ∃ d, reader c = .ok (d, c') ∧ finish d = some record := by
  rcases bind_eq_ok.1 h with ⟨⟨d, e⟩, hdraft, hfinish⟩
  dsimp only at hfinish
  split at hfinish
  · rename_i record' hrecord
    rw [Except.ok.injEq, Prod.mk.injEq] at hfinish
    exact ⟨d, hfinish.2 ▸ hdraft, hfinish.1 ▸ hrecord⟩
  · simp [Failure.atHere] at hfinish

/-- What is read from a whole text is read from its start. -/
theorem read_of_run {α : Type} {r : Reader α} {text : List Char} {a : α}
    (h : r.run text = .ok a) : ∃ c, r (Cursor.start text) = .ok (a, c) := by
  unfold Reader.run at h
  split at h
  · exact nomatch h
  · rename_i b c hread
    split at h
    · exact nomatch h
    · rw [Except.ok.injEq] at h
      exact ⟨c, h ▸ hread⟩

end Json
end Gatehouse
