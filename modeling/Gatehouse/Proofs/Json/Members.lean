import Gatehouse.Proofs.Json.Progress

/-!
# Names of members

The members of an object have names, whatever their values are.  The names tell which
members a reading will come upon, and so where two readings of one object can part.

Main results:

- Definition {lit}`memberNames?`: the names of the members of an object.
- Theorem {lit}`Field.leads_noteName`: whoever reads a member comes upon its name.
- Theorem {lit}`Guided.inObject`: a reading of an object leads another one along as long as a
  third one notes nothing bad.
- Theorem {lit}`Parallel.inObject`: two readings that part at one name only both succeed on an
  object without a member of that name.
-/

namespace Gatehouse
namespace Json

/-- Notes the name of a member and steps over its value. -/
def noteName (names : List String) : Reader (List String) := fun c => do
  let (name, c) ← readQuoted c
  let c ← readColon c
  let ((), c) ← skipValue c
  return (name :: names, c)

/-- Notes the names of the members of an object, the last one first. -/
def readNames : Reader (List String) := fun c =>
  let c := c.skipSpace
  match c.rest with
  | '\x7b' :: _ => inObject (readMembers noteName []) c
  | _ => Failure.atNext .expectedValue c

/-- The names of the members of an object, the last one first; nothing if a text is no
object. -/
def memberNames? (text : List Char) : Option (List String) :=
  (readNames.run text).toOption

/-- A text is read as a value if the value stands at its start with nothing behind it. -/
theorem run_eq_ok_iff {α : Type} {r : Reader α} {text : List Char} {a : α} :
    r.run text = .ok a ↔ ∃ c, r (Cursor.start text) = .ok (a, c) ∧ readEnd c = .ok () := by
  unfold Reader.run
  cases hread : r (Cursor.start text) with
  | error failure => simp
  | ok result =>
      rcases result with ⟨b, c⟩
      cases hend : readEnd c with
      | error failure => simp [hend]
      | ok u =>
          simp only [hend, Except.ok.injEq, Prod.mk.injEq]
          constructor
          · rintro rfl
            exact ⟨c, ⟨rfl, rfl⟩, hend⟩
          · rintro ⟨_, ⟨rfl, rfl⟩, -⟩
            rfl

/-- A reading has a value exactly if it succeeds with it. -/
theorem toOption_eq_some_iff {ε α : Type} {result : Except ε α} {a : α} :
    result.toOption = some a ↔ result = .ok a := by
  cases result with
  | error fault => simp [Except.toOption]
  | ok found => simp [Except.toOption]

theorem memberNames?_eq_some_iff {text : List Char} {names : List String} :
    memberNames? text = some names ↔ readNames.run text = .ok names :=
  toOption_eq_some_iff

/-- The names of a text are those of the object that stands at its start. -/
theorem memberNames?_eq_some {text : List Char} {names : List String} {rest : List Char}
    {c : Cursor} (hrest : (Cursor.start text).skipSpace.rest = '\x7b' :: rest)
    (hread : inObject (readMembers noteName []) (Cursor.start text).skipSpace = .ok (names, c))
    (hend : readEnd c = .ok ()) : memberNames? text = some names := by
  rw [memberNames?_eq_some_iff, run_eq_ok_iff]
  refine ⟨c, ?_, hend⟩
  simp only [readNames, hrest]
  exact hread

/-- A text with names of members is an object. -/
theorem object_of_memberNames? {text : List Char} {names : List String}
    (h : memberNames? text = some names) :
    ∃ c rest, (Cursor.start text).skipSpace.rest = '\x7b' :: rest ∧
      inObject (readMembers noteName []) (Cursor.start text).skipSpace = .ok (names, c) := by
  rw [memberNames?_eq_some_iff, run_eq_ok_iff] at h
  rcases h with ⟨c, hread, -⟩
  simp only [readNames] at hread
  split at hread
  · rename_i rest hrest
    exact ⟨c, rest, hrest, hread⟩
  · simp [Failure.atNext] at hread

/-! ## Names that a reading comes upon -/

/-- The name that is noted is the one that is read. -/
theorem noteName_ok {names names' : List String} {c c' : Cursor}
    (h : noteName names c = .ok (names', c')) :
    ∃ name d e, readQuoted c = .ok (name, d) ∧ readColon d = .ok e ∧
      skipValue e = .ok ((), c') ∧ names' = name :: names := by
  rcases bind_eq_ok.1 h with ⟨⟨name, d⟩, hname, hbehind⟩
  rcases bind_eq_ok.1 hbehind with ⟨e, hcolon, hlast⟩
  rcases return_eq_ok hlast with ⟨⟨⟩, hskip, rfl⟩
  exact ⟨name, d, e, hname, hcolon, hskip, rfl⟩

namespace Field

variable {δ : Type}

/-- Whoever reads a member comes upon its name, if what stands behind each name can be
stepped over. -/
theorem leads_noteName {R : δ → List String → Prop} {fields : List (Field δ)} {depth bound : Nat}
    {draft : δ} {names : List String}
    (h : ∀ name, Leads bound (fun d (_ : Unit) => R d (name :: names))
      (readNamed fields depth draft name) skipValue) :
    Leads bound R (readMember fields depth draft) (noteName names) := by
  intro c c' d hbound hread
  have hvalue : ∀ name name', name = name' → Leads bound R (readNamed fields depth draft name)
      (fun c => do
        let ((), c) ← skipValue c
        return (name' :: names, c)) := by
    rintro name _ rfl
    exact (h name).mapRight fun _ _ hnoted => hnoted
  have hkey : Leads bound Eq readQuoted readQuoted := by
    intro c c' name hbound hread
    exact ⟨(leads_readQuoted bound hbound hread).1, name, hread, rfl⟩
  exact Leads.behindKey hkey hvalue hbound (readMember_ok hread)

/-- A member with the name of a field that has not been given is read as that field. -/
theorem readMember_of_some {fields : List (Field δ)} {field : Field δ} {depth : Nat}
    {draft : δ} {name : String} {c d e : Cursor} (hname : readQuoted c = .ok (name, d))
    (hfield : (fields.find? fun field => field.name == name) = some field)
    (hgiven : field.given draft = false) (hcolon : readColon d = .ok e) :
    readMember fields depth draft c = field.read depth draft e := by
  simp [readMember, hname, hfield, hgiven, hcolon, bind, Except.bind]

/-- A member with the name of no field is stepped over. -/
theorem readMember_of_none {fields : List (Field δ)} {depth : Nat} {draft : δ} {name : String}
    {c c' d e : Cursor} (hname : readQuoted c = .ok (name, d))
    (hnone : (fields.find? fun field => field.name == name) = none)
    (hcolon : readColon d = .ok e) (hskip : skipValue e = .ok ((), c')) :
    readMember fields depth draft c = .ok (draft, c') := by
  simp [readMember, hname, hnone, hcolon, hskip, bind, Except.bind, pure, Except.pure]

/-- A field that is read has not been given before. -/
theorem not_given_of_readMember {fields : List (Field δ)} {field : Field δ} {depth : Nat}
    {draft draft' : δ} {name : String} {c c' d : Cursor} (hname : readQuoted c = .ok (name, d))
    (hfield : (fields.find? fun field => field.name == name) = some field)
    (h : readMember fields depth draft c = .ok (draft', c')) : field.given draft = false := by
  rcases bind_eq_ok.1 h with ⟨⟨name', d'⟩, hname', hbehind⟩
  rw [hname, Except.ok.injEq, Prod.mk.injEq] at hname'
  rcases hname' with ⟨rfl, rfl⟩
  simp only [hfield] at hbehind
  split at hbehind
  · exact nomatch hbehind
  · rename_i hgiven
    simpa using hgiven

end Field

/-! ## Readings with a guide -/

/-- Whether a reading of a piece that succeeds leads another one along, as long as what a third
one notes is good and has been good before. -/
structure Guided {α β γ : Type} (Good : γ → Prop) (R : α → γ → β → Prop) (piece : α → Reader α)
    (guide : γ → Reader γ) (piece' : β → Reader β) : Prop where
  same : ∀ (a : α) (g : γ), Agree anyValues (piece a) (guide g)
  before : ∀ {g g' : γ} {c c' : Cursor}, guide g c = .ok (g', c') → Good g' → Good g
  leads : ∀ {a a' : α} {g g' : γ} {b : β} {c c' : Cursor}, R a g b → piece a c = .ok (a', c') →
    guide g c = .ok (g', c') → Good g' → ∃ b', piece' b c = .ok (b', c') ∧ R a' g' b'

section Guided

variable {α β γ : Type} {Good : γ → Prop} {R : α → γ → β → Prop} {piece : α → Reader α}
  {guide : γ → Reader γ} {piece' : β → Reader β}

/-- What is good at the end has been good all along. -/
theorem Guided.good (h : Guided Good R piece guide piece')
    {more : Bool → Cursor → Except Failure (Bool × Cursor)} {cause : Cause} {fuel : Nat}
    {first : Bool} {g g' : γ} {c c' : Cursor}
    (hguide : foldPieces more cause guide fuel first g c = .ok (g', c')) (hgood : Good g') :
    Good g := by
  induction fuel generalizing first g c with
  | zero => simp [Json.foldPieces, Failure.atNext] at hguide
  | succ fuel ih =>
      simp only [Json.foldPieces] at hguide
      split at hguide
      · contradiction
      · rw [Except.ok.injEq, Prod.mk.injEq] at hguide
        exact hguide.1 ▸ hgood
      · split at hguide
        · contradiction
        · rename_i hnote
          exact h.before hnote (ih hguide)

/-- A reading of pieces leads another one along as long as the guide notes nothing bad. -/
theorem Guided.foldPieces (h : Guided Good R piece guide piece')
    {more : Bool → Cursor → Except Failure (Bool × Cursor)} {cause : Cause} {fuel : Nat}
    {first : Bool} {a a' : α} {g g' : γ} {b : β} {c c₁ c₂ : Cursor} (hstart : R a g b)
    (hread : foldPieces more cause piece fuel first a c = .ok (a', c₁))
    (hguide : foldPieces more cause guide fuel first g c = .ok (g', c₂)) (hgood : Good g') :
    ∃ b', foldPieces more cause piece' fuel first b c = .ok (b', c₁) ∧ R a' g' b' := by
  induction fuel generalizing first a g b c with
  | zero => simp [Json.foldPieces, Failure.atNext] at hread
  | succ fuel ih =>
      simp only [Json.foldPieces] at hread hguide ⊢
      cases hmore : more first c with
      | error failure => simp [hmore] at hread
      | ok result =>
          rcases result with ⟨goesOn, d⟩
          cases goesOn with
          | false =>
              simp only [hmore, Except.ok.injEq, Prod.mk.injEq] at hread hguide
              rcases hread with ⟨rfl, rfl⟩
              rcases hguide with ⟨rfl, -⟩
              exact ⟨b, rfl, hstart⟩
          | true =>
              simp only [hmore] at hread hguide
              split at hread
              · contradiction
              · rename_i hpiece
                split at hguide
                · contradiction
                · rename_i hnote
                  rcases h.same a g hpiece hnote with ⟨rfl, -⟩
                  rcases h.leads hstart hpiece hnote (h.good hguide hgood) with
                    ⟨b₁, hpiece', hnext⟩
                  rcases ih hnext hread hguide with ⟨b', hread', hrelated⟩
                  exact ⟨b', by simp only [hpiece', hread'], hrelated⟩

/-- A reading of an object leads another one along as long as the guide notes nothing bad. -/
theorem Guided.inObject (h : Guided Good R piece guide piece') {a a' : α} {g g' : γ} {b : β}
    {c c₁ c₂ : Cursor} (hstart : R a g b)
    (hread : Json.inObject (readMembers piece a) c = .ok (a', c₁))
    (hguide : Json.inObject (readMembers guide g) c = .ok (g', c₂)) (hgood : Good g') :
    ∃ b', Json.inObject (readMembers piece' b) c = .ok (b', c₁) ∧ R a' g' b' := by
  rcases inObject_eq_ok.1 hread with ⟨d, hbody, hclose⟩
  rcases inObject_eq_ok.1 hguide with ⟨d', hbody', -⟩
  unfold readMembers at hbody hbody'
  rw [foldMembers_eq_foldPieces] at hbody hbody'
  rcases h.foldPieces hstart hbody hbody' hgood with ⟨b', hbody'', hrelated⟩
  refine ⟨b', inObject_eq_ok.2 ⟨d, ?_, hclose⟩, hrelated⟩
  unfold readMembers
  rw [foldMembers_eq_foldPieces]
  exact hbody''

end Guided

/-- Whether a reading of a member that succeeds leads another one along, unless the member
has a certain name. -/
def Parallel {α β : Type} (avoided : String) (R : α → β → Prop) (piece : α → Reader α)
    (piece' : β → Reader β) : Prop :=
  ∀ ⦃a a' : α⦄ ⦃b : β⦄ ⦃name : String⦄ ⦃c c' d : Cursor⦄, R a b → readQuoted c = .ok (name, d) →
    name ≠ avoided → piece a c = .ok (a', c') → ∃ b', piece' b c = .ok (b', c') ∧ R a' b'

section Parallel

variable {α β : Type} {avoided : String} {R : α → β → Prop} {piece : α → Reader α}
  {piece' : β → Reader β}

/-- Two readings of members that part at one name only are guided by the names. -/
theorem Parallel.guided (h : Parallel avoided R piece piece')
    (hnames : ∀ a names, Agree anyValues (piece a) (noteName names)) :
    Guided (avoided ∉ ·) (fun a _ b => R a b) piece noteName piece' where
  same := hnames
  before := fun hnote havoided hmem => by
    rcases noteName_ok hnote with ⟨name, -, -, -, -, -, rfl⟩
    exact havoided (List.mem_cons_of_mem name hmem)
  leads := fun hstart hpiece hnote havoided => by
    rcases noteName_ok hnote with ⟨name, _, _, hname, -, -, rfl⟩
    exact h hstart hname (fun hsame => havoided (hsame ▸ List.mem_cons_self)) hpiece

/-- Two readings of an object that part at one name only both succeed if no member has that
name. -/
theorem Parallel.inObject (h : Parallel avoided R piece piece')
    (hnames : ∀ a names, Agree anyValues (piece a) (noteName names)) {a x : α} {b : β}
    {names : List String} {c c₁ c₂ : Cursor} (hstart : R a b)
    (hread : Json.inObject (Json.readMembers piece a) c = .ok (x, c₁))
    (hnoted : Json.inObject (Json.readMembers noteName []) c = .ok (names, c₂))
    (havoided : avoided ∉ names) :
    ∃ y, Json.inObject (Json.readMembers piece' b) c = .ok (y, c₁) ∧ R x y :=
  (h.guided hnames).inObject hstart hread hnoted havoided

end Parallel

end Json
end Gatehouse
