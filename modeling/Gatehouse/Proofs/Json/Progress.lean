import Gatehouse.Proofs.Json.Extent

/-!
# What can be stepped over

Stepping over a value asks less of it than reading does: whatever is read can be stepped
over, and the end is the same.  So a reading that steps over what another one reads does not
fail where the other succeeds.

Main results:

- Theorem {lit}`skipQuoted_of_readQuoted`: a string that is read can be stepped over.
- Theorem {lit}`steppedOver_read`: a value that is read can be stepped over.
- Theorem {lit}`SteppedOver.takesValue`: a value ends where it is stepped over to.
- Theorem {lit}`Leads.readMembers`: a reading of the members of an object leads another one
  along if the reading of each member does.
-/

namespace Gatehouse
namespace Json

/-! ## What is left of a text -/

namespace Cursor

@[simp] theorem advance_rest (c : Cursor) : c.advance.rest = c.rest.tail := by
  cases hrest : c.rest with
  | nil => simp [advance, hrest]
  | cons ch rest => simp [advance, hrest]

/-- Behind the next character stands what is left. -/
theorem advance_rest_of_cons {c : Cursor} {ch : Char} {rest : List Char}
    (h : c.rest = ch :: rest) : c.advance.rest = rest := by
  rw [advance_rest, h, List.tail_cons]

/-- What is left behind some characters is the end of what stood there. -/
theorem skipWhile_suffix (test : Char → Bool) (rest : List Char) (line column : Nat) :
    (skipWhile test rest line column).rest <:+ rest := by
  fun_induction skipWhile test rest line column with
  | case1 => exact List.suffix_rfl
  | case2 line column ch more htest line' column' hbehind ih =>
      exact ih.trans (List.suffix_cons ch more)
  | case3 line column ch more htest => exact List.suffix_rfl

theorem skipWhile_length_le (test : Char → Bool) (rest : List Char) (line column : Nat) :
    (skipWhile test rest line column).rest.length ≤ rest.length :=
  (skipWhile_suffix test rest line column).length_le

theorem skipSpace_length_le (c : Cursor) : c.skipSpace.rest.length ≤ c.rest.length :=
  skipWhile_length_le isSpace c.rest c.line c.column

theorem skipDigits_length_le (c : Cursor) : c.skipDigits.rest.length ≤ c.rest.length :=
  skipWhile_length_le Char.isDigit c.rest c.line c.column

theorem advance_length_le (c : Cursor) : c.advance.rest.length ≤ c.rest.length := by
  simp

end Cursor

theorem readWord_length_le {word : List Char} {c c' : Cursor}
    (h : readWord word c = .ok ((), c')) : c'.rest.length ≤ c.rest.length := by
  induction word generalizing c with
  | nil =>
      simp only [readWord, Except.ok.injEq, Prod.mk.injEq, true_and] at h
      exact h ▸ Nat.le_refl _
  | cons ch word ih =>
      simp only [readWord] at h
      split at h
      · simp [Failure.atHere] at h
      · split at h
        · exact Nat.le_trans (ih h) c.advance_length_le
        · simp [Failure.atNext] at h

theorem readHex_length_le {c c' : Cursor} {n : Nat} (h : readHex c = .ok (n, c')) :
    c'.rest.length ≤ c.rest.length := by
  unfold readHex at h
  split at h
  · simp [Failure.atHere] at h
  · split at h
    · simp only [Except.ok.injEq, Prod.mk.injEq] at h
      rw [← h.2]
      simp
    · simp at h

/-- Behind a string there is no more than from its start. -/
theorem stringEnd_length_le {c c' : Cursor} (h : c.stringEnd = some c') :
    c'.rest.length ≤ c.rest.length := by
  unfold Cursor.stringEnd at h
  generalize c.rest = rest, c.line = line, c.column = column at h ⊢
  fun_induction behindQuote rest line column with
  | case1 => exact nomatch h
  | case2 rest line column line' column' hbehind =>
      rw [← Option.some.inj h]
      exact Nat.le_succ _
  | case3 => exact nomatch h
  | case4 line column line' column' escaped rest line'' column'' hbehind' hbehind hquote ih =>
      exact Nat.le_succ_of_le (Nat.le_succ_of_le (ih h))
  | case5 line column ch rest line' column' hbehind hquote hescape ih =>
      exact Nat.le_succ_of_le (ih h)

/-! ## Strings -/

section Strings

variable {escape : Cursor → Except Failure (Char × Cursor)} {fuel : Nat} {read : List Char}
  {c : Cursor} {rest : List Char}

theorem readBody_quote (h : c.rest = '"' :: rest) :
    readBody escape (fuel + 1) read c = .ok (read.reverse, c.advance) := by
  simp only [readBody, h]

theorem readBody_escape (h : c.rest = '\\' :: rest) {ch : Char} {d : Cursor}
    (hescape : escape c.advance = .ok (ch, d)) :
    readBody escape (fuel + 1) read c = readBody escape fuel (ch :: read) d := by
  simp only [readBody, h, hescape]

theorem readBody_refused (h : c.rest = '\\' :: rest) {failure : Failure}
    (hescape : escape c.advance = .error failure) :
    readBody escape (fuel + 1) read c = .error failure := by
  simp only [readBody, h, hescape]

theorem readBody_plain {ch : Char} (h : c.rest = ch :: rest) (hquote : ch ≠ '"')
    (hescape : ch ≠ '\\') (hvisible : ¬ ch.toNat < 0x20) :
    readBody escape (fuel + 1) read c = readBody escape fuel (ch :: read) c.advance := by
  rw [readBody, h]
  simp only [hvisible, if_false]

end Strings

/-- An escape that is read is stepped over, as one escape or, where it is a pair of
surrogates, as two. -/
inductive Escaped (c d : Cursor) : Prop where
  | once {ch : Char} (hskip : skipEscape c = .ok (ch, d))
      (hlength : d.rest.length < c.rest.length)
  | twice {ch ch' : Char} {e : Cursor} {rest : List Char} (hskip : skipEscape c = .ok (ch, e))
      (hrest : e.rest = '\\' :: rest) (hskip' : skipEscape e.advance = .ok (ch', d))
      (hlength : e.rest.length < c.rest.length) (hlength' : d.rest.length + 1 < e.rest.length)

/-- The digits of a code point are stepped over behind their letter. -/
theorem skipEscape_digits {c d : Cursor} {rest : List Char} {n : Nat} (h : c.rest = 'u' :: rest)
    (hdigits : readHex c.advance = .ok (n, d)) : skipEscape c = .ok ('u', d) := by
  simp [skipEscape, h, shortEscape?, hdigits, Except.map]

/-- What is read as an escape can be stepped over. -/
theorem escaped_of_readEscape {c d : Cursor} {ch : Char} (h : readEscape c = .ok (ch, d)) :
    Escaped c d := by
  unfold readEscape at h
  split at h
  · simp [Failure.atHere] at h
  · rename_i first rest hrest
    split at h
    · rename_i decoded hdecoded
      rw [Except.ok.injEq, Prod.mk.injEq] at h
      have hskip : skipEscape c = .ok (decoded, d) := by
        simp only [skipEscape, hrest, hdecoded, h.2]
      exact .once hskip (by simp [← h.2, hrest])
    · split at h
      · rename_i hletter
        rw [hletter] at hrest
        unfold readCodePoint at h
        rcases bind_eq_ok.1 h with ⟨⟨n, e⟩, hfirst, h⟩
        have hlength := readHex_length_le hfirst
        rw [Cursor.advance_rest_of_cons hrest] at hlength
        simp only at h
        split at h
        · simp [Failure.atHere] at h
        split at h
        · -- the second half of the pair is an escape of its own
          rcases bind_eq_ok.1 h with ⟨f, hescape, hafter⟩
          rcases bind_eq_ok.1 hafter with ⟨g, hu, hhalf⟩
          rcases bind_eq_ok.1 hhalf with ⟨⟨m, e'⟩, hsecond, hpaired⟩
          rcases readBetweenHalves_eq_ok hescape with ⟨⟨behind, hbehind⟩, rfl⟩
          rcases readBetweenHalves_eq_ok hu with ⟨⟨more, hmore⟩, rfl⟩
          have hlength' := readHex_length_le hsecond
          rw [Cursor.advance_rest_of_cons hmore] at hlength'
          have hboth : behind = 'u' :: more := by
            rw [← hmore, Cursor.advance_rest_of_cons hbehind]
          split at hpaired
          · simp only [pure, Except.pure, Except.ok.injEq, Prod.mk.injEq] at hpaired
            rw [← hpaired.2]
            refine .twice (skipEscape_digits hrest hfirst) hbehind
              (skipEscape_digits hmore hsecond) ?_ ?_
            · rw [hrest, List.length_cons]
              omega
            · rw [hbehind, hboth, List.length_cons, List.length_cons]
              omega
          · simp [Failure.atHere] at hpaired
        · simp only [pure, Except.pure, Except.ok.injEq, Prod.mk.injEq] at h
          rw [← h.2]
          refine .once (skipEscape_digits hrest hfirst) ?_
          rw [hrest, List.length_cons]
          omega
      · simp [Failure.atNext] at h

/-- The characters of a string that is read can be stepped over, with fuel for each of
them. -/
theorem skipBody_of_readBody {fuel fuel' : Nat} {read chars : List Char} {c c' : Cursor}
    (h : readBody readEscape fuel read c = .ok (chars, c')) (hfuel : c.rest.length < fuel')
    (read' : List Char) :
    ∃ chars', readBody skipEscape fuel' read' c = .ok (chars', c') := by
  induction fuel generalizing read read' c fuel' with
  | zero => simp [readBody, Failure.atHere] at h
  | succ fuel ih =>
      rcases Nat.exists_eq_succ_of_ne_zero (Nat.ne_of_gt (Nat.zero_lt_of_lt hfuel)) with
        ⟨left, rfl⟩
      rw [readBody] at h
      split at h
      · simp [Failure.atHere] at h
      · rename_i rest hrest
        simp only [Except.ok.injEq, Prod.mk.injEq] at h
        exact ⟨read'.reverse, by rw [readBody_quote hrest, h.2]⟩
      · rename_i rest hrest
        have hadvance : c.advance.rest.length + 1 = c.rest.length := by simp [hrest]
        split at h
        · contradiction
        · rename_i ch d hread
          cases escaped_of_readEscape hread with
          | once hskip hlength =>
              rw [readBody_escape hrest hskip]
              exact ih h (by omega) _
          | twice hskip hrest' hskip' hlength hlength' =>
              rcases Nat.exists_eq_succ_of_ne_zero (n := left) (by omega) with ⟨left, rfl⟩
              rw [readBody_escape hrest hskip, readBody_escape hrest' hskip']
              exact ih h (by omega) _
      · rename_i ch rest hquote hescape hrest
        split at h
        · simp [Failure.atHere] at h
        · rename_i hvisible
          have hadvance : c.advance.rest.length + 1 = c.rest.length := by simp [hrest]
          rw [readBody_plain hrest hquote hescape hvisible]
          exact ih h (by omega) _

/-- A string that is read can be stepped over. -/
theorem skipQuoted_of_readQuoted {c c' : Cursor} {s : String} (h : readQuoted c = .ok (s, c')) :
    skipQuoted c = .ok ((), c') := by
  unfold readQuoted at h
  simp only at h
  split at h
  · exact nomatch h
  · rename_i chars d hbody
    simp only [Except.ok.injEq, Prod.mk.injEq] at h
    rcases skipBody_of_readBody hbody (Nat.lt_succ_self _) [] with ⟨chars', hskip⟩
    simp only [skipQuoted, hskip, h.2]

/-! ## Readings that lead others along -/

/-- Whether another reader succeeds wherever a reader does and no more than so many characters
are left, at the same end and with values in some relation; and the reader never goes
back. -/
def Leads {α β : Type} (bound : Nat) (R : α → β → Prop) (r : Reader α) (r' : Reader β) : Prop :=
  ∀ ⦃c c' : Cursor⦄ ⦃a : α⦄, c.rest.length ≤ bound → r c = .ok (a, c') →
    c'.rest.length ≤ c.rest.length ∧ ∃ b, r' c = .ok (b, c') ∧ R a b

section Containers

variable {α β : Type} {bound : Nat} {R : α → β → Prop}

/-- A reading that leads another one along goes along with it. -/
theorem Leads.agree {r : Reader α} {r' : Reader β} (h : ∀ bound, Leads bound R r r') :
    Agree R r r' := by
  intro c c₁ c₂ a b hread hread'
  rcases h c.rest.length (Nat.le_refl _) hread with ⟨-, b', hled, hrelated⟩
  rw [hled, Except.ok.injEq, Prod.mk.injEq] at hread'
  exact ⟨hread'.2, hread'.1 ▸ hrelated⟩

/-- A reading leads another one along if what is made of its values keeps them in
relation. -/
theorem Leads.mapLeft {γ : Type} {S : γ → β → Prop} {r : Reader α} {r' : Reader β} {f : α → γ}
    (h : Leads bound R r r') (hmake : ∀ a b, R a b → S (f a) b) :
    Leads bound S (fun c => do
      let (a, c) ← r c
      return (f a, c)) r' := by
  intro c c' x hbound hread
  rcases return_eq_ok hread with ⟨a, hvalue, rfl⟩
  rcases h hbound hvalue with ⟨hlength, b, hvalue', hrelated⟩
  exact ⟨hlength, b, hvalue', hmake a b hrelated⟩

/-- A reading leads another one along if what the other makes of the values keeps them in
relation. -/
theorem Leads.mapRight {γ : Type} {S : α → γ → Prop} {r : Reader α} {r' : Reader β} {g : β → γ}
    (h : Leads bound R r r') (hmake : ∀ a b, R a b → S a (g b)) :
    Leads bound S r (fun c => do
      let (b, c) ← r' c
      return (g b, c)) := by
  intro c c' a hbound hread
  rcases h hbound hread with ⟨hlength, b, hvalue', hrelated⟩
  exact ⟨hlength, g b, bind_eq_ok.2 ⟨⟨b, c'⟩, hvalue', rfl⟩, hmake a b hrelated⟩

theorem closeList_length_le {c c' : Cursor} (h : closeList c = .ok c') :
    c'.rest.length ≤ c.rest.length := by
  rw [(closeList_ok h).2]
  exact Nat.le_trans (Cursor.advance_length_le _) c.skipSpace_length_le

theorem closeObject_length_le {c c' : Cursor} (h : closeObject c = .ok c') :
    c'.rest.length ≤ c.rest.length := by
  rw [(closeObject_ok h).2]
  exact Nat.le_trans (Cursor.advance_length_le _) c.skipSpace_length_le

/-- A container leads another reading of it along if what stands behind its bracket does. -/
theorem Leads.enclosed (wrap : {γ : Type} → Reader γ → Reader γ)
    {close : Cursor → Except Failure Cursor}
    (hwrap : ∀ {γ : Type} {body : Reader γ} {c c' : Cursor} {x : γ},
      wrap body c = .ok (x, c') ↔ ∃ d, body c.advance = .ok (x, d) ∧ close d = .ok c')
    (hclose : ∀ {c c' : Cursor}, close c = .ok c' → c'.rest.length ≤ c.rest.length)
    {body : Reader α} {body' : Reader β} (h : Leads bound R body body') :
    Leads (bound + 1) R (wrap body) (wrap body') := by
  intro c c' a hbound hread
  rcases hwrap.1 hread with ⟨d, hbody, hend⟩
  have hbehind : c.advance.rest.length ≤ bound := by
    rw [Cursor.advance_rest, List.length_tail]
    omega
  rcases h hbehind hbody with ⟨hlength, b, hbody', hvalues⟩
  refine ⟨?_, b, hwrap.2 ⟨d, hbody', hend⟩, hvalues⟩
  exact Nat.le_trans (hclose hend) (Nat.le_trans hlength c.advance_length_le)

/-- A list leads another reading of it along if what stands behind its bracket does. -/
theorem Leads.inList {body : Reader α} {body' : Reader β} (h : Leads bound R body body') :
    Leads (bound + 1) R (inList body) (inList body') :=
  h.enclosed Json.inList inList_eq_ok closeList_length_le

/-- An object leads another reading of it along if what stands behind its brace does. -/
theorem Leads.inObject {body : Reader α} {body' : Reader β} (h : Leads bound R body body') :
    Leads (bound + 1) R (inObject body) (inObject body') :=
  h.enclosed Json.inObject inObject_eq_ok closeObject_length_le

/-- Looking for a further piece never goes back. -/
def Onward (more : Bool → Cursor → Except Failure (Bool × Cursor)) : Prop :=
  ∀ {first goesOn : Bool} {c c' : Cursor}, more first c = .ok (goesOn, c') →
    c'.rest.length ≤ c.rest.length

theorem onward_hasItem : Onward hasItem := by
  intro first goesOn c c' h
  have hspace := c.skipSpace_length_le
  have hcomma : c.skipSpace.advance.skipSpace.rest.length ≤ c.rest.length :=
    Nat.le_trans (Cursor.skipSpace_length_le _)
      (Nat.le_trans (Cursor.advance_length_le _) hspace)
  simp only [hasItem, Failure.atNext] at h
  split at h
  · contradiction
  · rw [Except.ok.injEq, Prod.mk.injEq] at h
    exact h.2 ▸ hspace
  · split at h
    · rw [Except.ok.injEq, Prod.mk.injEq] at h
      exact h.2 ▸ hspace
    · split at h
      · split at h
        · contradiction
        · contradiction
        · rw [Except.ok.injEq, Prod.mk.injEq] at h
          exact h.2 ▸ hcomma
      · contradiction

theorem onward_hasMember : Onward hasMember := by
  intro first goesOn c c' h
  have hspace := c.skipSpace_length_le
  have hcomma : c.skipSpace.advance.skipSpace.rest.length ≤ c.rest.length :=
    Nat.le_trans (Cursor.skipSpace_length_le _)
      (Nat.le_trans (Cursor.advance_length_le _) hspace)
  simp only [hasMember, Failure.atNext] at h
  split at h
  · contradiction
  · rw [Except.ok.injEq, Prod.mk.injEq] at h
    exact h.2 ▸ hspace
  · split at h
    · split at h
      · rw [Except.ok.injEq, Prod.mk.injEq] at h
        exact h.2 ▸ hspace
      · contradiction
    · split at h
      · split at h
        · contradiction
        · rw [Except.ok.injEq, Prod.mk.injEq] at h
          exact h.2 ▸ hcomma
        · contradiction
        · contradiction
      · contradiction

/-- A reading of pieces leads another one along if that of each piece does. -/
theorem Leads.foldPieces {more : Bool → Cursor → Except Failure (Bool × Cursor)} {cause : Cause}
    {piece : α → Reader α} {piece' : β → Reader β} (hmore : Onward more)
    (hpiece : ∀ a b, R a b → Leads bound R (piece a) (piece' b)) (fuel : Nat) (first : Bool)
    {a : α} {b : β} (hstart : R a b) :
    Leads bound R (foldPieces more cause piece fuel first a)
      (foldPieces more cause piece' fuel first b) := by
  induction fuel generalizing first a b with
  | zero =>
      intro c c' x hbound hread
      simp [Json.foldPieces, Failure.atNext] at hread
  | succ fuel ih =>
      intro c c' x hbound hread
      simp only [Json.foldPieces] at hread ⊢
      cases hnext : more first c with
      | error failure => simp [hnext] at hread
      | ok result =>
          rcases result with ⟨goesOn, d⟩
          have hd := hmore hnext
          cases goesOn with
          | false =>
              simp only [hnext, Except.ok.injEq, Prod.mk.injEq] at hread
              rcases hread with ⟨rfl, rfl⟩
              exact ⟨hd, b, rfl, hstart⟩
          | true =>
              simp only [hnext] at hread
              split at hread
              · contradiction
              · rename_i a' e hfirst
                rcases hpiece a b hstart (Nat.le_trans hd hbound) hfirst with
                  ⟨he, b', hfirst', hvalues⟩
                have hc := Nat.le_trans he hd
                rcases ih false hvalues (Nat.le_trans hc hbound) hread with
                  ⟨hend, y, hread', hrelated⟩
                refine ⟨Nat.le_trans hend hc, y, ?_, hrelated⟩
                simp only [hfirst', hread']

/-- A reading of all items of a list leads another one along if that of each item does. -/
theorem Leads.readItems {item : α → Reader α} {item' : β → Reader β}
    (hitem : ∀ a b, R a b → Leads bound R (item a) (item' b)) {a : α} {b : β}
    (hstart : R a b) : Leads bound R (readItems item a) (readItems item' b) := by
  intro c _ _ hbound hread
  unfold Json.readItems at hread ⊢
  rw [foldItems_eq_foldPieces] at hread ⊢
  exact Leads.foldPieces onward_hasItem hitem _ true hstart hbound hread

/-- A reading of all members of an object leads another one along if that of each member
does. -/
theorem Leads.readMembers {member : α → Reader α} {member' : β → Reader β}
    (hmember : ∀ a b, R a b → Leads bound R (member a) (member' b)) {a : α} {b : β}
    (hstart : R a b) : Leads bound R (readMembers member a) (readMembers member' b) := by
  intro c _ _ hbound hread
  unfold Json.readMembers at hread ⊢
  rw [foldMembers_eq_foldPieces] at hread ⊢
  exact Leads.foldPieces onward_hasMember hmember _ true hstart hbound hread

end Containers

theorem readColon_length_le {c c' : Cursor} (h : readColon c = .ok c') :
    c'.rest.length ≤ c.rest.length := by
  simp only [readColon] at h
  split at h
  · simp [Failure.atNext] at h
  · rw [← Except.ok.inj h]
    exact Nat.le_trans (Cursor.advance_length_le _) c.skipSpace_length_le
  · simp [Failure.atNext] at h

/-- A reading of a member leads another one along if those of its key and of its value
do. -/
theorem Leads.behindKey {α β γ δ : Type} {bound : Nat} {Q : α → β → Prop} {S : γ → δ → Prop}
    {k : Reader α} {l : Reader β} {v : α → Reader γ} {w : β → Reader δ}
    (hkey : Leads bound Q k l) (hvalue : ∀ a b, Q a b → Leads bound S (v a) (w b)) :
    Leads bound S
      (fun c => do
        let (a, c) ← k c
        let c ← readColon c
        v a c)
      (fun c => do
        let (b, c) ← l c
        let c ← readColon c
        w b c) := by
  intro c c' x hbound hread
  rcases bind_eq_ok.1 hread with ⟨⟨a, d⟩, hfirst, hbehind⟩
  rcases bind_eq_ok.1 hbehind with ⟨e, hcolon, hlast⟩
  rcases hkey hbound hfirst with ⟨hd, b, hfirst', hkeys⟩
  have he := Nat.le_trans (readColon_length_le hcolon) hd
  rcases hvalue a b hkeys (Nat.le_trans he hbound) hlast with ⟨hend, y, hlast', hvalues⟩
  refine ⟨Nat.le_trans hend he, y, ?_, hvalues⟩
  exact bind_eq_ok.2 ⟨⟨b, d⟩, hfirst', bind_eq_ok.2 ⟨e, hcolon, hlast'⟩⟩

/-! ## Values -/

/-- A string that is read can be stepped over. -/
theorem leads_readQuoted (bound : Nat) : Leads bound anyValues readQuoted skipQuoted := by
  intro c c' s hbound hread
  have hlength := stringEnd_length_le (stringEnd_of_readQuoted hread)
  exact ⟨Nat.le_trans hlength c.advance_length_le, (), skipQuoted_of_readQuoted hread, trivial⟩

theorem skipSomeDigits_length_le {c c' : Cursor} (h : skipSomeDigits c = .ok c') :
    c'.rest.length ≤ c.rest.length := by
  unfold skipSomeDigits at h
  split at h
  · rw [← Except.ok.inj h]
    exact c.skipDigits_length_le
  · simp [Failure.atNext] at h

theorem skipExponent_length_le {c c' : Cursor} (h : skipExponent c = .ok ((), c')) :
    c'.rest.length ≤ c.rest.length := by
  unfold skipExponent at h
  split at h
  · rcases bind_eq_ok.1 h with ⟨d, hdigits, hreturn⟩
    simp only [pure, Except.pure, Except.ok.injEq, Prod.mk.injEq, true_and] at hreturn
    rw [← hreturn]
    refine Nat.le_trans (skipSomeDigits_length_le hdigits) ?_
    split
    · exact Nat.le_trans (Cursor.advance_length_le _) c.advance_length_le
    · exact c.advance_length_le
  · simp only [pure, Except.pure, Except.ok.injEq, Prod.mk.injEq, true_and] at h
    exact h ▸ Nat.le_refl _

theorem skipWhole_length_le {c c' : Cursor} (h : skipWhole c = .ok c') :
    c'.rest.length ≤ c.rest.length := by
  unfold skipWhole at h
  split at h
  · split at h
    · simp [Failure.atNext] at h
    · exact Except.ok.inj h ▸ c.advance_length_le
  · exact skipSomeDigits_length_le h

theorem skipAfterWhole_length_le {c c' : Cursor} (h : skipAfterWhole c = .ok ((), c')) :
    c'.rest.length ≤ c.rest.length := by
  unfold skipAfterWhole at h
  dsimp only at h
  split at h
  · rcases bind_eq_ok.1 h with ⟨d, hdigits, hexponent⟩
    have hd := Nat.le_trans (skipSomeDigits_length_le hdigits) c.advance_length_le
    exact Nat.le_trans (skipExponent_length_le hexponent) hd
  · exact skipExponent_length_le h

theorem skipNumber_length_le {c c' : Cursor} (h : skipNumber c = .ok ((), c')) :
    c'.rest.length ≤ c.rest.length := by
  rw [skipNumber_eq] at h
  rcases bind_eq_ok.1 h with ⟨d, hwhole, hafter⟩
  have hd : d.rest.length ≤ c.rest.length := by
    refine Nat.le_trans (skipWhole_length_le hwhole) ?_
    split
    · exact c.advance_length_le
    · exact Nat.le_refl _
  exact Nat.le_trans (skipAfterWhole_length_le hafter) hd

/-- Whether what a reader reads can be stepped over, with fuel for the characters that are
left. -/
def SteppedOver {α : Type} (r : Reader α) : Prop :=
  ∀ fuel, Leads fuel anyValues r (skipValueWith (fuel + 1))

/-- What is read can be stepped over if it can wherever at least one character's fuel is
left. -/
theorem steppedOver_of_skip {α : Type} {r : Reader α}
    (h : ∀ {fuel : Nat} {c c' : Cursor} {a : α}, c.rest.length ≤ fuel → r c = .ok (a, c') →
      c'.rest.length ≤ c.rest.length ∧ skipValueWith (fuel + 1) c = .ok ((), c')) :
    SteppedOver r := by
  intro fuel c c' a hbound hread
  rcases h hbound hread with ⟨hlength, hskip⟩
  exact ⟨hlength, (), hskip, trivial⟩

/-- A word that is read behind its first letter never goes back. -/
theorem length_le_of_word {word : List Char} {c c' : Cursor}
    (h : readWord word c.skipSpace.advance = .ok ((), c')) : c'.rest.length ≤ c.rest.length :=
  Nat.le_trans (readWord_length_le h)
    (Nat.le_trans (Cursor.advance_length_le _) c.skipSpace_length_le)

/-- A string behind blanks that is read can be stepped over. -/
theorem skipQuoted_behind_space {c c' : Cursor} {s : String}
    (h : readQuoted c.skipSpace = .ok (s, c')) :
    c'.rest.length ≤ c.rest.length ∧ skipQuoted c.skipSpace = .ok ((), c') := by
  rcases leads_readQuoted _ (Nat.le_refl _) h with ⟨hlength, ⟨⟩, hskip, -⟩
  exact ⟨Nat.le_trans hlength c.skipSpace_length_le, hskip⟩

/-- A number behind blanks that is read can be stepped over. -/
theorem skipNumber_behind_space {c c' : Cursor} {n : Number}
    (h : readNumber c.skipSpace = .ok (n, c')) :
    c'.rest.length ≤ c.rest.length ∧ skipNumber c.skipSpace = .ok ((), c') := by
  have hskip := skipNumber_of_readNumber h
  exact ⟨Nat.le_trans (skipNumber_length_le hskip) c.skipSpace_length_le, hskip⟩

/-- A key with a value that is read can be stepped over. -/
theorem SteppedOver.readPair {α : Type} {r : Reader α} (h : SteppedOver r) (fuel : Nat) :
    Leads fuel anyValues (readPair r) (skipPair (fuel + 1)) :=
  Leads.behindKey (v := fun key c => do
    let (a, c) ← r c
    return ((key, a), c)) (leads_readQuoted fuel) fun _ _ _ => (h fuel).mapLeft fun _ _ h => h

/-- A value that is read can be stepped over. -/
theorem steppedOver_read (depth : Nat) : SteppedOver (Value.read depth) := by
  induction depth with
  | zero =>
      intro fuel c c' v hbound hread
      simp [Value.read, Failure.atNext] at hread
  | succ depth ih =>
      refine steppedOver_of_skip fun {fuel c c' v} hbound hread => ?_
      have hspace := c.skipSpace_length_le
      simp only [Value.read] at hread
      split at hread
      · simp [Failure.atNext] at hread
      case h_2 rest hrest | h_3 rest hrest | h_4 rest hrest =>
        rcases return_eq_ok hread with ⟨⟨⟩, hword, -⟩
        exact ⟨length_le_of_word hword, by simpa only [skipValueWith, hrest] using hword⟩
      case h_5 rest hrest =>
        rcases return_eq_ok hread with ⟨s, hstring, -⟩
        simpa only [skipValueWith, hrest] using skipQuoted_behind_space hstring
      case h_6 rest hrest =>
        cases fuel with
        | zero => simp [hrest] at hspace; omega
        | succ fuel =>
            have hitems := Leads.readItems (a := []) (b := ())
              (fun items _ _ => (ih fuel).mapLeft (S := anyValues) (f := (· :: items))
                fun _ _ h => h) trivial
            have hvalue := hitems.mapLeft (S := anyValues)
              (f := fun items => Value.array items.reverse) fun _ _ h => h
            rcases hvalue.inList (Nat.le_trans hspace hbound) (nested_eq_ok hread) with
              ⟨hlength, ⟨⟩, hskip, -⟩
            exact ⟨Nat.le_trans hlength hspace, by simpa only [skipValueWith, hrest] using hskip⟩
      case h_7 rest hrest =>
        cases fuel with
        | zero => simp [hrest] at hspace; omega
        | succ fuel =>
            have hmembers := Leads.readMembers (a := []) (b := ())
              (fun members _ _ => (SteppedOver.readPair ih fuel).mapLeft (S := anyValues)
                (f := (· :: members)) fun _ _ h => h) trivial
            have hvalue := hmembers.mapLeft (S := anyValues)
              (f := fun members => Value.object members.reverse) fun _ _ h => h
            rcases hvalue.inObject (Nat.le_trans hspace hbound) (nested_eq_ok hread) with
              ⟨hlength, ⟨⟩, hskip, -⟩
            refine ⟨Nat.le_trans hlength hspace, ?_⟩
            rw [skipValueWith]
            simp only [hrest]
            exact hskip
      case h_8 ch rest hnull htrue hfalse hquote hlist hobject hrest =>
        split at hread
        · rename_i hfirst
          rcases return_eq_ok hread with ⟨n, hnumber, -⟩
          rw [skipValueWith_number hrest hfirst]
          exact skipNumber_behind_space hnumber
        · simp [Failure.atNext] at hread

/-- A key with a value that is stepped over can be stepped over with any fuel that is
enough. -/
theorem SteppedOver.skipPair {spent : Nat} (h : SteppedOver (skipValueWith spent)) (fuel : Nat) :
    Leads fuel anyValues (skipPair spent) (skipPair (fuel + 1)) := by
  refine Leads.behindKey (Q := anyValues) (v := fun _ => skipValueWith spent) ?_
    fun _ _ _ => h fuel
  intro c c' u hbound hskip
  have hlength := stringEnd_length_le (stringEnd_of_skipQuoted hskip)
  exact ⟨Nat.le_trans hlength c.advance_length_le, u, hskip, trivial⟩

/-- A value that is stepped over can be stepped over with any fuel that is enough. -/
theorem steppedOver_skipValueWith (spent : Nat) : SteppedOver (skipValueWith spent) := by
  induction spent with
  | zero =>
      intro fuel c c' u hbound hskip
      simp [skipValueWith, Failure.atNext] at hskip
  | succ spent ih =>
      refine steppedOver_of_skip fun {fuel c c' u} hbound hskip => ?_
      have hspace := c.skipSpace_length_le
      cases skipped_of_skipValueWith hskip with
      | null hrest hword | yes hrest hword | no hrest hword =>
          exact ⟨length_le_of_word hword, by simpa only [skipValueWith, hrest] using hword⟩
      | string hrest hend =>
          have hquoted : skipQuoted c.skipSpace = .ok ((), c') := by
            simpa only [skipValueWith, hrest] using hskip
          have hlength := Nat.le_trans (stringEnd_length_le hend) (Cursor.advance_length_le _)
          exact ⟨Nat.le_trans hlength hspace, by simpa only [skipValueWith, hrest] using hquoted⟩
      | list hrest hlist =>
          cases fuel with
          | zero => simp [hrest] at hspace; omega
          | succ fuel =>
              have hitems := Leads.readItems (a := ()) (b := ()) (fun _ _ _ => ih fuel) trivial
              rcases hitems.inList (Nat.le_trans hspace hbound) hlist with
                ⟨hlength, ⟨⟩, hled, -⟩
              exact ⟨Nat.le_trans hlength hspace, by
                simpa only [skipValueWith, hrest] using hled⟩
      | object hrest hobject =>
          cases fuel with
          | zero => simp [hrest] at hspace; omega
          | succ fuel =>
              have hmembers := Leads.readMembers (a := ()) (b := ())
                (fun _ _ _ => SteppedOver.skipPair ih fuel) trivial
              rcases hmembers.inObject (Nat.le_trans hspace hbound) hobject with
                ⟨hlength, ⟨⟩, hled, -⟩
              refine ⟨Nat.le_trans hlength hspace, ?_⟩
              rw [skipValueWith]
              simp only [hrest]
              exact hled
      | number hrest hfirst hnumber =>
          rw [skipValueWith_number hrest hfirst]
          exact ⟨Nat.le_trans (skipNumber_length_le hnumber) hspace, hnumber⟩

/-- A value that is stepped over can be stepped over with any fuel that is enough. -/
theorem steppedOver_skipValue : SteppedOver skipValue :=
  fun fuel c _ _ hbound hskip => steppedOver_skipValueWith (c.rest.length + 1) fuel hbound hskip

/-! ## Typed values -/

/-- A string that is asked for can be stepped over. -/
theorem steppedOver_readText (expected : String) : SteppedOver (readText expected) := by
  refine steppedOver_of_skip fun {fuel c c' s} hbound hread => ?_
  simp only [readText] at hread
  split at hread
  · simp [Failure.atNext] at hread
  · rename_i rest hrest
    simpa only [skipValueWith, hrest] using skipQuoted_behind_space hread
  · exact absurd hread refuseKind_ne_ok

/-- A natural number that is asked for can be stepped over. -/
theorem steppedOver_readWord64 : SteppedOver readWord64 := by
  refine steppedOver_of_skip fun {fuel c c' word} hbound hread => ?_
  simp only [readWord64] at hread
  split at hread
  · simp [Failure.atNext] at hread
  · rename_i ch rest hrest
    split at hread
    · rename_i hfirst
      rcases bind_eq_ok.1 hread with ⟨⟨n, d⟩, hnumber, hword⟩
      simp only at hword
      split at hword
      · rw [Except.ok.injEq, Prod.mk.injEq] at hword
        rw [hword.2] at hnumber
        rw [skipValueWith_number hrest hfirst]
        exact skipNumber_behind_space hnumber
      · simp [Failure.atHere] at hword
    · exact absurd hread refuseKind_ne_ok

/-- A value or null can be stepped over if the value can. -/
theorem SteppedOver.readOptional {α : Type} {r : Reader α} (h : SteppedOver r) :
    SteppedOver (readOptional r) := by
  refine steppedOver_of_skip fun {fuel c c' a} hbound hread => ?_
  have hspace := c.skipSpace_length_le
  simp only [Json.readOptional] at hread
  split at hread
  · rename_i rest hrest
    rcases return_eq_ok hread with ⟨⟨⟩, hword, -⟩
    exact ⟨length_le_of_word hword, by simpa only [skipValueWith, hrest] using hword⟩
  · have hsome := (h fuel).mapLeft (S := anyValues) (f := some) fun _ _ h => h
    rcases hsome (Nat.le_trans hspace hbound) hread with ⟨hlength, ⟨⟩, hskip, -⟩
    rw [skipValueWith_skipSpace] at hskip
    exact ⟨Nat.le_trans hlength hspace, hskip⟩

/-- What can be stepped over with the fuel that is left can be stepped over. -/
theorem SteppedOver.leads {α : Type} {r : Reader α} (h : SteppedOver r) (bound : Nat) :
    Leads bound anyValues r skipValue :=
  fun c _ _ _ hread => h c.rest.length (Nat.le_refl _) hread

/-- What can be stepped over takes the whole value. -/
theorem SteppedOver.takesValue {α : Type} {r : Reader α} (h : SteppedOver r) : TakesValue r := by
  intro fuel c c₁ c₂ a u hread hskip
  rcases h.leads _ (Nat.le_refl _) hread with ⟨-, ⟨⟩, hend, -⟩
  rcases (steppedOver_skipValueWith fuel).leads _ (Nat.le_refl _) hskip with ⟨-, ⟨⟩, hend', -⟩
  rw [hend, Except.ok.injEq, Prod.mk.injEq] at hend'
  exact ⟨hend'.2, trivial⟩

/-- What can be stepped over goes along with whatever takes the whole value. -/
theorem SteppedOver.agree {α β : Type} {r : Reader α} {r' : Reader β} (h : SteppedOver r)
    (h' : TakesValue r') : Agree anyValues r r' := by
  intro c c₁ c₂ a b hread hread'
  rcases h.leads _ (Nat.le_refl _) hread with ⟨-, ⟨⟩, hskip, -⟩
  exact ⟨(h'.agree hread' hskip).1.symm, trivial⟩

end Json
end Gatehouse
