import Gatehouse.Json.Scalar

/-!
# Where strings and numbers end

A string ends at the first quote that is not escaped, whether it is read or stepped over.
Whatever number is read can be stepped over, too.

Main results:

- Theorem {lit}`stringEnd_of_readQuoted`: where a string ends that is read.
- Theorem {lit}`stringEnd_of_skipQuoted`: where a string ends that is stepped over.
- Theorem {lit}`skipNumber_of_readNumber`: a number that is read can be stepped over.
-/

namespace Gatehouse
namespace Json

/-- A chain of two steps succeeds exactly if both do. -/
theorem bind_eq_ok {ε α β : Type} {x : Except ε α} {f : α → Except ε β} {b : β} :
    (x >>= f) = .ok b ↔ ∃ a, x = .ok a ∧ f a = .ok b := by
  cases x with
  | error e => simp [bind, Except.bind]
  | ok a => simp [bind, Except.bind]

/-- What is returned is what was made of the value before. -/
theorem return_eq_ok {α β : Type} {make : α × Cursor → β} {x : Except Failure (α × Cursor)} {b : β}
    {c' : Cursor} (h : (do
      let result ← x
      return (make result, result.2)) = (.ok (b, c') : Except Failure (β × Cursor))) :
    ∃ a, x = .ok (a, c') ∧ b = make (a, c') := by
  rcases bind_eq_ok.1 h with ⟨⟨a, d⟩, hx, hreturn⟩
  simp only [pure, Except.pure, Except.ok.injEq, Prod.mk.injEq] at hreturn
  rcases hreturn with ⟨rfl, rfl⟩
  exact ⟨a, hx, rfl⟩

/-! ## Strings -/

/-- The cursor behind the first quote that is not escaped. -/
def behindQuote : List Char → Nat → Nat → Option Cursor
  | [], _, _ => none
  | ch :: rest, line, column =>
      let (line, column) := Cursor.behind ch line column
      if ch = '"' then some ⟨rest, line, column⟩
      else if ch = '\\' then
        match rest with
        | [] => none
        | escaped :: rest =>
            let (line, column) := Cursor.behind escaped line column
            behindQuote rest line column
      else behindQuote rest line column

namespace Cursor

/-- The cursor behind the string whose characters start at a cursor. -/
def stringEnd (c : Cursor) : Option Cursor := behindQuote c.rest c.line c.column

theorem stringEnd_quote {c : Cursor} {rest : List Char} (h : c.rest = '"' :: rest) :
    c.stringEnd = some c.advance := by
  simp [stringEnd, behindQuote, advance, h]

/-- An escaped character is part of the string. -/
theorem stringEnd_escape {c : Cursor} {escaped : Char} {rest : List Char}
    (h : c.rest = '\\' :: escaped :: rest) : c.stringEnd = c.advance.advance.stringEnd := by
  simp [stringEnd, behindQuote, advance, h]

/-- Any other character is part of the string. -/
theorem stringEnd_plain {c : Cursor} {ch : Char} {rest : List Char} (h : c.rest = ch :: rest)
    (hquote : ch ≠ '"') (hescape : ch ≠ '\\') : c.stringEnd = c.advance.stringEnd := by
  simp [stringEnd, behindQuote, advance, h, hquote, hescape]

end Cursor

/-- A hexadecimal digit is no mark of a string and takes one byte. -/
theorem hexDigit_plain {ch : Char} (h : (Text.hexValue? ch).isSome = true) :
    ch ≠ '"' ∧ ch ≠ '\\' ∧ ch ≠ '\n' ∧ ch.utf8Size = 1 := by
  rcases Option.isSome_iff_exists.1 h with ⟨n, hvalue⟩
  have hsmall : ch.toNat ≤ 0x66 := by
    simp only [Text.hexValue?] at hvalue
    split at hvalue
    · rename_i hdigit
      simp only [Char.isDigit, Bool.and_eq_true, decide_eq_true_eq] at hdigit
      exact Nat.le_trans hdigit.2 (by decide)
    split at hvalue
    · omega
    split at hvalue
    · omega
    · simp at hvalue
  refine ⟨?_, ?_, ?_, ?_⟩
  · rintro rfl
    simp [Text.hexValue?] at hvalue
  · rintro rfl
    simp [Text.hexValue?] at hvalue
  · rintro rfl
    simp [Text.hexValue?] at hvalue
  · rw [Char.utf8Size_eq_one_iff]
    exact UInt32.le_iff_toNat_le.2 (Nat.le_trans hsmall (by decide))

/-- Two hexadecimal digits behind two zeros denote the number of seven bits that they are those
of. -/
theorem ofHex?_pair : ∀ n < 128,
    Text.ofHex? ['0', '0', Text.hexChar (n / 16), Text.hexChar (n % 16)] = some n := by
  decide

/-- Only hexadecimal digits denote a number. -/
theorem isSome_hexValue?_of_ofHex? {cs : List Char} {n : Nat} (h : Text.ofHex? cs = some n) :
    ∀ ch ∈ cs, (Text.hexValue? ch).isSome = true := by
  have hfold : ∀ (cs : List Char) (x : Option Nat),
      (cs.foldl (fun n c => n.bind fun n => (Text.hexValue? c).map (n * 16 + ·)) x).isSome =
          true →
        x.isSome = true ∧ ∀ ch ∈ cs, (Text.hexValue? ch).isSome = true := by
    intro cs
    induction cs with
    | nil => exact fun x hsome => ⟨hsome, by simp⟩
    | cons ch cs ih =>
        intro x hsome
        rcases ih _ hsome with ⟨hfirst, hrest⟩
        cases x with
        | none => simp at hfirst
        | some n => exact ⟨rfl, List.forall_mem_cons.2 ⟨by simpa using hfirst, hrest⟩⟩
  exact (hfold cs (some 0) (by rw [Text.ofHex?] at h; rw [h]; rfl)).2

/-- Hexadecimal digits are part of the string. -/
theorem stringEnd_hexDigits {count : Nat} {rest : List Char} {line column : Nat}
    {position : Position}
    (hposition : Cursor.positionAfter count rest line column = some position)
    (hdigits : ∀ ch ∈ rest.take count, (Text.hexValue? ch).isSome = true) :
    Cursor.stringEnd ⟨rest, line, column⟩ =
      Cursor.stringEnd ⟨rest.drop count, position.line, position.column⟩ := by
  induction count generalizing rest line column with
  | zero =>
      rw [Cursor.positionAfter.eq_def, if_pos rfl, Option.some.injEq] at hposition
      rw [← hposition, List.drop_zero]
  | succ count ih =>
      rw [Cursor.positionAfter.eq_def, if_neg (Nat.succ_ne_zero count)] at hposition
      cases rest with
      | nil => simp at hposition
      | cons ch more =>
          rw [List.take_succ_cons, List.forall_mem_cons] at hdigits
          rcases hexDigit_plain hdigits.1 with ⟨hquote, hescape, hnewline, hsize⟩
          have hplain := Cursor.stringEnd_plain (c := ⟨ch :: more, line, column⟩) rfl hquote
            hescape
          simp only [hsize, Nat.le_add_left, if_true, Cursor.behind, if_neg hnewline,
            Nat.add_sub_cancel] at hposition
          rw [hplain, List.drop_succ_cons, ← ih hposition hdigits.2]
          simp [Cursor.advance, Cursor.behind, hnewline, hsize]

/-- The digits of an escaped code point are part of the string. -/
theorem stringEnd_readHex {c c' : Cursor} {n : Nat} (h : readHex c = .ok (n, c')) :
    c.stringEnd = c'.stringEnd := by
  unfold readHex at h
  split at h
  · simp [Failure.atHere] at h
  · rename_i position hposition
    split at h
    · rename_i number hnumber
      simp only [Except.ok.injEq, Prod.mk.injEq] at h
      rw [← h.2]
      exact stringEnd_hexDigits hposition (isSome_hexValue?_of_ofHex? hnumber)
    · simp at h

/-- What stands between the halves of a surrogate pair. -/
theorem readBetweenHalves_eq_ok {ch : Char} {c c' : Cursor}
    (h : readBetweenHalves ch c = .ok c') : (∃ rest, c.rest = ch :: rest) ∧ c' = c.advance := by
  unfold readBetweenHalves at h
  split at h
  · simp [Failure.atHere] at h
  · rename_i first rest hrest
    split at h
    · rename_i hsame
      rw [Except.ok.injEq] at h
      exact ⟨⟨rest, by rw [hrest, hsame]⟩, h.symm⟩
    · simp [Failure.atNext] at h

/-- The digits of a code point, or of two surrogates, are part of the string. -/
theorem stringEnd_readCodePoint {c c' : Cursor} {ch : Char}
    (h : readCodePoint c = .ok (ch, c')) : c.stringEnd = c'.stringEnd := by
  unfold readCodePoint at h
  rcases bind_eq_ok.1 h with ⟨⟨n, first⟩, hfirst, h⟩
  have hstart := stringEnd_readHex hfirst
  simp only at h
  split at h
  · simp [Failure.atHere] at h
  split at h
  · rcases bind_eq_ok.1 h with ⟨escape, hescape, hafter⟩
    rcases bind_eq_ok.1 hafter with ⟨letter, hletter, hhalf⟩
    rcases bind_eq_ok.1 hhalf with ⟨⟨m, second⟩, hsecond, hpaired⟩
    rcases readBetweenHalves_eq_ok hescape with ⟨⟨rest, hrest⟩, rfl⟩
    rcases readBetweenHalves_eq_ok hletter with ⟨⟨more, hmore⟩, rfl⟩
    have hpair : first.rest = '\\' :: 'u' :: more := by
      have hadvance : first.advance.rest = rest := by simp [Cursor.advance, hrest]
      rw [hrest, ← hadvance, hmore]
    split at hpaired
    · simp only [pure, Except.pure, Except.ok.injEq, Prod.mk.injEq] at hpaired
      rw [hstart, Cursor.stringEnd_escape hpair, stringEnd_readHex hsecond, hpaired.2]
    · simp [Failure.atHere] at hpaired
  · simp only [pure, Except.pure, Except.ok.injEq, Prod.mk.injEq] at h
    rw [hstart, h.2]

/-- Whether an escape that is read is part of the string. -/
def KeepsStringEnd (escape : Cursor → Except Failure (Char × Cursor)) : Prop :=
  ∀ {c c' : Cursor} {ch : Char}, escape c = .ok (ch, c') →
    (∃ first rest, c.rest = first :: rest) ∧ c.advance.stringEnd = c'.stringEnd

theorem keepsStringEnd_readEscape : KeepsStringEnd readEscape := by
  intro c c' ch h
  unfold readEscape at h
  split at h
  · simp [Failure.atHere] at h
  · rename_i first rest hrest
    refine ⟨⟨first, rest, hrest⟩, ?_⟩
    split at h
    · simp only [Except.ok.injEq, Prod.mk.injEq] at h
      rw [h.2]
    · split at h
      · exact stringEnd_readCodePoint h
      · simp [Failure.atNext] at h

theorem keepsStringEnd_skipEscape : KeepsStringEnd skipEscape := by
  intro c c' ch h
  unfold skipEscape at h
  split at h
  · simp [Failure.atHere] at h
  · rename_i first rest hrest
    refine ⟨⟨first, rest, hrest⟩, ?_⟩
    split at h
    · simp only [Except.ok.injEq, Prod.mk.injEq] at h
      rw [h.2]
    · split at h
      · cases hhex : readHex c.advance with
        | error failure => simp [hhex, Except.map] at h
        | ok result =>
            rcases result with ⟨n, behind⟩
            simp only [hhex, Except.map, Except.ok.injEq, Prod.mk.injEq] at h
            rw [← h.2]
            exact stringEnd_readHex hhex
      · simp [Failure.atNext] at h

/-- A string ends at the first quote that is not escaped. -/
theorem stringEnd_of_readBody {escape : Cursor → Except Failure (Char × Cursor)}
    (hescape : KeepsStringEnd escape) {fuel : Nat} {read chars : List Char} {c c' : Cursor}
    (h : readBody escape fuel read c = .ok (chars, c')) : c.stringEnd = some c' := by
  induction fuel generalizing read c with
  | zero => simp [readBody, Failure.atHere] at h
  | succ fuel ih =>
      rw [readBody] at h
      split at h
      · simp [Failure.atHere] at h
      · rename_i rest hrest
        simp only [Except.ok.injEq, Prod.mk.injEq] at h
        rw [Cursor.stringEnd_quote hrest, h.2]
      · rename_i rest hrest
        split at h
        · simp at h
        · rename_i ch behind hread
          rcases hescape hread with ⟨⟨first, more, hmore⟩, hend⟩
          have hpair : c.rest = '\\' :: first :: more := by
            have hadvance : c.advance.rest = rest := by simp [Cursor.advance, hrest]
            rw [hrest, ← hadvance, hmore]
          rw [Cursor.stringEnd_escape hpair, hend]
          exact ih h
      · rename_i ch rest hquote hescaped hrest
        split at h
        · simp [Failure.atHere] at h
        · rw [Cursor.stringEnd_plain hrest hquote hescaped]
          exact ih h

/-- A string that is read ends at the first quote that is not escaped. -/
theorem stringEnd_of_readQuoted {c c' : Cursor} {s : String} (h : readQuoted c = .ok (s, c')) :
    c.advance.stringEnd = some c' := by
  unfold readQuoted at h
  simp only at h
  split at h
  · simp at h
  · rename_i chars behind hbody
    simp only [Except.ok.injEq, Prod.mk.injEq] at h
    rw [← h.2]
    exact stringEnd_of_readBody keepsStringEnd_readEscape hbody

/-- A string that is stepped over ends at the first quote that is not escaped. -/
theorem stringEnd_of_skipQuoted {c c' : Cursor} (h : skipQuoted c = .ok ((), c')) :
    c.advance.stringEnd = some c' := by
  unfold skipQuoted at h
  simp only at h
  split at h
  · simp at h
  · rename_i chars behind hbody
    simp only [Except.ok.injEq, Prod.mk.injEq, true_and] at h
    rw [← h]
    exact stringEnd_of_readBody keepsStringEnd_skipEscape hbody

/-! ## Numbers -/

namespace Cursor

/-- Without a digit there are none to step over. -/
theorem skipDigits_eq_self {c : Cursor} (h : c.rest.takeWhile Char.isDigit = []) :
    c.skipDigits = c := by
  rcases c with ⟨rest, line, column⟩
  cases rest with
  | nil => rfl
  | cons ch rest =>
      cases hdigit : ch.isDigit with
      | true => simp [List.takeWhile, hdigit] at h
      | false => simp [skipDigits, skipWhile, hdigit]

/-- The first digit can be stepped over alone. -/
theorem skipDigits_advance {c : Cursor} {ch : Char} {rest : List Char} (h : c.rest = ch :: rest)
    (hdigit : ch.isDigit = true) : c.skipDigits = c.advance.skipDigits := by
  simp [skipDigits, skipWhile, advance, h, hdigit]

end Cursor

/-- An exponent ends behind its digits. -/
theorem readExponentDigits_end {negative positive : Bool} {s : Significand} {value : Nat}
    {digits : List Char} {c c' : Cursor} {n : Number}
    (hdigits : c.rest.takeWhile Char.isDigit = digits)
    (h : readExponentDigits negative positive s digits value c = .ok (n, c')) :
    c' = c.skipDigits := by
  induction digits generalizing value c with
  | nil =>
      rw [Cursor.skipDigits_eq_self hdigits]
      simp only [readExponentDigits] at h
      split at h
      · simp only [Except.ok.injEq, Prod.mk.injEq] at h
        exact h.2.symm
      · simp [Failure.atHere] at h
  | cons ch more ih =>
      cases hrest : c.rest with
      | nil => simp [hrest] at hdigits
      | cons first rest =>
          rw [hrest, List.takeWhile_cons] at hdigits
          split at hdigits
          · rename_i hdigit
            rw [List.cons.injEq] at hdigits
            have hadvance : c.advance.rest = rest := by simp [Cursor.advance, hrest]
            simp only [readExponentDigits] at h
            split at h
            · rw [Cursor.skipDigits_advance hrest hdigit]
              exact ih (by rw [hadvance, hdigits.2]) h
            · split at h
              · simp [Failure.atHere] at h
              · simp only [Except.ok.injEq, Prod.mk.injEq] at h
                exact h.2.symm
          · simp at hdigits

/-- Steps over an exponent at its letter, if there is one. -/
def skipExponent (c : Cursor) : Except Failure (Unit × Cursor) := do
  if c.rest.head?.any isExponentLetter then
    let c := c.advance
    let c := if c.rest.head? = some '+' ∨ c.rest.head? = some '-' then c.advance else c
    let c ← skipSomeDigits c
    return ((), c)
  else return ((), c)

/-- An exponent that is read can be stepped over. -/
theorem skipExponent_of_readScale {negative : Bool} {s : Significand} {c c' : Cursor}
    {n : Number} (h : readScale negative s c = .ok (n, c')) :
    skipExponent c = .ok ((), c') := by
  unfold readScale at h
  unfold skipExponent
  split at h
  · rename_i hletter
    simp only [hletter, if_true]
    unfold readExponent at h
    simp only at h
    split at h
    · simp [Failure.atHere] at h
    · rename_i ch rest hrest
      split at h
      · rename_i hdigit
        have hend := readExponentDigits_end rfl h
        simp [skipSomeDigits, hrest, hdigit, hend, bind, Except.bind, pure, Except.pure]
      · simp [Failure.atNext] at h
  · rename_i hletter
    simp only [hletter]
    split at h
    · simp only [Except.ok.injEq, Prod.mk.injEq] at h
      rw [← h.2]
      rfl
    · simp [Failure.atHere] at h

/-- Steps over what follows the whole digits of a number. -/
def skipAfterWhole (c : Cursor) : Except Failure (Unit × Cursor) := do
  let c ← if c.rest.head? = some '.' then skipSomeDigits c.advance else .ok c
  skipExponent c

/-- What follows the whole digits of a number and is read can be stepped over. -/
theorem skipAfterWhole_of_readAfterWhole {negative : Bool} {s : Significand} {c c' : Cursor}
    {n : Number} (h : readAfterWhole negative s c = .ok (n, c')) :
    skipAfterWhole c = .ok ((), c') := by
  unfold readAfterWhole at h
  unfold skipAfterWhole
  split at h
  · rename_i rest hrest
    simp only at h
    split at h
    · simp [Failure.atNext] at h
    · rename_i hdigits
      have hsome : c.advance.rest.head?.any Char.isDigit = true := by
        cases hadvance : c.advance.rest with
        | nil => simp [hadvance] at hdigits
        | cons ch more =>
            cases hdigit : ch.isDigit with
            | true => simpa using hdigit
            | false => simp [hadvance, hdigit] at hdigits
      have hscale := skipExponent_of_readScale h
      simp [hrest, skipSomeDigits, hsome, bind, Except.bind, hscale]
  · rename_i hpoint
    have hnone : c.rest.head? ≠ some '.' := by
      intro hhead
      cases hrest : c.rest with
      | nil => simp [hrest] at hhead
      | cons ch rest =>
          simp only [hrest, List.head?_cons, Option.some.injEq] at hhead
          exact hpoint rest (by rw [hrest, hhead])
    simp only [hnone, if_false, bind, Except.bind]
    split at h
    · exact skipExponent_of_readScale h
    · rename_i hletter
      split at h
      · simp only [Except.ok.injEq, Prod.mk.injEq] at h
        rw [skipExponent, if_neg hletter, h.2]
        rfl
      · simp [Failure.atHere] at h

/-- Steps over the whole digits of a number. -/
def skipWhole (c : Cursor) : Except Failure Cursor :=
  match c.rest with
  | '0' :: rest =>
      if rest.head?.any Char.isDigit then Failure.atNext .invalidNumber c.advance
      else .ok c.advance
  | _ => skipSomeDigits c

/-- A zero is stepped over alone. -/
theorem skipWhole_zero {c : Cursor} {rest : List Char} (h : c.rest = '0' :: rest) :
    skipWhole c =
      if rest.head?.any Char.isDigit then Failure.atNext .invalidNumber c.advance
      else .ok c.advance := by
  simp only [skipWhole, h]

/-- Other whole digits are stepped over together. -/
theorem skipWhole_other {c : Cursor} (h : ∀ rest, c.rest ≠ '0' :: rest) :
    skipWhole c = skipSomeDigits c := by
  unfold skipWhole
  split
  · rename_i rest hrest
    exact absurd hrest (h rest)
  · rfl

/-- A number is stepped over in three parts behind its sign. -/
theorem skipNumber_eq (c : Cursor) :
    skipNumber c =
      (skipWhole (if c.rest.head? = some '-' then c.advance else c) >>= skipAfterWhole) := by
  unfold skipNumber
  generalize (if c.rest.head? = some '-' then c.advance else c) = d
  dsimp only
  split
  · rename_i rest hrest
    rw [skipWhole_zero hrest]
    split <;> rfl
  · rename_i hother
    rw [skipWhole_other hother]
    rfl

/-- A number without its sign that is read can be stepped over. -/
theorem skipWhole_of_readUnsigned {negative : Bool} {c c' : Cursor} {n : Number}
    (h : readUnsigned negative c = .ok (n, c')) :
    (skipWhole c >>= skipAfterWhole) = .ok ((), c') := by
  unfold readUnsigned at h
  split at h
  · simp [Failure.atHere] at h
  · rename_i rest hrest
    rw [skipWhole_zero hrest]
    split at h
    · simp [Failure.atNext] at h
    · rename_i hmore
      rw [if_neg hmore]
      exact skipAfterWhole_of_readAfterWhole h
  · rename_i ch rest hzero hrest
    have hother : ∀ more, c.rest ≠ '0' :: more := by
      intro more hsame
      rw [hrest, List.cons.injEq] at hsame
      exact hzero hsame.1
    rw [skipWhole_other hother]
    split at h
    · rename_i hdigit
      have hwhole : skipSomeDigits c = .ok c.skipDigits := by
        simp [skipSomeDigits, hrest, hdigit]
      rw [hwhole]
      exact skipAfterWhole_of_readAfterWhole h
    · simp [Failure.atNext] at h

/-- A number that is read can be stepped over. -/
theorem skipNumber_of_readNumber {c c' : Cursor} {n : Number} (h : readNumber c = .ok (n, c')) :
    skipNumber c = .ok ((), c') := by
  unfold readNumber at h
  rw [skipNumber_eq]
  split at h
  · rename_i rest hrest
    simpa [hrest] using skipWhole_of_readUnsigned h
  · rename_i hsign
    have hnone : c.rest.head? ≠ some '-' := by
      intro hhead
      rcases List.head?_eq_some_iff.1 hhead with ⟨rest, hrest⟩
      exact hsign rest hrest
    rw [if_neg hnone]
    exact skipWhole_of_readUnsigned h

end Json
end Gatehouse
