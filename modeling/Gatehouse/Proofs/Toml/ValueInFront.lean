import Gatehouse.Proofs.Toml.FurtherLines

/-!
# Values in front of further lines

A value does not depend on the lines behind it.  For numbers and moments more is true: a date
without a time behind it, or what is no moment at all, is the same with and without further lines,
so what is tried first and fails there fails here.

Main results:

- Theorem {lit}`indifferent_readMoment`: whether something is a moment.
- Theorem {lit}`steady_readValue`: values of all kinds.
- Theorem {lit}`endsLine_of_value?`: a value on its own is one at the end of a line.
-/

namespace Gatehouse
namespace Toml

variable {α β : Type} {cs rest more : List Char}

/-! ## Readers that fail alike -/

/-- Whether further lines make no difference to a reader, whether it reads something or fails. -/
def Indifferent (read : Reader α) : Prop :=
  ∀ cs more, read (cs ++ '\n' :: more) = (read cs).map (withLines more)

/-- A step and the one after it make no difference of further lines. -/
theorem bind_withLines {read : Option (α × List Char)}
    {next : α × List Char → Option (β × List Char)}
    (h : ∀ a rest, next (a, rest ++ '\n' :: more) = (next (a, rest)).map (withLines more)) :
    (read.map (withLines more)).bind next = (read.bind next).map (withLines more) := by
  cases read with
  | none => rfl
  | some r => exact h r.1 r.2

/-! ## Numbers -/

/-- Further digits end at a line end. -/
theorem indifferent_readMoreDigits {isDigit : Char → Bool} (hnewline : isDigit '\n' = false) :
    Indifferent (readMoreDigits isDigit) := by
  intro cs more
  induction cs using readMoreDigits.induct isDigit with
  | case1 => simp [readMoreDigits, hnewline, withLines]
  | case2 c rest hdigit ih => simpa [readMoreDigits, hdigit] using ih
  | case3 c rest hdigit => simp [readMoreDigits, hdigit]
  | case4 => simp [readMoreDigits, hnewline]
  | case5 c rest hmark hdigit ih =>
      rw [List.cons_append, readMoreDigits.eq_4 _ _ _ hmark, readMoreDigits.eq_4 _ _ _ hmark,
        if_pos hdigit, if_pos hdigit, ih, Option.map_map, Option.map_map]
      rfl
  | case6 c rest hmark hdigit =>
      rw [List.cons_append, readMoreDigits.eq_4 _ _ _ hmark, readMoreDigits.eq_4 _ _ _ hmark,
        if_neg hdigit, if_neg hdigit]
      rfl

theorem indifferent_readDigits {isDigit : Char → Bool} (hnewline : isDigit '\n' = false) :
    Indifferent (readDigits isDigit) := by
  intro cs more
  cases cs with
  | nil => simp [readDigits, hnewline]
  | cons c cs =>
      have hmore := indifferent_readMoreDigits hnewline (c :: cs) more
      rw [List.cons_append] at hmore ⊢
      rw [readDigits, readDigits, hmore]
      by_cases hc : isDigit c = true <;> simp [hc]

theorem readSign_append (cs more : List Char) :
    readSign (cs ++ '\n' :: more) = withLines more (readSign cs) := by
  cases cs with
  | nil => rfl
  | cons c cs =>
      by_cases hplus : c = '+'
      · rw [hplus]
        rfl
      · by_cases hminus : c = '-'
        · rw [hminus]
          rfl
        · simp [readSign, hplus, hminus, withLines]

theorem indifferent_readWhole : Indifferent readWhole := by
  intro cs more
  have hdigits : readDigits Char.isDigit (cs ++ '\n' :: more) =
      (readDigits Char.isDigit cs).map (withLines more) :=
    indifferent_readDigits (by decide) cs more
  cases cs with
  | nil => rfl
  | cons c cs =>
      by_cases hzero : c = '0'
      · rw [hzero]
        rfl
      · simpa [readWhole, hzero] using hdigits

theorem indifferent_readFraction : Indifferent readFraction := by
  intro cs more
  cases cs with
  | nil => rfl
  | cons c cs =>
      by_cases hdot : c = '.'
      · rw [hdot, List.cons_append, readFraction, readFraction,
          indifferent_readDigits (by decide) cs more, Option.map_map, Option.map_map]
        rfl
      · simp [readFraction, hdot, withLines]

theorem indifferent_readExponent : Indifferent readExponent := by
  intro cs more
  cases cs with
  | nil => rfl
  | cons c cs =>
      rw [List.cons_append, readExponent, readExponent, List.head?_cons, List.head?_cons,
        List.tail_cons, List.tail_cons, readSign_append]
      by_cases hmark : some c = some 'e' ∨ some c = some 'E'
      · rw [if_pos hmark, if_pos hmark]
        dsimp only [withLines]
        rw [indifferent_readDigits (by decide)]
        exact bind_withLines fun ds rest => rfl
      · rw [if_neg hmark, if_neg hmark]
        rfl

theorem indifferent_readDecimal : Indifferent readDecimal := by
  intro cs more
  unfold readDecimal
  rw [readSign_append]
  rcases readSign cs with ⟨negative, rest⟩
  dsimp only [withLines]
  split
  · rename_i hinf
    rcases exists_of_append ['i', 'n', 'f'] (by decide) hinf with ⟨behind, rfl, rfl⟩
    rfl
  · rename_i hnan
    rcases exists_of_append ['n', 'a', 'n'] (by decide) hnan with ⟨behind, rfl, rfl⟩
    rfl
  · rename_i hinf hnan
    split
    · exact absurd rfl (hinf _)
    · exact absurd rfl (hnan _)
    · rw [indifferent_readWhole]
      refine bind_withLines fun whole rest => ?_
      dsimp only
      rw [indifferent_readFraction]
      refine bind_withLines fun fraction rest => ?_
      dsimp only
      rw [indifferent_readExponent]
      refine bind_withLines fun exponent rest => ?_
      dsimp only
      split
      · cases ofWhole? _ _ <;> rfl
      · cases ofDecimal? _ _ _ <;> rfl

theorem indifferent_readBase (base : Nat) {isDigit : Char → Bool}
    (hnewline : isDigit '\n' = false) : Indifferent (readBase base isDigit) := by
  intro cs more
  unfold readBase
  rw [indifferent_readDigits hnewline]
  refine bind_withLines fun ds rest => ?_
  dsimp only
  cases ofWhole? _ _ <;> rfl

theorem indifferent_readNumber : Indifferent readNumber := by
  intro cs more
  unfold readNumber
  split
  · rename_i hmark
    rcases exists_of_append ['0', 'x'] (by decide) hmark with ⟨behind, rfl, rfl⟩
    exact indifferent_readBase 16 (by decide) behind more
  · rename_i hmark
    rcases exists_of_append ['0', 'o'] (by decide) hmark with ⟨behind, rfl, rfl⟩
    exact indifferent_readBase 8 (by decide) behind more
  · rename_i hmark
    rcases exists_of_append ['0', 'b'] (by decide) hmark with ⟨behind, rfl, rfl⟩
    exact indifferent_readBase 2 (by decide) behind more
  · rename_i hhex hoctal hbinary
    split
    · exact absurd rfl (hhex _)
    · exact absurd rfl (hoctal _)
    · exact absurd rfl (hbinary _)
    · exact indifferent_readDecimal _ more

theorem indifferent_readBounded (width low high : Nat) :
    Indifferent (readBounded width low high) := by
  intro cs more
  unfold readBounded
  dsimp only
  by_cases hlength : width ≤ cs.length
  · rw [List.take_append_of_le_length hlength, List.drop_append_of_le_length hlength]
    split <;> rfl
  · have hnewline : '\n' ∈ (cs ++ '\n' :: more).take width := by
      rw [List.take_append, List.take_cons (by omega)]
      exact List.mem_append_right _ List.mem_cons_self
    have hdigits : ¬((cs ++ '\n' :: more).take width).all Char.isDigit = true := fun hall =>
      absurd (List.all_eq_true.1 hall _ hnewline) (by decide)
    have hshort : ¬(cs.take width).length = width := by
      rw [List.length_take]
      omega
    rw [if_neg fun h => hdigits h.2.1, if_neg fun h => hshort h.1]
    rfl

theorem readMark_append {mark : Char} (hmark : mark ≠ '\n') (cs more : List Char) :
    readMark mark (cs ++ '\n' :: more) = (readMark mark cs).map (· ++ '\n' :: more) := by
  cases cs with
  | nil => simp [readMark, hmark.symm]
  | cons c cs =>
      rw [List.cons_append, readMark, readMark]
      split <;> rfl

/-- A number behind a mark makes no difference of further lines, nor does what is read next. -/
theorem bind_readMark {mark : Char} (hmark : mark ≠ '\n') {width low high : Nat}
    {next : Nat × List Char → Option (α × List Char)}
    (h : ∀ n rest, next (n, rest ++ '\n' :: more) = (next (n, rest)).map (withLines more)) :
    ((readMark mark (rest ++ '\n' :: more)).bind fun rest =>
        (readBounded width low high rest).bind next) =
      ((readMark mark rest).bind fun rest =>
        (readBounded width low high rest).bind next).map (withLines more) := by
  rw [readMark_append hmark]
  cases readMark mark rest with
  | none => rfl
  | some rest =>
      dsimp only [Option.map_some, Option.bind_some]
      rw [indifferent_readBounded]
      exact bind_withLines h

theorem indifferent_readDate : Indifferent readDate := by
  intro cs more
  unfold readDate
  rw [indifferent_readBounded]
  refine bind_withLines fun year rest => ?_
  refine bind_readMark (by decide) fun month rest => ?_
  refine bind_readMark (by decide) fun day rest => ?_
  dsimp only
  split <;> rfl

theorem indifferent_readPlaces : Indifferent readPlaces := by
  intro cs more
  cases cs with
  | nil => rfl
  | cons c cs =>
      by_cases hdot : c = '.'
      · have htake := takeWhile_append_line (p := Char.isDigit) (by decide) cs more
        have hlength := (List.takeWhile_prefix (l := cs) Char.isDigit).length_le
        rw [hdot, List.cons_append, readPlaces, readPlaces, htake,
          List.drop_append_of_le_length hlength]
        split <;> rfl
      · simp [readPlaces, hdot, withLines]

theorem indifferent_readTime : Indifferent readTime := by
  intro cs more
  unfold readTime
  rw [indifferent_readBounded]
  refine bind_withLines fun hour rest => ?_
  refine bind_readMark (by decide) fun minute rest => ?_
  refine bind_readMark (by decide) fun second rest => ?_
  dsimp only
  rw [indifferent_readPlaces]
  exact bind_withLines fun places rest => rfl

/-- The distance to universal time behind its sign. -/
theorem readOffset_append {sign : Char} (hsign : sign = '+' ∨ sign = '-') (cs more : List Char) :
    readOffset (sign :: (cs ++ '\n' :: more)) =
      (readOffset (sign :: cs)).map (withLines more) := by
  rcases hsign with rfl | rfl
  all_goals
    rw [readOffset, readOffset, indifferent_readBounded]
    refine bind_withLines fun hour rest => ?_
    exact bind_readMark (by decide) fun minute rest => rfl

theorem indifferent_readOffset : Indifferent readOffset := by
  intro cs more
  cases cs with
  | nil => rfl
  | cons c cs =>
      by_cases hsign : c = '+' ∨ c = '-'
      · exact readOffset_append hsign cs more
      · by_cases hzone : c = 'Z' ∨ c = 'z'
        · rcases hzone with rfl | rfl <;> rfl
        · simp [readOffset, not_or.1 hsign, not_or.1 hzone, withLines]

theorem indifferent_readTimeOfDate : Indifferent readTimeOfDate := by
  intro cs more
  cases cs with
  | nil => rfl
  | cons c cs =>
      rw [List.cons_append, readTimeOfDate, readTimeOfDate, indifferent_readTime]
      split
      · cases readTime cs with
        | none => rfl
        | some r =>
            dsimp only [Option.map_some, withLines]
            rw [indifferent_readOffset]
            exact bind_withLines fun offset rest => rfl
      · rfl

theorem indifferent_readMoment : Indifferent readMoment := by
  intro cs more
  rw [readMoment, readMoment, indifferent_readDate]
  cases readDate cs with
  | none =>
      dsimp only [Option.map_none]
      rw [indifferent_readTime]
      exact bind_withLines fun time rest => rfl
  | some r =>
      dsimp only [Option.map_some, withLines]
      rw [indifferent_readTimeOfDate]
      exact bind_withLines fun time rest => rfl

/-! ## Values -/

/-- A value without others inside. -/
theorem steady_readScalar : Steady readScalar := by
  intro cs rest v h more
  -- a number is tried where there is no moment, which further lines do not change
  have hother {cs : List Char}
      (h : ((readMoment cs).orElse fun () => readNumber cs) = some (v, rest)) :
      ((readMoment (cs ++ '\n' :: more)).orElse fun () => readNumber (cs ++ '\n' :: more)) =
        some (v, rest ++ '\n' :: more) := by
    rw [indifferent_readMoment, indifferent_readNumber]
    cases hmoment : readMoment cs with
    | none =>
        rw [hmoment] at h
        exact congrArg (Option.map (withLines more)) h
    | some r =>
        rw [hmoment] at h
        exact congrArg (Option.map (withLines more)) h
  unfold readScalar at h
  split at h
  · exact return_append h more
  · exact return_append h more
  case h_3 | h_4 =>
    rcases Option.map_eq_some_iff.1 h with ⟨⟨s, behind⟩, hread, hsame⟩
    rcases Prod.mk.inj hsame with ⟨rfl, rfl⟩
    exact Option.map_eq_some_iff.2 ⟨_, steady_readString hread more, rfl⟩
  · rename_i htrue hfalse hdouble hsingle
    unfold readScalar
    split
    · exact absurd ‹_› (append_ne ['t', 'r', 'u', 'e'] (by decide) htrue _)
    · exact absurd ‹_› (append_ne ['f', 'a', 'l', 's', 'e'] (by decide) hfalse _)
    · exact absurd ‹_› (append_ne ['"'] (by decide) hdouble _)
    · exact absurd ‹_› (append_ne ['\''] (by decide) hsingle _)
    · exact hother h

/-- Lines that do not reach the end of a text are skipped alike, with more fuel as well. -/
theorem skipLinesWith_append {fuel fuel' : Nat} (hle : fuel ≤ fuel') (hfuel : cs.length < fuel)
    (h : skipLinesWith fuel cs = some rest) (hrest : rest ≠ []) (more : List Char) :
    skipLinesWith fuel' (cs ++ '\n' :: more) = some (rest ++ '\n' :: more) := by
  induction fuel generalizing fuel' cs with
  | zero => exact absurd hfuel (Nat.not_lt_zero _)
  | succ fuel ih =>
      cases fuel' with
      | zero => exact absurd hle (Nat.not_succ_le_zero _)
      | succ fuel' =>
          have hblanks := (past_skipBlanks cs).length_le
          unfold skipLinesWith at h ⊢
          rw [skipBlanks_append]
          split at h
          · rename_i comment hcomment
            rcases Option.bind_eq_some_iff.1 h with ⟨behind, hnewline, hmore⟩
            have hlt := length_lt_of_newline hnewline
            have hplain := (List.dropWhile_suffix (l := comment) isPlain).length_le
            rw [hcomment, List.length_cons] at hblanks
            rw [hcomment]
            change (afterNewline? ((comment ++ '\n' :: more).dropWhile isPlain)).bind _ = _
            rw [dropWhile_append_line (by decide), afterNewline?_append_of_some hnewline]
            exact ih (Nat.le_of_succ_le_succ hle) (by omega) hmore
          · rename_i hcomment
            split
            · exact absurd ‹_› (append_ne ['#'] (by decide) hcomment _)
            · split at h
              · rename_i behind hnewline
                have hlt := length_lt_of_newline hnewline
                rw [afterNewline?_append_of_some hnewline]
                exact ih (Nat.le_of_succ_le_succ hle) (by omega) h
              · rename_i hnewline
                split at h
                · contradiction
                · rename_i hreturn
                  rw [← Option.some.inj h] at hrest ⊢
                  have hreturn' : skipBlanks cs ≠ ['\r'] := by
                    intro hsame
                    rw [hsame] at hreturn
                    exact hreturn rfl
                  have hhead : (skipBlanks cs ++ '\n' :: more).head? = (skipBlanks cs).head? := by
                    rcases List.exists_cons_of_ne_nil hrest with ⟨c, behind, hfront⟩
                    rw [hfront]
                    rfl
                  rw [afterNewline?_append hrest hreturn', hnewline, hhead]
                  exact if_neg hreturn

theorem skipLines_append (h : skipLines cs = some rest) (hrest : rest ≠ []) (more : List Char) :
    skipLines (cs ++ '\n' :: more) = some (rest ++ '\n' :: more) :=
  skipLinesWith_append fuel_le (Nat.lt_succ_self _) h hrest more

variable {value : Reader Value}

/-- The items of a list are read up to its closing bracket, with more fuel as well. -/
theorem readItems_append (hvalue : Steady value) (hnothing : value [] = none) {fuel fuel' : Nat}
    {items : List Value} (hle : fuel ≤ fuel') (h : readItems value fuel cs = some (items, rest))
    (more : List Char) :
    readItems value fuel' (cs ++ '\n' :: more) = some (items, rest ++ '\n' :: more) := by
  induction fuel generalizing fuel' cs rest items with
  | zero => exact nomatch h
  | succ fuel ih =>
      cases fuel' with
      | zero => exact absurd hle (Nat.not_succ_le_zero _)
      | succ fuel' =>
          unfold readItems at h
          rcases Option.bind_eq_some_iff.1 h with ⟨front, hfront, hitems⟩
          -- without further lines neither an item nor a bracket stands at the end of the text
          have hne : front ≠ [] := by
            rintro rfl
            exact nomatch (hitems.symm.trans (congrArg (Option.bind · _) hnothing))
          refine Option.bind_eq_some_iff.2 ⟨_, skipLines_append hfront hne more, ?_⟩
          split at hitems
          · exact return_append hitems more
          · rename_i hclose
            rcases Option.bind_eq_some_iff.1 hitems with ⟨⟨item, behind⟩, hitem, hmore⟩
            rcases Option.bind_eq_some_iff.1 hmore with ⟨back, hback, hend⟩
            have hback_ne : back ≠ [] := by
              rintro rfl
              contradiction
            split
            · rename_i hsame
              rcases exists_of_append [']'] (by decide) hsame with ⟨behind', hbehind, -⟩
              exact absurd hbehind (hclose behind')
            · refine Option.bind_eq_some_iff.2 ⟨_, hvalue hitem more, ?_⟩
              refine Option.bind_eq_some_iff.2 ⟨_, skipLines_append hback hback_ne more, ?_⟩
              split at hend
              · rcases Option.bind_eq_some_iff.1 hend with ⟨⟨items', rest'⟩, hrest, hsame⟩
                exact Option.bind_eq_some_iff.2 ⟨(items', rest' ++ '\n' :: more),
                  ih (Nat.le_of_succ_le_succ hle) hrest, return_append hsame more⟩
              · exact return_append hend more
              · contradiction

theorem steady_readMember {value : Reader Value} (hvalue : Steady value) :
    Steady (readMember value) := by
  intro cs rest line h more
  unfold readMember at h ⊢
  rcases Option.bind_eq_some_iff.1 h with ⟨⟨path, behind⟩, hpath, hmore⟩
  refine Option.bind_eq_some_iff.2 ⟨_, steady_readPath hpath more, ?_⟩
  dsimp only at hmore ⊢
  split at hmore
  · rcases Option.bind_eq_some_iff.1 hmore with ⟨⟨v, rest'⟩, hread, hend⟩
    refine Option.bind_eq_some_iff.2 ⟨(v, rest' ++ '\n' :: more), ?_, return_append hend more⟩
    change value (skipBlanks (_ ++ '\n' :: more)) = _
    rw [skipBlanks_append]
    exact hvalue hread more
  · contradiction

/-- The members of a table in braces are read up to its closing brace, with more fuel as well. -/
theorem readInline_append (hvalue : Steady value) {fuel fuel' : Nat} {branches branches' : Branches}
    (hle : fuel ≤ fuel') (h : readInline value fuel branches cs = some (branches', rest))
    (more : List Char) :
    readInline value fuel' branches (cs ++ '\n' :: more) =
      some (branches', rest ++ '\n' :: more) := by
  induction fuel generalizing fuel' cs branches with
  | zero => exact nomatch h
  | succ fuel ih =>
      cases fuel' with
      | zero => exact absurd hle (Nat.not_succ_le_zero _)
      | succ fuel' =>
          unfold readInline at h
          rcases Option.bind_eq_some_iff.1 h with ⟨⟨⟨path, v⟩, behind⟩, hmember, hput⟩
          rcases Option.bind_eq_some_iff.1 hput with ⟨added, hadded, hmore⟩
          refine Option.bind_eq_some_iff.2 ⟨_, steady_readMember hvalue hmember more, ?_⟩
          refine Option.bind_eq_some_iff.2 ⟨added, hadded, ?_⟩
          rw [skipBlanks_append]
          split at hmore
          · rename_i hcomma
            rw [hcomma]
            exact ih (Nat.le_of_succ_le_succ hle) hmore
          · rename_i hclose
            rw [hclose]
            exact return_append hmore more
          · contradiction

theorem readValue_nil (depth : Nat) : readValue depth [] = none := by
  cases depth <;> rfl

/-- A value is read in front of further lines as it is read without them. -/
theorem steady_readValue (depth : Nat) : Steady (readValue depth) := by
  induction depth with
  | zero => exact nofun
  | succ depth ih =>
      intro cs rest v h more
      unfold readValue at h
      split at h
      · split at h
        · contradiction
        · rename_i hdepth
          rcases Option.bind_eq_some_iff.1 h with ⟨⟨items, behind⟩, hitems, hend⟩
          rw [List.cons_append, readValue, if_neg hdepth]
          exact Option.bind_eq_some_iff.2 ⟨(items, behind ++ '\n' :: more),
            readItems_append ih (readValue_nil depth) fuel_le hitems more, return_append hend more⟩
      · split at h
        · contradiction
        · rename_i hdepth
          rw [List.cons_append, readValue, if_neg hdepth, skipBlanks_append]
          split at h
          · rename_i hclose
            rw [hclose]
            exact return_append h more
          · rename_i hclose
            rcases Option.bind_eq_some_iff.1 h with ⟨⟨branches, behind⟩, hmembers, hend⟩
            split
            · exact absurd ‹_› (append_ne ['\x7d'] (by decide) hclose _)
            · exact Option.bind_eq_some_iff.2 ⟨(branches, behind ++ '\n' :: more),
                readInline_append ih fuel_le hmembers more, return_append hend more⟩
      · rename_i hlist htable
        unfold readValue
        split
        · exact absurd ‹_› (append_ne ['['] (by decide) hlist _)
        · exact absurd ‹_› (append_ne ['\x7b'] (by decide) htable _)
        · exact steady_readScalar h more

/-! ## Values on their own -/

/-- The value that a text is, if there is nothing behind. -/
def value? (token : String) : Option Value :=
  match readValue depthLimit (skipBlanks token.toList) with
  | some (v, []) => some v
  | _ => none

/-- A date begins with a digit. -/
theorem digit_of_readDate {date : String} (h : readDate cs = some (date, rest)) :
    ∃ c cs', cs = c :: cs' ∧ c.isDigit = true := by
  rcases Option.bind_eq_some_iff.1 h with ⟨year, hyear, -⟩
  unfold readBounded at hyear
  dsimp only at hyear
  split at hyear
  · rename_i hbounded
    cases cs with
    | nil => exact absurd hbounded.1 (by decide)
    | cons c cs => exact ⟨c, cs, rfl, List.all_eq_true.1 hbounded.2.1 c List.mem_cons_self⟩
  · contradiction

/-- A date on its own is a value. -/
theorem value?_of_readDate {token date : String} (h : readDate token.toList = some (date, [])) :
    value? token = some (.moment date) := by
  have hmoment : readMoment token.toList = some (.moment date, []) := by
    have hnotime : readTimeOfDate [] = some ("", []) := rfl
    have hdate : readMoment token.toList = some (.moment (date ++ ""), []) := by
      rw [readMoment, h]
      exact Option.bind_eq_some_iff.2 ⟨_, hnotime, rfl⟩
    rw [hdate, String.append_empty]
  rcases digit_of_readDate h with ⟨c, cs, hcs, hc⟩
  rw [hcs] at hmoment
  have hne {d : Char} (hd : d.isDigit = false) : c ≠ d := by
    rintro rfl
    rw [hc] at hd
    contradiction
  have hblank : skipBlanks (c :: cs) = c :: cs := by
    have hc' : isBlank c = false := by
      simp [isBlank, hne (by decide : ' '.isDigit = false), hne (by decide : '\t'.isDigit = false)]
    rw [skipBlanks, List.dropWhile_cons_of_neg (by simp [hc'])]
  have hscalar : readScalar (c :: cs) = some (.moment date, []) := by
    unfold readScalar
    split
    case h_5 => rw [hmoment]; rfl
    all_goals exact absurd (List.cons.inj ‹_›).1 (hne (by decide))
  have hvalue : readValue depthLimit (c :: cs) = some (.moment date, []) := by
    unfold depthLimit readValue
    split
    case h_3 => exact hscalar
    all_goals exact absurd (List.cons.inj ‹_›).1 (hne (by decide))
  rw [value?, hcs, hblank, hvalue]

/-- Whether a text is read as a value at the end of a line. -/
def EndsLine (token : String) (v : Value) : Prop :=
  ∀ rest, readValue depthLimit (skipBlanks (token.toList ++ '\n' :: rest)) = some (v, '\n' :: rest)

/-- What is a value on its own is one at the end of a line. -/
theorem endsLine_of_value? {token : String} {v : Value} (h : value? token = some v) :
    EndsLine token v := by
  intro rest
  unfold value? at h
  split at h
  · rename_i hread
    rw [Option.some.injEq] at h
    rw [skipBlanks_append, ← h]
    exact steady_readValue depthLimit hread rest
  · contradiction

end Toml
end Gatehouse
