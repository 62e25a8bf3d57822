import Gatehouse.Proofs.Toml.Spelling
import Gatehouse.Toml.Document

/-!
# Words in front of further lines

No word of a document depends on what stands on the lines behind it: what is read from a text is
read from it in the same way if a line end and further lines follow.  The rest is then the rest of
the text with these lines.  A string of several lines and the keys with dots need fuel, of which
there is more for the longer text.

Main results:

- Theorem {lit}`steady_readString`: strings of all kinds.
- Theorem {lit}`steady_readPath`: keys with dots.
-/

namespace Gatehouse
namespace Toml

variable {α β : Type} {cs rest more : List Char}

/-! ## Readers and further lines -/

/-- What is read with further lines behind the rest. -/
def withLines (more : List Char) (read : α × List Char) : α × List Char :=
  (read.1, read.2 ++ '\n' :: more)

/-- Whether a reader, if it reads something, reads the same in front of further lines. -/
def Steady (read : Reader α) : Prop :=
  ∀ {cs rest : List Char} {a : α}, read cs = some (a, rest) →
    ∀ more, read (cs ++ '\n' :: more) = some (a, rest ++ '\n' :: more)

/-- What a reader returns, it returns with further lines behind the rest. -/
theorem return_append {a b : α} (h : pure (a, cs) = some (b, rest)) (more : List Char) :
    (pure (a, cs ++ '\n' :: more) : Option (α × List Char)) = some (b, rest ++ '\n' :: more) := by
  rcases Prod.mk.inj (Option.some.inj h) with ⟨rfl, rfl⟩
  rfl

/-- Characters other than line ends in front of a text stand in the text. -/
theorem exists_of_append (front : List Char) {back : List Char} (hfront : '\n' ∉ front)
    (h : cs ++ '\n' :: more = front ++ back) :
    ∃ cs', cs = front ++ cs' ∧ back = cs' ++ '\n' :: more := by
  induction front generalizing cs with
  | nil => exact ⟨cs, rfl, h.symm⟩
  | cons c front ih =>
      rcases not_or.1 (mt List.mem_cons.2 hfront) with ⟨hc, hrest⟩
      cases cs with
      | nil => exact absurd (List.cons.inj h).1 hc
      | cons d cs =>
          rcases List.cons.inj h with ⟨rfl, htail⟩
          rcases ih hrest htail with ⟨cs', rfl, hback⟩
          exact ⟨cs', rfl, hback⟩

/-- A text that does not begin with such characters does not do so in front of further lines. -/
theorem append_ne (front : List Char) (hfront : '\n' ∉ front)
    (h : ∀ behind, cs ≠ front ++ behind) (back : List Char) :
    cs ++ '\n' :: more ≠ front ++ back := by
  intro hsame
  rcases exists_of_append front hfront hsame with ⟨behind, hbehind, -⟩
  exact h behind hbehind

/-- What is skipped up to a line end at the latest is skipped alike. -/
theorem dropWhile_append_line {p : Char → Bool} (hp : p '\n' = false) (cs more : List Char) :
    (cs ++ '\n' :: more).dropWhile p = cs.dropWhile p ++ '\n' :: more := by
  rw [List.dropWhile_append]
  split
  · rename_i hall
    rw [List.isEmpty_iff.1 hall, List.dropWhile_cons_of_neg (by simp [hp]), List.nil_append]
  · rfl

/-- What is taken up to a line end at the latest is taken alike. -/
theorem takeWhile_append_line {p : Char → Bool} (hp : p '\n' = false) (cs more : List Char) :
    (cs ++ '\n' :: more).takeWhile p = cs.takeWhile p := by
  rw [List.takeWhile_append]
  split
  · rename_i hall
    rw [List.takeWhile_cons_of_neg (by simp [hp]), List.append_nil]
    exact (List.IsPrefix.eq_of_length (List.takeWhile_prefix p) hall).symm
  · rfl

theorem skipBlanks_append (cs more : List Char) :
    skipBlanks (cs ++ '\n' :: more) = skipBlanks cs ++ '\n' :: more :=
  dropWhile_append_line (by decide) cs more

/-- A line end in a text is there in front of further lines as well, except that a carriage return
at the end of the text becomes one. -/
theorem afterNewline?_append (hcs : cs ≠ []) (hreturn : cs ≠ ['\r']) (more : List Char) :
    afterNewline? (cs ++ '\n' :: more) = (afterNewline? cs).map (· ++ '\n' :: more) := by
  cases cs with
  | nil => exact absurd rfl hcs
  | cons c cs =>
      by_cases hc : c = '\n'
      · rw [hc]
        rfl
      · by_cases hc' : c = '\r'
        · subst hc'
          cases cs with
          | nil => exact absurd rfl hreturn
          | cons d cs => by_cases hd : d = '\n' <;> simp [afterNewline?, hd]
        · simp [afterNewline?, hc, hc']

theorem afterNewline?_append_of_some (h : afterNewline? cs = some rest) (more : List Char) :
    afterNewline? (cs ++ '\n' :: more) = some (rest ++ '\n' :: more) := by
  rw [afterNewline?_append, h, Option.map_some]
  · rintro rfl
    contradiction
  · rintro rfl
    contradiction

/-! ## Strings -/

/-- So many digits are the same digits in front of further lines. -/
theorem steady_readCode (count : Nat) : Steady (readCode count) := by
  intro cs rest c h more
  unfold readCode at h ⊢
  dsimp only at h ⊢
  split at h
  · contradiction
  · rename_i hlength
    have hcount : count ≤ cs.length := by
      rw [List.length_take] at hlength
      omega
    rw [List.take_append_of_le_length hcount, List.drop_append_of_le_length hcount, if_neg hlength]
    rcases Option.bind_eq_some_iff.1 h with ⟨n, hn, hc⟩
    refine Option.bind_eq_some_iff.2 ⟨n, hn, ?_⟩
    split at hc
    · rename_i hvalid
      rw [Option.some.injEq, Prod.mk.injEq] at hc
      rw [if_pos hvalid, hc.1, hc.2]
    · contradiction

theorem steady_readEscape : Steady readEscape := by
  intro cs rest c h more
  unfold readEscape at h
  split at h
  case h_8 | h_9 => exact steady_readCode _ h more
  case h_10 => contradiction
  all_goals
    rw [Option.some.injEq, Prod.mk.injEq] at h
    rw [← h.1, ← h.2]
    rfl

/-- A string with escapes is read up to its closing quote, with more fuel as well. -/
theorem readBasicWith_append {fuel fuel' : Nat} {acc : List Char} {s : String}
    (hle : fuel ≤ fuel') (h : readBasicWith fuel acc cs = some (s, rest)) (more : List Char) :
    readBasicWith fuel' acc (cs ++ '\n' :: more) = some (s, rest ++ '\n' :: more) := by
  induction fuel generalizing fuel' acc cs with
  | zero => exact nomatch h
  | succ fuel ih =>
      cases fuel' with
      | zero => exact absurd hle (Nat.not_succ_le_zero _)
      | succ fuel' =>
          have hfuel := Nat.le_of_succ_le_succ hle
          unfold readBasicWith at h
          split at h
          · rw [Option.some.injEq, Prod.mk.injEq] at h
            rw [← h.1, ← h.2]
            rfl
          · rcases Option.bind_eq_some_iff.1 h with ⟨⟨c, behind⟩, hescape, hmore⟩
            exact Option.bind_eq_some_iff.2 ⟨_, steady_readEscape hescape more, ih hfuel hmore⟩
          · split at h
            · rename_i hplain
              simp [readBasicWith, hplain, ih hfuel h]
            · contradiction
          · contradiction

theorem steady_readBasic : Steady readBasic := by
  intro cs rest s h more
  unfold readBasic at h
  split at h
  · exact readBasicWith_append (by simp) h more
  · contradiction

theorem steady_readLiteral : Steady readLiteral := by
  intro cs rest s h more
  unfold readLiteral at h
  split at h
  · rename_i body
    have htake := takeWhile_append_line (p := fun c => isPlain c && decide (c ≠ '\'')) (by decide)
      body more
    have hlength := (List.takeWhile_prefix (l := body)
      fun c => isPlain c && decide (c ≠ '\'')).length_le
    dsimp only at h
    rw [List.cons_append, readLiteral, htake, List.drop_append_of_le_length hlength]
    split at h
    · rename_i hclose
      rw [Option.some.injEq, Prod.mk.injEq] at h
      rw [hclose, ← h.1, ← h.2]
      rfl
    · contradiction
  · contradiction

/-- What is past is no longer. -/
theorem Past.length_le (h : Past cs rest) : rest.length ≤ cs.length := by
  rcases h with ⟨piece, rfl, -⟩
  rw [List.length_append]
  exact Nat.le_add_left _ _

/-- Something stands in front of what is behind a line end. -/
theorem length_lt_of_newline (h : afterNewline? cs = some rest) : rest.length < cs.length := by
  rcases past_of_newline h with ⟨c, behind, rfl, -, hpast⟩
  exact Nat.lt_succ_of_le hpast.length_le

/-- Blanks and line ends that do not reach the end of a text are skipped alike, with more fuel as
well. -/
theorem skipNewlines_append {fuel fuel' : Nat} (hle : fuel ≤ fuel') (hfuel : cs.length ≤ fuel)
    (hrest : skipNewlines fuel cs ≠ []) (hreturn : skipNewlines fuel cs ≠ ['\r'])
    (more : List Char) :
    skipNewlines fuel' (cs ++ '\n' :: more) = skipNewlines fuel cs ++ '\n' :: more := by
  induction fuel generalizing fuel' cs with
  | zero =>
      have hcs : cs = [] := List.eq_nil_of_length_eq_zero (Nat.le_zero.1 hfuel)
      exact absurd hcs hrest
  | succ fuel ih =>
      cases fuel' with
      | zero => exact absurd hle (Nat.not_succ_le_zero _)
      | succ fuel' =>
          have hblanks := (past_skipBlanks cs).length_le
          unfold skipNewlines at hrest hreturn ⊢
          rw [skipBlanks_append]
          cases hnewline : afterNewline? (skipBlanks cs) with
          | none =>
              simp only [hnewline] at hrest hreturn ⊢
              rw [afterNewline?_append hrest hreturn, hnewline]
              rfl
          | some behind =>
              have hlt := length_lt_of_newline hnewline
              simp only [hnewline, afterNewline?_append_of_some hnewline] at hrest hreturn ⊢
              exact ih (Nat.le_of_succ_le_succ hle) (by omega) hrest hreturn

/-- Nothing is read from nothing, nor from a lone carriage return. -/
theorem readLinesWith_end {quote : Char} (hquote : isPlain quote = true) (escapes : Bool)
    (fuel : Nat) (acc : List Char) :
    readLinesWith quote escapes fuel acc [] = none ∧
      readLinesWith quote escapes fuel acc ['\r'] = none := by
  cases fuel with
  | zero => exact ⟨rfl, rfl⟩
  | succ fuel =>
      have hreturn : '\r' ≠ quote := by
        rintro rfl
        exact absurd hquote (by decide)
      have hplain : isPlain '\r' = false := by decide
      constructor
      · simp [readLinesWith, afterNewline?]
      · simp [readLinesWith, afterNewline?, hreturn, hplain]

/-- An escape begins with neither a blank nor a line end. -/
theorem skipBlanks_of_readEscape {c : Char} (h : readEscape cs = some (c, rest)) :
    skipBlanks cs = cs ∧ cs ≠ [] ∧ cs ≠ ['\r'] := by
  unfold readEscape at h
  split at h
  case h_10 => contradiction
  all_goals exact ⟨rfl, by simp, by simp⟩

/-- The quotes at the end of a string are on one line. -/
theorem closeLines_append {quote : Char} (hquote : isPlain quote = true) (acc cs more : List Char) :
    closeLines quote acc (cs ++ '\n' :: more) = withLines more (closeLines quote acc cs) := by
  have hnewline : decide ('\n' = quote) = false := by
    rw [decide_eq_false_iff_not]
    rintro rfl
    exact absurd hquote (by decide)
  have hlength : ((cs.takeWhile (· = quote)).take 2).length ≤ cs.length :=
    ((List.take_prefix 2 _).trans (List.takeWhile_prefix _)).length_le
  rw [closeLines, takeWhile_append_line hnewline, List.drop_append_of_le_length hlength]
  rfl

/-- Whether more fuel and further lines make no difference to what is read of a string of several
lines with less than so much text. -/
def LinesSteady (quote : Char) (escapes : Bool) (fuel fuel' : Nat) : Prop :=
  ∀ {cs rest acc : List Char} {s : String}, cs.length < fuel →
    readLinesWith quote escapes fuel acc cs = some (s, rest) →
    ∀ more, readLinesWith quote escapes fuel' acc (cs ++ '\n' :: more) =
      some (s, rest ++ '\n' :: more)

variable {quote : Char} {escapes : Bool} {fuel fuel' : Nat} {acc : List Char} {s : String}

/-- A backslash at the end of a line swallows the same blanks and lines. -/
theorem LinesSteady.continued (ih : LinesSteady quote escapes fuel fuel')
    (hquote : isPlain quote = true) (hle : fuel ≤ fuel') (hlt : cs.length < fuel)
    (h : readLinesWith quote escapes fuel acc (skipNewlines fuel cs) = some (s, rest))
    (more : List Char) :
    readLinesWith quote escapes fuel' acc (skipNewlines fuel' (cs ++ '\n' :: more)) =
      some (s, rest ++ '\n' :: more) := by
  have hend := readLinesWith_end hquote escapes fuel acc
  have hrest : skipNewlines fuel cs ≠ [] := by
    intro hnil
    rw [hnil, hend.1] at h
    contradiction
  have hreturn : skipNewlines fuel cs ≠ ['\r'] := by
    intro hsame
    rw [hsame, hend.2] at h
    contradiction
  have hlength := (past_skipNewlines fuel cs).length_le
  rw [skipNewlines_append hle (Nat.le_of_lt hlt) hrest hreturn]
  exact ih (Nat.lt_of_le_of_lt hlength hlt) h more

/-- What a backslash means is told by its line. -/
theorem LinesSteady.escaped (ih : LinesSteady quote escapes fuel fuel') (hlt : cs.length < fuel)
    (hnewline : afterNewline? (skipBlanks cs) = none)
    (h : ((readEscape cs).bind fun r => readLinesWith quote escapes fuel (r.1 :: acc) r.2) =
      some (s, rest)) (more : List Char) :
    afterNewline? (skipBlanks (cs ++ '\n' :: more)) = none ∧
      ((readEscape (cs ++ '\n' :: more)).bind fun r =>
        readLinesWith quote escapes fuel' (r.1 :: acc) r.2) = some (s, rest ++ '\n' :: more) := by
  rcases Option.bind_eq_some_iff.1 h with ⟨⟨c, behind⟩, hread, hmore⟩
  rcases skipBlanks_of_readEscape hread with ⟨hsame, hne, hreturn⟩
  have hlength := (past_of_readEscape hread).length_le
  constructor
  · rw [skipBlanks_append, hsame, afterNewline?_append hne hreturn, ← hsame, hnewline]
    rfl
  · exact Option.bind_eq_some_iff.2 ⟨_, steady_readEscape hread more,
      ih (Nat.lt_of_le_of_lt hlength hlt) hmore more⟩

/-- A string of several lines is read up to its closing quotes, with more fuel as well. -/
theorem linesSteady (hquote : isPlain quote = true) (escapes : Bool) (hle : fuel ≤ fuel') :
    LinesSteady quote escapes fuel fuel' := by
  induction fuel generalizing fuel' with
  | zero => exact fun hfuel => absurd hfuel (Nat.not_lt_zero _)
  | succ fuel ih =>
      cases fuel' with
      | zero => exact absurd hle (Nat.not_succ_le_zero _)
      | succ fuel' =>
          have ih : LinesSteady quote escapes fuel fuel' := ih (Nat.le_of_succ_le_succ hle)
          intro cs rest acc s hfuel h more
          -- a carriage return at the end would be a line end in front of further lines
          have hreturn : cs ≠ ['\r'] := by
            rintro rfl
            rw [(readLinesWith_end hquote ..).2] at h
            contradiction
          unfold readLinesWith at h
          split at h
          · rename_i behind hnewline
            have hlt := length_lt_of_newline hnewline
            unfold readLinesWith
            rw [afterNewline?_append_of_some hnewline]
            exact ih (by omega) h more
          · rename_i c behind hnewline
            have hlt : behind.length < fuel := Nat.lt_of_succ_lt_succ hfuel
            have hnone := afterNewline?_append (List.cons_ne_nil c behind) hreturn more
            rw [hnewline, Option.map_none, List.cons_append] at hnone
            unfold readLinesWith
            rw [List.cons_append, hnone]
            dsimp only
            split at h
            · rename_i hc
              rw [if_pos hc]
              split at h
              · split at h
                · rename_i hquotes
                  simp only [List.cons_append, if_pos hquotes]
                  rw [closeLines_append hquote, Option.some.inj h]
                  rfl
                · rename_i hquotes
                  simp only [List.cons_append, if_neg hquotes]
                  exact ih hlt h more
              · contradiction
            · rename_i hc
              rw [if_neg hc]
              split at h
              · rename_i hescape
                rw [if_pos hescape]
                split at h
                · rename_i behind' hbehind
                  have hshorter := length_lt_of_newline hbehind
                  have hblanks := (past_skipBlanks behind).length_le
                  rw [skipBlanks_append, afterNewline?_append_of_some hbehind]
                  exact ih.continued hquote (Nat.le_of_succ_le_succ hle) (by omega) h more
                · rename_i hbehind
                  rcases ih.escaped hlt hbehind h more with ⟨hnone, hread⟩
                  rw [hnone]
                  exact hread
              · rename_i hescape
                rw [if_neg hescape]
                split at h
                · rename_i hplain
                  rw [if_pos hplain]
                  exact ih hlt h more
                · contradiction
          · contradiction

/-- There is more fuel with further lines. -/
theorem fuel_le : cs.length + 1 ≤ (cs ++ '\n' :: more).length + 1 := by simp

theorem steady_readLines (hquote : isPlain quote = true) (escapes : Bool) :
    Steady (readLines quote escapes) := by
  intro cs rest s h more
  unfold readLines at h ⊢
  cases hnewline : afterNewline? cs with
  | some behind =>
      rw [hnewline] at h
      rw [afterNewline?_append_of_some hnewline]
      exact linesSteady hquote escapes fuel_le (Nat.lt_succ_self _) h more
  | none =>
      rw [hnewline] at h
      have hne : cs ≠ [] := by
        rintro rfl
        exact nomatch h.symm.trans (readLinesWith_end hquote ..).1
      have hreturn : cs ≠ ['\r'] := by
        rintro rfl
        exact nomatch h.symm.trans (readLinesWith_end hquote ..).2
      rw [afterNewline?_append hne hreturn, hnewline]
      exact linesSteady hquote escapes fuel_le (Nat.lt_succ_self _) h more

theorem steady_readString : Steady readString := by
  intro cs rest s h more
  unfold readString at h
  split at h
  · exact steady_readLines (by decide) true h more
  · exact steady_readLines (by decide) false h more
  · rename_i behind hquotes
    have hread := steady_readBasic h more
    unfold readString
    split
    · rename_i hsame
      rcases exists_of_append ['"', '"', '"'] (by decide) hsame with
        ⟨behind', hbehind, -⟩
      exact absurd (List.cons.inj hbehind).2 (hquotes behind')
    · exact absurd (List.cons.inj ‹_›).1 (by decide)
    · rename_i hsame
      rwa [hsame] at hread
    · rename_i hother
      exact absurd rfl (hother _)
  · rename_i hlines _
    have hread := steady_readLiteral h more
    have hhead : ∃ body, cs = '\'' :: body := by
      unfold readLiteral at h
      split at h
      · exact ⟨_, rfl⟩
      · contradiction
    unfold readString
    split
    · rcases hhead with ⟨body, rfl⟩
      exact absurd (List.cons.inj ‹_›).1 (by decide)
    · exact absurd ‹_› (append_ne ['\'', '\'', '\''] (by decide) hlines _)
    · rcases hhead with ⟨body, rfl⟩
      exact absurd (List.cons.inj ‹_›).1 (by decide)
    · exact hread

/-! ## Keys -/

theorem steady_readBareKey : Steady readBareKey := by
  intro cs rest key h more
  unfold readBareKey at h
  split at h
  · rename_i hbare
    have hbare' : (cs ++ '\n' :: more).head?.any isBare = true := by
      cases cs with
      | nil => contradiction
      | cons c cs => exact hbare
    have hnewline : isBare '\n' = false := by decide
    rw [Option.some.injEq, Prod.mk.injEq] at h
    rw [readBareKey, if_pos hbare', takeWhile_append_line hnewline, dropWhile_append_line hnewline,
      h.1, h.2]
  · contradiction

theorem steady_readSimpleKey : Steady readSimpleKey := by
  intro cs rest key h more
  unfold readSimpleKey at h
  split at h
  · exact steady_readBasic h more
  · exact steady_readLiteral h more
  · rename_i hdouble hsingle
    unfold readSimpleKey
    split
    · exact absurd ‹_› (append_ne ['"'] (by decide) hdouble _)
    · exact absurd ‹_› (append_ne ['\''] (by decide) hsingle _)
    · exact steady_readBareKey h more

theorem steady_readKeys (fuel : Nat) : Steady (readKeys fuel) := by
  induction fuel with
  | zero => exact nofun
  | succ fuel ih =>
      intro cs rest keys h more
      unfold readKeys at h ⊢
      rcases Option.bind_eq_some_iff.1 h with ⟨⟨key, behind⟩, hkey, hmore⟩
      rw [skipBlanks_append]
      refine Option.bind_eq_some_iff.2 ⟨_, steady_readSimpleKey hkey more, ?_⟩
      dsimp only at hmore ⊢
      rw [skipBlanks_append]
      split at hmore
      · rename_i behind' hbehind
        rcases Option.bind_eq_some_iff.1 hmore with ⟨⟨keys', rest'⟩, hkeys, hend⟩
        rw [hbehind]
        exact Option.bind_eq_some_iff.2 ⟨_, ih hkeys more, return_append hend more⟩
      · rename_i hdot
        split
        · exact absurd ‹_› (append_ne ['.'] (by decide) hdot _)
        · exact return_append hmore more

theorem steady_readPath : Steady readPath := by
  intro cs rest path h more
  unfold readPath at h ⊢
  rcases Option.bind_eq_some_iff.1 h with ⟨⟨keys, behind⟩, hkeys, hpath⟩
  refine Option.bind_eq_some_iff.2 ⟨_, steady_readKeys _ hkeys more, ?_⟩
  rcases Option.bind_eq_some_iff.1 hpath with ⟨name, hname, hend⟩
  exact Option.bind_eq_some_iff.2 ⟨name, hname, return_append hend more⟩

end Toml
end Gatehouse
