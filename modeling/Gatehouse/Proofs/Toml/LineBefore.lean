import Gatehouse.Proofs.Toml.ValueInFront

/-!
# A line in front of a document

A document with one more line in front, of a key that the document does not use, is read as the
document is, with one more member in front.

Main results:

- Theorem {lit}`readSections_eq`: what has been read so far does not matter for what follows.
- Theorem {lit}`leavesOthers_addTo`: what is put under other keys leaves a member alone.
- Theorem {lit}`parse?_lineBefore`: a document behind a line.
- Theorem {lit}`adds_withLine`: a line adds its value, behind a byte order mark as well.
-/

namespace Gatehouse
namespace Toml

/-! ## Sections behind what has been read -/

/-- The sections of a document behind sections and lines that were read before. -/
def behind (current : Section) (done : List Section) : List Section → List Section
  | [] => done.reverse ++ [current]
  | first :: more => done.reverse ++ ⟨current.heading, first.lines ++ current.lines⟩ :: more

variable {current : Section} {done sections : List Section} {cs : List Char}

/-- A heading ends the section before it. -/
theorem behind_heading (heading : Option Heading) :
    behind current done (behind ⟨heading, []⟩ [⟨none, []⟩] sections) =
      behind ⟨heading, []⟩ (current :: done) sections := by
  cases sections <;> simp [behind]

/-- A line goes into the section that is being read. -/
theorem behind_line (line : Path × Value) :
    behind current done (behind ⟨none, [line]⟩ [] sections) =
      behind { current with lines := line :: current.lines } done sections := by
  cases sections <;> simp [behind]

/-- What has been read so far does not matter for what follows. -/
theorem readSections_eq (fuel : Nat) (current : Section) (done : List Section) (cs : List Char) :
    readSections fuel current done cs =
      (readSections fuel ⟨none, []⟩ [] cs).map (behind current done) := by
  induction fuel generalizing current done cs with
  | zero => rfl
  | succ fuel ih =>
      unfold readSections
      split
      · simp [behind]
      · cases endLine _ with
        | none => rfl
        | some rest => exact ih current done rest
      · cases readHeading _ with
        | none => rfl
        | some result =>
            dsimp only [bind, Option.bind]
            cases endLine result.2 with
            | none => rfl
            | some rest =>
                dsimp only
                rw [ih, ih ⟨some result.1, []⟩ [_], Option.map_map]
                congr 1
                funext sections
                exact (behind_heading _).symm
      · split
        · exact ih current done _
        · cases readMember _ _ with
          | none => rfl
          | some result =>
              dsimp only [bind, Option.bind]
              cases endLine result.2 with
              | none => rfl
              | some rest =>
                  dsimp only
                  rw [ih, ih ⟨none, [result.1]⟩ [], Option.map_map]
                  congr 1
                  funext sections
                  exact (behind_line _).symm

/-- More fuel does no harm. -/
theorem readSections_mono {fuel fuel' : Nat} (hle : fuel ≤ fuel')
    (h : readSections fuel current done cs = some sections) :
    readSections fuel' current done cs = some sections := by
  induction fuel generalizing fuel' current done cs with
  | zero => exact nomatch h
  | succ fuel ih =>
      cases fuel' with
      | zero => exact absurd hle (Nat.not_succ_le_zero _)
      | succ fuel' =>
          have hfuel := Nat.le_of_succ_le_succ hle
          unfold readSections at h ⊢
          split at h
          · exact h
          · rcases Option.bind_eq_some_iff.1 h with ⟨rest, hend, hmore⟩
            exact Option.bind_eq_some_iff.2 ⟨rest, hend, ih hfuel hmore⟩
          · rcases Option.bind_eq_some_iff.1 h with ⟨heading, hheading, hrest⟩
            rcases Option.bind_eq_some_iff.1 hrest with ⟨rest, hend, hmore⟩
            exact Option.bind_eq_some_iff.2 ⟨heading, hheading,
              Option.bind_eq_some_iff.2 ⟨rest, hend, ih hfuel hmore⟩⟩
          · split at h
            · exact ih hfuel h
            · rcases Option.bind_eq_some_iff.1 h with ⟨line, hline, hrest⟩
              rcases Option.bind_eq_some_iff.1 hrest with ⟨rest, hend, hmore⟩
              exact Option.bind_eq_some_iff.2 ⟨line, hline,
                Option.bind_eq_some_iff.2 ⟨rest, hend, ih hfuel hmore⟩⟩

/-! ## What is put under other keys -/

namespace Tree

variable {name : String} {change : Option Tree → Option Tree} {branches branches' : Branches}

/-- Whether something that is done to a table takes no key away and leaves a member in front
alone if nothing stands under its key afterwards. -/
def LeavesOthers (act : Branches → Option Branches) : Prop :=
  ∀ branches branches', act branches = some branches' →
    (∀ key ∈ branches.map Prod.fst, key ∈ branches'.map Prod.fst) ∧
    ∀ key tree, key ∉ branches'.map Prod.fst →
      act ((key, tree) :: branches) = some ((key, tree) :: branches')

/-- A change under one key keeps all others, and there is something under this one afterwards. -/
theorem keys_of_update (h : update name change branches = some branches') :
    name ∈ branches'.map Prod.fst ∧
      ∀ key ∈ branches.map Prod.fst, key ∈ branches'.map Prod.fst := by
  induction branches generalizing branches' with
  | nil =>
      rcases Option.map_eq_some_iff.1 h with ⟨tree, -, rfl⟩
      simp
  | cons first rest ih =>
      unfold update at h
      split at h
      · rename_i hsame
        rcases Option.map_eq_some_iff.1 h with ⟨tree, -, rfl⟩
        simp [← hsame]
      · rcases Option.map_eq_some_iff.1 h with ⟨rest', hrest, rfl⟩
        rcases ih hrest with ⟨hname, hkeys⟩
        refine ⟨List.mem_cons_of_mem _ hname, fun key hkey => ?_⟩
        rcases List.mem_cons.1 hkey with rfl | hkey
        · exact List.mem_cons_self
        · exact List.mem_cons_of_mem _ (hkeys key hkey)

theorem leavesOthers_update (name : String) (change : Option Tree → Option Tree) :
    LeavesOthers (update name change) := by
  intro branches branches' h
  rcases keys_of_update h with ⟨hname, hkeys⟩
  refine ⟨hkeys, fun key tree hkey => ?_⟩
  have hother : key ≠ name := by
    rintro rfl
    exact hkey hname
  rw [update, if_neg hother, h]
  rfl

/-- Putting a value under a key with dots changes what stands under the first part of it. -/
theorem leavesOthers_put (name : String) (v : Value) (tables : List String) :
    LeavesOthers (put name v tables) := by
  cases tables with
  | nil => exact leavesOthers_update name _
  | cons key keys => exact leavesOthers_update key _

/-- A change at the end of a way changes what stands under the first part of it. -/
theorem leavesOthers_updateAt (name : String) (change : Option Tree → Option Tree)
    (tables : List String) : LeavesOthers (updateAt name change tables) := by
  cases tables with
  | nil => exact leavesOthers_update name change
  | cons key keys => exact leavesOthers_update key _

/-- What is done step by step leaves alone what every step does. -/
theorem leavesOthers_foldlM {α : Type} {act : Branches → α → Option Branches}
    (hact : ∀ a, LeavesOthers fun branches => act branches a) (as : List α) :
    LeavesOthers fun branches => as.foldlM act branches := by
  induction as with
  | nil =>
      intro branches branches' h
      rw [← Option.some.inj h]
      exact ⟨fun _ hkey => hkey, fun _ _ _ => rfl⟩
  | cons a as ih =>
      intro branches branches' h
      simp only [List.foldlM_cons] at h ⊢
      rcases Option.bind_eq_some_iff.1 h with ⟨middle, hfirst, hrest⟩
      rcases hact a _ _ hfirst with ⟨hkept, hfront⟩
      rcases ih _ _ hrest with ⟨hkept', hfront'⟩
      refine ⟨fun key hkey => hkept' key (hkept key hkey), fun key tree hkey => ?_⟩
      have hstep : act ((key, tree) :: branches) a = some ((key, tree) :: middle) :=
        hfront key tree fun hmiddle => hkey (hkept' key hmiddle)
      rw [hstep]
      exact hfront' key tree hkey

end Tree

/-- The lines of a section are put under their own keys. -/
theorem leavesOthers_fill (s : Section) : Tree.LeavesOthers s.fill := by
  refine Tree.leavesOthers_foldlM (fun line => ?_) s.lines.reverse
  rcases line with ⟨path, v⟩
  exact Tree.leavesOthers_put path.name v path.tables

/-- A section changes what stands on the way to its table. -/
theorem leavesOthers_addTo (s : Section) : Tree.LeavesOthers s.addTo := by
  rcases s with ⟨heading, lines⟩
  cases heading with
  | none => exact leavesOthers_fill ⟨none, lines⟩
  | some heading =>
      cases heading with
      | table path => exact Tree.leavesOthers_updateAt path.name _ path.tables
      | item path => exact Tree.leavesOthers_updateAt path.name _ path.tables

/-! ## The line in front -/

/-- The table of a document behind a line with a key that the document does not use. -/
theorem foldlM_behind {key : String} {v : Value} {root : Branches}
    (hfirst : sections = behind ⟨none, []⟩ [] sections)
    (hroot : sections.foldlM (fun root s => s.addTo root) [] = some root)
    (hkey : key ∉ root.map Prod.fst) :
    (behind ⟨none, [(⟨[], key⟩, v)]⟩ [] sections).foldlM (fun root s => s.addTo root) [] =
      some ((key, .value v) :: root) := by
  cases sections with
  | nil => exact absurd hfirst (List.cons_ne_nil _ _).symm
  | cons first more =>
      have hheading : first.heading = none := congrArg Section.heading (List.cons.inj hfirst).1
      rw [List.foldlM_cons] at hroot
      rcases Option.bind_eq_some_iff.1 hroot with ⟨filled, hfill, hmore⟩
      have hlater := Tree.leavesOthers_foldlM (fun s => leavesOthers_addTo s) more _ _ hmore
      have hfill' : first.fill [] = some filled := by
        rwa [Section.addTo, hheading] at hfill
      have hfilled : first.fill [(key, .value v)] = some ((key, .value v) :: filled) :=
        (leavesOthers_fill first _ _ hfill').2 key _ fun hmem => hkey (hlater.1 key hmem)
      have hline : (Section.mk none (first.lines ++ [(⟨[], key⟩, v)])).addTo [] =
          first.fill [(key, .value v)] := by
        rw [Section.addTo, Section.fill, List.reverse_append]
        rfl
      rw [behind, List.reverse_nil, List.nil_append, List.foldlM_cons, hline, hfilled]
      exact hlater.2 key _ hkey

/-- Whether a text is a key without dots and quotes. -/
structure IsBareKey (key : String) : Prop where
  nonempty : key.toList ≠ []
  bare : ∀ c ∈ key.toList, isBare c = true

/-- A line with a key and a value, in front of the rest of a document. -/
def lineBefore (key token rest : String) : String := key ++ " = " ++ token ++ "\n" ++ rest

theorem toList_lineBefore (key token rest : String) :
    (lineBefore key token rest).toList =
      key.toList ++ ' ' :: '=' :: ' ' :: (token.toList ++ '\n' :: rest.toList) := by
  simp [lineBefore]

/-- A character of a bare key is none that may not stand there. -/
theorem ne_of_isBare {c d : Char} (hc : isBare c = true) (hd : isBare d = false) : c ≠ d := by
  rintro rfl
  rw [hc] at hd
  contradiction

/-- A bare key begins with a character that may stand in one. -/
theorem IsBareKey.exists_cons {key : String} (hkey : IsBareKey key) :
    ∃ c cs, key.toList = c :: cs ∧ isBare c = true := by
  cases hchars : key.toList with
  | nil => exact absurd hchars hkey.nonempty
  | cons c cs => exact ⟨c, cs, rfl, hkey.bare c (hchars ▸ List.mem_cons_self)⟩

/-- No blanks stand before a bare key. -/
theorem skipBlanks_bareKey {key : String} (hkey : IsBareKey key) (rest : List Char) :
    skipBlanks (key.toList ++ rest) = key.toList ++ rest := by
  rcases hkey.exists_cons with ⟨c, cs, hchars, hc⟩
  have hblank : isBlank c = false := by
    simp [isBlank, ne_of_isBare hc (by decide : isBare ' ' = false),
      ne_of_isBare hc (by decide : isBare '\t' = false)]
  rw [hchars, skipBlanks, List.cons_append, List.dropWhile_cons_of_neg (by simp [hblank])]

/-- A bare key is read up to a blank. -/
theorem readSimpleKey_bareKey {key : String} (hkey : IsBareKey key) (rest : List Char) :
    readSimpleKey (key.toList ++ ' ' :: rest) = some (key, ' ' :: rest) := by
  rcases hkey.exists_cons with ⟨c, cs, hchars, hc⟩
  have htake : (key.toList ++ ' ' :: rest).takeWhile isBare = key.toList := by
    rw [List.takeWhile_append_of_pos hkey.bare]
    exact List.append_nil _
  have hdrop : (key.toList ++ ' ' :: rest).dropWhile isBare = ' ' :: rest :=
    List.dropWhile_append_of_pos hkey.bare
  have hhead : (key.toList ++ ' ' :: rest).head?.any isBare = true := by
    rw [hchars]
    exact hc
  have hbare : readBareKey (key.toList ++ ' ' :: rest) = some (key, ' ' :: rest) := by
    rw [readBareKey, if_pos hhead, htake, hdrop, String.ofList_toList]
  rw [hchars] at hbare ⊢
  unfold readSimpleKey
  split
  · exact absurd (List.cons.inj ‹_›).1 (ne_of_isBare hc (by decide))
  · exact absurd (List.cons.inj ‹_›).1 (ne_of_isBare hc (by decide))
  · exact hbare

/-- A string begins with a quote. -/
theorem head_of_readString {cs rest : List Char} {s : String}
    (h : readString cs = some (s, rest)) : ∃ quote body, cs = quote :: body ∧
      (quote = '"' ∨ quote = '\'') := by
  unfold readString at h
  split at h
  · exact ⟨_, _, rfl, .inl rfl⟩
  · exact ⟨_, _, rfl, .inr rfl⟩
  · exact ⟨_, _, rfl, .inl rfl⟩
  · unfold readLiteral at h
    split at h
    · exact ⟨_, _, rfl, .inr rfl⟩
    · contradiction

/-- A string at the end of a line is a value there. -/
theorem Spells.endsLine {token text : String} (h : Spells token text) :
    EndsLine token (.string text) := by
  intro rest
  have hread := h rest
  rcases head_of_readString hread with ⟨quote, body, hbody, hquote⟩
  rw [hbody] at hread ⊢
  have hskip : skipBlanks (quote :: body) = quote :: body := by
    rcases hquote with rfl | rfl <;> rfl
  have hscalar : readScalar (quote :: body) = some (.string text, '\n' :: rest) := by
    rcases hquote with rfl | rfl
    · simp [readScalar, hread]
    · simp [readScalar, hread]
  rw [hskip]
  rcases hquote with rfl | rfl
  · simp [depthLimit, readValue, hscalar]
  · simp [depthLimit, readValue, hscalar]

/-- A line with a bare key and a value is read up to its end. -/
theorem readMember_line {key token : String} {v : Value} (hkey : IsBareKey key)
    (htoken : EndsLine token v) (rest : List Char) :
    readMember (readValue depthLimit)
        (key.toList ++ ' ' :: '=' :: ' ' :: (token.toList ++ '\n' :: rest)) =
      some ((⟨[], key⟩, v), '\n' :: rest) := by
  have hpath : readPath (key.toList ++ ' ' :: '=' :: ' ' :: (token.toList ++ '\n' :: rest)) =
      some (⟨[], key⟩, '=' :: ' ' :: (token.toList ++ '\n' :: rest)) := by
    unfold readPath depthLimit
    rw [readKeys, skipBlanks_bareKey hkey, readSimpleKey_bareKey hkey]
    rfl
  have hvalue : readValue depthLimit (skipBlanks (' ' :: (token.toList ++ '\n' :: rest))) =
      some (v, '\n' :: rest) := htoken rest
  unfold readMember
  refine Option.bind_eq_some_iff.2 ⟨_, hpath, ?_⟩
  exact Option.bind_eq_some_iff.2 ⟨_, hvalue, rfl⟩

/-- A line with a bare key and a value is read, and the rest of the document after it. -/
theorem readSections_line {key token : String} {v : Value} (hkey : IsBareKey key)
    (htoken : EndsLine token v) (fuel : Nat) (rest : String) :
    readSections (fuel + 1) ⟨none, []⟩ [] (lineBefore key token rest).toList =
      readSections fuel ⟨none, [(⟨[], key⟩, v)]⟩ [] rest.toList := by
  have hmember := readMember_line hkey htoken rest.toList
  rcases hkey.exists_cons with ⟨c, cs, hchars, hc⟩
  rw [toList_lineBefore, readSections, skipBlanks_bareKey hkey]
  rw [hchars] at hmember ⊢
  split
  · contradiction
  · exact absurd (List.cons.inj ‹_›).1 (ne_of_isBare hc (by decide))
  · exact absurd (List.cons.inj ‹_›).1 (ne_of_isBare hc (by decide))
  · have hnone : afterNewline? (c :: cs ++ ' ' :: '=' :: ' ' ::
        (token.toList ++ '\n' :: rest.toList)) = none := by
      unfold afterNewline?
      split
      · exact absurd (List.cons.inj ‹_›).1 (ne_of_isBare hc (by decide))
      · exact absurd (List.cons.inj ‹_›).1 (ne_of_isBare hc (by decide))
      · rfl
    rw [hnone]
    dsimp only
    rw [hmember]
    rfl

/-! ## Documents -/

theorem map_fst_toMembers (branches : Branches) :
    (Tree.toMembers branches).map Prod.fst = branches.map Prod.fst := by
  induction branches with
  | nil => rfl
  | cons first rest ih => rw [Tree.toMembers, List.map_cons, List.map_cons, ih]

/-- The table that lines are. -/
def readTable? (cs : List Char) : Option Members := do
  let sections ← readSections (cs.length + 1) ⟨none, []⟩ [] cs
  return Tree.toMembers (← sections.foldlM (fun root s => s.addTo root) [])

/-- A document is read from behind its mark. -/
theorem parse?_mark {text : String} (htext : text.toList = '\uFEFF' :: cs) :
    parse? text = readTable? cs := by
  rw [parse?, htext]
  rfl

/-- A document that does not begin with a mark is read from its first character. -/
theorem parse?_eq {text : String} (hmark : text.toList.head? ≠ some '\uFEFF') :
    parse? text = readTable? text.toList := by
  unfold parse?
  split
  · rename_i rest htext
    rw [htext] at hmark
    exact absurd rfl hmark
  · rfl

variable {key token : String} {v : Value} {members : Members}

/-- What lines hold behind a line with a value under a key that they do not use: that value, and
what they held. -/
theorem readTable?_lineBefore {rest : String} (hkey : IsBareKey key) (htoken : EndsLine token v)
    (hrest : readTable? rest.toList = some members) (hunused : key ∉ members.map Prod.fst) :
    readTable? (lineBefore key token rest).toList = some ((key, v) :: members) := by
  rcases Option.bind_eq_some_iff.1 hrest with ⟨sections, hsections, hmembers⟩
  rcases Option.bind_eq_some_iff.1 hmembers with ⟨root, hroot, hvalue⟩
  rw [← Option.some.inj hvalue] at hunused ⊢
  rw [map_fst_toMembers] at hunused
  have hlonger : rest.toList.length + 1 ≤ (lineBefore key token rest).toList.length := by
    rw [toList_lineBefore]
    simp only [List.length_append, List.length_cons]
    omega
  have hfirst : sections = behind ⟨none, []⟩ [] sections := by
    have hsame := readSections_eq (rest.toList.length + 1) ⟨none, []⟩ [] rest.toList
    rw [hsections] at hsame
    exact Option.some.inj hsame
  have hread := readSections_mono hlonger hsections
  rw [readTable?, readSections_line hkey htoken, readSections_eq, hread]
  refine Option.bind_eq_some_iff.2 ⟨_, rfl, ?_⟩
  refine Option.bind_eq_some_iff.2 ⟨_, foldlM_behind hfirst hroot hunused, ?_⟩
  rfl

/-- A line with a bare key does not begin with a mark. -/
theorem head_lineBefore (hkey : IsBareKey key) (token rest : String) :
    (lineBefore key token rest).toList.head? ≠ some '\uFEFF' := by
  rcases hkey.exists_cons with ⟨c, cs, hchars, hc⟩
  rw [toList_lineBefore, hchars]
  exact fun hsame => ne_of_isBare hc (by decide) (Option.some.inj hsame)

/-- What a document holds behind a line with a value under a key that the document does not use:
that value, and what it held. -/
theorem parse?_lineBefore {rest : String} (hkey : IsBareKey key) (htoken : EndsLine token v)
    (hmark : rest.toList.head? ≠ some '\uFEFF') (hrest : parse? rest = some members)
    (hunused : key ∉ members.map Prod.fst) :
    parse? (lineBefore key token rest) = some ((key, v) :: members) := by
  rw [parse?_eq hmark] at hrest
  rw [parse?_eq (head_lineBefore hkey token rest)]
  exact readTable?_lineBefore hkey htoken hrest hunused

/-! ## Values that are added to a document -/

/-- Whether a document uses a key. -/
def Uses (text key : String) : Prop :=
  ∃ members, parse? text = some members ∧ key ∈ members.map Prod.fst

/-- Whether one document is another one with a value added under a key: there it holds this value,
and under all other keys what the other one holds.  It does not matter where the value stands and
how it is written, as a table under a heading, say, or with dots in its keys. -/
def Adds (key : String) (v : Value) (text text' : String) : Prop :=
  ∀ members, parse? text = some members → ∃ members', parse? text' = some members' ∧
    lookup? members' key = some v ∧
    ∀ name, name ≠ key → lookup? members' name = lookup? members name

/-- Nothing is found under a name that is not there. -/
theorem lookup?_eq_none {name : String} (h : name ∉ members.map Prod.fst) :
    lookup? members name = none := by
  rw [lookup?, Option.map_eq_none_iff, List.find?_eq_none]
  intro m hm hname
  exact h (beq_iff_eq.1 hname ▸ List.mem_map_of_mem hm)

/-- A document with a line in front, behind a byte order mark if there is one. -/
def withLine (key token text : String) : String :=
  match text.toList with
  | '\uFEFF' :: rest =>
      String.ofList ('\uFEFF' :: (lineBefore key token (String.ofList rest)).toList)
  | _ => lineBefore key token text

/-- What refers to a variable in lines does so in one of them. -/
theorem Refers.of_append_line {front back : List Char} (h : Refers (front ++ '\n' :: back)) :
    Refers front ∨ Refers back := by
  induction front with
  | nil =>
      rcases List.infix_cons_iff.1 h with hfront | hbehind
      · exact absurd (List.cons_prefix_cons.1 hfront).1 (by decide)
      · exact .inr hbehind
  | cons c front ih =>
      rcases List.infix_cons_iff.1 h with hfront | hbehind
      · rcases List.cons_prefix_cons.1 hfront with ⟨rfl, behind, hbehind⟩
        rcases exists_of_append ['\x7b'] (by decide) hbehind.symm with ⟨rest, rfl, -⟩
        exact .inl ⟨[], rest, rfl⟩
      · rcases ih hbehind with hline | hmore
        · exact .inl (hline.trans (List.suffix_cons _ _).isInfix)
        · exact .inr hmore

/-- A line with a value that refers to nothing adds no reference to a document. -/
theorem not_refers_withLine {text : String} (hkey : IsBareKey key) (htoken : ¬Refers token.toList)
    (htext : ¬Refers text.toList) : ¬Refers (withLine key token text).toList := by
  have hline {rest : String} (hrest : ¬Refers rest.toList) :
      ¬Refers (lineBefore key token rest).toList := by
    intro hrefers
    have hneutral : ∀ c ∈ key.toList ++ [' ', '=', ' '], Neutral c :=
      List.forall_mem_append.2 ⟨fun c hc => ⟨ne_of_isBare (hkey.bare c hc) (by decide),
        ne_of_isBare (hkey.bare c hc) (by decide)⟩, by simp [Neutral]⟩
    have hchars : (lineBefore key token rest).toList =
        (key.toList ++ [' ', '=', ' ']) ++ (token.toList ++ '\n' :: rest.toList) := by
      rw [toList_lineBefore, List.append_assoc]
      rfl
    rw [hchars] at hrefers
    rcases (hrefers.of_append hneutral).of_append_line with hbad | hbad
    · exact htoken hbad
    · exact hrest hbad
  unfold withLine
  split
  · rename_i rest hmark
    rw [hmark] at htext
    rw [String.toList_ofList]
    intro hrefers
    have hneutral : ∀ c ∈ ['\uFEFF'], Neutral c := by simp [Neutral]
    refine hline (fun hrest => htext ?_) (Refers.of_append hrefers hneutral)
    rw [String.toList_ofList] at hrest
    exact hrest.trans (List.suffix_cons _ _).isInfix
  · exact hline htext

/-- A line with a value on its own adds the value to a document that does not use its key. -/
theorem adds_withLine {text : String} (hkey : IsBareKey key) (htoken : value? token = some v)
    (hunused : ¬Uses text key) : Adds key v text (withLine key token text) := by
  intro members hparse
  have hunused : key ∉ members.map Prod.fst := fun hmem => hunused ⟨members, hparse, hmem⟩
  have hparse' : parse? (withLine key token text) = some ((key, v) :: members) := by
    have hline := endsLine_of_value? htoken
    unfold withLine
    split
    · rename_i rest htext
      rw [parse?_mark htext] at hparse
      rw [parse?_mark (String.toList_ofList ..)]
      exact readTable?_lineBefore hkey hline (by rwa [String.toList_ofList]) hunused
    · rename_i hmark
      refine parse?_lineBefore hkey hline (fun hhead => ?_) hparse hunused
      rcases List.head?_eq_some_iff.1 hhead with ⟨rest, htext⟩
      exact hmark rest htext
  refine ⟨_, hparse', ?_, fun name hname => ?_⟩
  · simp [lookup?]
  · simp [lookup?, Ne.symm hname]

end Toml
end Gatehouse
