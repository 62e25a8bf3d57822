import Gatehouse.Proofs.Edge.NormalPath

/-!
# Where an address leads

An address is cut into a scheme, an authority and a rest before any of them is read.  The
authority names a host, perhaps with a port or a user; how it is read is a parameter here, and one
way is to read a host with or without a port.

Main results:

- Theorem {lit}`Url.parse?_eq_readBy?`: an address is cut before it is read.
- Theorem {lit}`Url.sections?_append`: what stands behind an authority belongs to it up to its
  end.
- Theorem {lit}`Url.same_host_of_origin`: addresses with the same scheme and authority are read as
  addresses of the same host.
- Theorem {lit}`Url.Rooted.origin?_append`: a path or a query behind an authority does not belong
  to it.
-/

namespace Gatehouse
namespace Url

/-! ## Characters that are kept -/

/-- A text without tabs and line breaks. -/
def unbroken (text : List Char) : List Char :=
  text.filter fun c => c ≠ '\t' && c ≠ '\n' && c ≠ '\r'

/-- A text without the blanks at its end. -/
def trimmedEnd (text : List Char) : List Char :=
  (text.reverse.dropWhile (·.toNat ≤ 0x20)).reverse

/-- What is read of an address. -/
def kept (text : List Char) : List Char :=
  trimmedEnd ((unbroken text).dropWhile (·.toNat ≤ 0x20))

theorem unbroken_append (front back : List Char) :
    unbroken (front ++ back) = unbroken front ++ unbroken back :=
  List.filter_append front back

/-- A visible text has no tabs and line breaks. -/
theorem unbroken_visible {text : List Char} (h : ∀ c ∈ text, 0x20 < c.toNat) :
    unbroken text = text :=
  filter_visible h

/-- What is visible in front of a text stays. -/
theorem trimmedEnd_front {front : List Char} (h : ∀ c ∈ front, 0x20 < c.toNat)
    (back : List Char) : trimmedEnd (front ++ back) = front ++ trimmedEnd back := by
  have hfront : front.reverse.dropWhile (·.toNat ≤ 0x20) = front.reverse :=
    dropWhile_visible fun c hc => h c (List.mem_reverse.1 hc)
  unfold trimmedEnd
  rw [List.reverse_append, List.dropWhile_append, hfront]
  split
  · rename_i hblank
    rw [List.isEmpty_iff.1 hblank, List.reverse_nil, List.append_nil, List.reverse_reverse]
  · rw [List.reverse_append, List.reverse_reverse]

/-- A visible end keeps what stands in front of it. -/
theorem trimmedEnd_back {back : List Char} (h : ∀ c ∈ back, 0x20 < c.toNat) (hne : back ≠ [])
    (front : List Char) : trimmedEnd (front ++ back) = front ++ back := by
  have hback : back.reverse.dropWhile (·.toNat ≤ 0x20) = back.reverse :=
    dropWhile_visible fun c hc => h c (List.mem_reverse.1 hc)
  unfold trimmedEnd
  rw [List.reverse_append, List.dropWhile_append, hback, if_neg (by simpa using hne),
    List.reverse_append, List.reverse_reverse, List.reverse_reverse]

/-- A visible text is read as it is. -/
theorem kept_visible {text : List Char} (h : ∀ c ∈ text, 0x20 < c.toNat) : kept text = text :=
  trimmed_visible h

/-- A visible front is read as it is. -/
theorem kept_front {front : List Char} (h : ∀ c ∈ front, 0x20 < c.toNat) (hne : front ≠ [])
    (back : List Char) : kept (front ++ back) = front ++ trimmedEnd (unbroken back) := by
  rcases List.exists_cons_of_ne_nil hne with ⟨c, more, rfl⟩
  have hc : ¬ c.toNat ≤ 0x20 := Nat.not_le.2 (h c List.mem_cons_self)
  rw [kept, unbroken_append, unbroken_visible h, List.cons_append,
    List.dropWhile_cons_of_neg (by simpa using hc), ← List.cons_append, trimmedEnd_front h]

/-- A visible end is read as it is. -/
theorem kept_back {back : List Char} (h : ∀ c ∈ back, 0x20 < c.toNat) (hne : back ≠ [])
    (front : List Char) :
    kept (front ++ back) = (unbroken front).dropWhile (·.toNat ≤ 0x20) ++ back := by
  rw [kept, unbroken_append, unbroken_visible h, List.dropWhile_append, dropWhile_visible h]
  split
  · rename_i hblank
    rw [List.isEmpty_iff.1 hblank]
    exact trimmedEnd_back h hne []
  · exact trimmedEnd_back h hne _

/-! ## Sections -/

/-- What an address is cut into, as it stands. -/
structure Sections where
  scheme : List Char
  /-- What names the host, perhaps with a port or a user. -/
  authority : List Char
  /-- The path, the query and the fragment. -/
  rest : List Char

/-- The sections of a text of which all is read: the scheme ends with a colon, and slashes stand in
front of the authority. -/
def cut? (text : List Char) : Option Sections :=
  (Text.splitOnceList ':' text).map fun (scheme, rest) =>
    ⟨scheme, (rest.dropWhile isSlash).takeWhile inHost, (rest.dropWhile isSlash).dropWhile inHost⟩

/-- The sections of an address. -/
def sections? (text : List Char) : Option Sections := cut? (kept text)

/-- The address that some sections make up, by a reader of authorities. -/
def Sections.read? (hostOf? : List Char → Option String) (s : Sections) : Option Url :=
  if schemes.contains (Text.lower (String.ofList s.scheme)) then
    (hostOf? s.authority).map fun host =>
      ⟨Text.lower (String.ofList s.scheme), host, (readPathAndQuery s.rest).1,
        (readPathAndQuery s.rest).2⟩
  else none

/-- What the sections of an address make up. -/
theorem Sections.read?_eq_some_iff {hostOf? : List Char → Option String} {s : Sections} {u : Url} :
    s.read? hostOf? = some u ↔
      schemes.contains (Text.lower (String.ofList s.scheme)) = true ∧
        ∃ host, hostOf? s.authority = some host ∧
          u = ⟨Text.lower (String.ofList s.scheme), host, (readPathAndQuery s.rest).1,
            (readPathAndQuery s.rest).2⟩ := by
  unfold Sections.read?
  split
  · rename_i hscheme
    rw [Option.map_eq_some_iff, and_iff_right hscheme]
    exact exists_congr fun host => and_congr_right fun _ => eq_comm
  · rename_i hscheme
    exact ⟨nofun, fun h => absurd h.1 hscheme⟩

/-- The address of a text, by a reader of authorities. -/
def readBy? (hostOf? : List Char → Option String) (text : String) : Option Url :=
  (sections? text.toList).bind (Sections.read? hostOf?)

/-- A reader for which an empty text names no host reads an authority. -/
theorem ne_nil_of_host {hostOf? : List Char → Option String} (hempty : hostOf? [] = none)
    {authority : List Char} {host : String} (h : hostOf? authority = some host) :
    authority ≠ [] := by
  rintro rfl
  rw [hempty] at h
  exact nomatch h

/-- The reader of hosts, with a port or without one. -/
def plainHost? (authority : List Char) : Option String :=
  if isAuthority authority then some (Text.lower (String.ofList authority)) else none

/-- An address is cut before it is read. -/
theorem parse?_eq_readBy? (text : String) : parse? text = readBy? plainHost? text := by
  have hrest (rest : List Char) :
      rest.drop (rest.takeWhile inHost).length = rest.dropWhile inHost := by
    have hcut := List.takeWhile_append_dropWhile (p := inHost) (l := rest)
    exact (congrArg (List.drop _) hcut.symm).trans List.drop_left
  have hread : parse? text = (Text.splitOnceList ':' (kept text.toList)).bind fun (scheme, rest) =>
      if schemes.contains (Text.lower (String.ofList scheme)) &&
          isAuthority ((rest.dropWhile isSlash).takeWhile inHost) then
        some ⟨Text.lower (String.ofList scheme),
          Text.lower (String.ofList ((rest.dropWhile isSlash).takeWhile inHost)),
          (readPathAndQuery ((rest.dropWhile isSlash).drop
            ((rest.dropWhile isSlash).takeWhile inHost).length)).1,
          (readPathAndQuery ((rest.dropWhile isSlash).drop
            ((rest.dropWhile isSlash).takeWhile inHost).length)).2⟩
      else none := rfl
  rw [hread, readBy?, sections?, cut?]
  cases Text.splitOnceList ':' (kept text.toList) with
  | none => rfl
  | some cut =>
      simp only [Option.bind_some, Option.map_some, hrest, Sections.read?, plainHost?]
      cases schemes.contains (Text.lower (String.ofList cut.1)) with
      | false => rfl
      | true => cases isAuthority ((cut.2.dropWhile isSlash).takeWhile inHost) <;> rfl

/-! ### What stands behind a character that ends an authority -/

/-- Nothing from a character on that does not satisfy a condition is taken or dropped by it. -/
theorem takeWhile_dropWhile_stop {p : Char → Bool} {c : Char} (hc : p c = false)
    (front back : List Char) :
    (front ++ c :: back).takeWhile p = front.takeWhile p ∧
      (front ++ c :: back).dropWhile p = front.dropWhile p ++ c :: back := by
  induction front with
  | nil => simp [hc]
  | cons d front ih => cases hd : p d <;> simp [hd, ih]

/-- A text is not cut in front of its first separator. -/
theorem splitOnceList_front {sep : Char} {front : List Char} (h : sep ∉ front)
    (back : List Char) :
    Text.splitOnceList sep (front ++ back) =
      (Text.splitOnceList sep back).map fun cut => (front ++ cut.1, cut.2) := by
  induction front with
  | nil => simp
  | cons c front ih =>
      simp only [List.mem_cons, not_or] at h
      rw [List.cons_append, Text.splitOnceList, if_neg (Ne.symm h.1), ih h.2, Option.map_map]
      rfl

/-- A slash behind a text with an authority ends its rest, and so does whatever stands behind the
slash.  Slashes at the end of the text itself do not matter. -/
theorem cut?_slash {front slashes : List Char} {s : Sections} (hslashes : ∀ c ∈ slashes, c = '/')
    (h : cut? (front ++ slashes) = some s) (hne : s.authority ≠ []) :
    ∃ rest, (∀ c ∈ rest, c ∈ front) ∧ (∀ c, rest.head? = some c → inHost c = false) ∧
      ∀ back, cut? (front ++ '/' :: back) =
        some ⟨s.scheme, s.authority, rest ++ '/' :: back⟩ := by
  have hslash : isSlash '/' = true := by decide
  have hend : inHost '/' = false := by decide
  by_cases hcolon : ':' ∈ front
  · rcases List.eq_append_cons_of_mem hcolon with ⟨scheme, more, rfl, hscheme⟩
    have hcut (back : List Char) :
        cut? (scheme ++ ':' :: more ++ back) =
          some ⟨scheme, ((more ++ back).dropWhile isSlash).takeWhile inHost,
            ((more ++ back).dropWhile isSlash).dropWhile inHost⟩ := by
      rw [List.append_assoc, List.cons_append, cut?, Text.splitOnceList_append hscheme,
        Option.map_some]
    rw [hcut, Option.some.injEq] at h
    subst h
    cases hmore : more.dropWhile isSlash with
    | nil =>
        -- only slashes stand behind the colon, and no authority
        have hnone : (more ++ slashes).dropWhile isSlash = [] := by
          have hall : (slashes ++ []).dropWhile isSlash = [] :=
            List.dropWhile_append_of_pos fun c hc => by rw [hslashes c hc, hslash]
          rw [List.append_nil] at hall
          rw [List.dropWhile_append, hmore, if_pos List.isEmpty_nil, hall]
        exact absurd (by rw [hnone]; rfl) hne
    | cons c behind =>
        have hbehind (back : List Char) :
            (more ++ back).dropWhile isSlash = c :: behind ++ back := by
          rw [List.dropWhile_append, hmore, if_neg (by simp)]
        have hauthority : (c :: behind ++ slashes).takeWhile inHost =
            (c :: behind).takeWhile inHost := by
          cases slashes with
          | nil => rw [List.append_nil]
          | cons d slashes =>
              rw [hslashes d List.mem_cons_self]
              exact (takeWhile_dropWhile_stop hend (c :: behind) slashes).1
        refine ⟨(c :: behind).dropWhile inHost, fun d hd => ?_, fun d hd => ?_, fun back => ?_⟩
        · have hmem : d ∈ more.dropWhile isSlash := hmore ▸ (List.dropWhile_suffix _).subset hd
          exact List.mem_append_right _
            (List.mem_cons_of_mem _ ((List.dropWhile_suffix _).subset hmem))
        · have hstop := List.head?_dropWhile_not inHost (c :: behind)
          rw [hd] at hstop
          exact hstop
        · rw [hcut, hbehind, hbehind, (takeWhile_dropWhile_stop hend _ back).1,
            (takeWhile_dropWhile_stop hend _ back).2, hauthority]
  · have hfree : ':' ∉ front ++ slashes := by
      rw [List.mem_append, not_or]
      exact ⟨hcolon, fun hc => absurd (hslashes ':' hc) (by decide)⟩
    rw [cut?, Text.splitOnceList_of_not_mem hfree] at h
    exact nomatch h

/-- The path of a text ends at the mark of a query or of a fragment. -/
theorem readPathAndQuery_mark {front : List Char} (hquery : '?' ∉ front) (hfragment : '#' ∉ front)
    {mark : Char} (hmark : mark = '?' ∨ mark = '#') (back : List Char) :
    (readPathAndQuery (front ++ mark :: back)).1 = readPath front := by
  rcases hmark with rfl | rfl
  · have hkept : ∀ c ∈ front, decide (c ≠ '#') = true := fun c hc =>
      decide_eq_true fun hmark => hfragment (hmark ▸ hc)
    have hbefore : beforeFragment (front ++ '?' :: back) =
        front ++ '?' :: beforeFragment back := by
      rw [beforeFragment, List.takeWhile_append_of_pos hkept,
        List.takeWhile_cons_of_pos (by decide)]
      rfl
    rw [readPathAndQuery, hbefore, Text.splitOnceList_append hquery]
  · have hbefore : beforeFragment (front ++ '#' :: back) = front :=
      Text.takeWhile_append hfragment back
    rw [readPathAndQuery, hbefore, Text.splitOnceList_of_not_mem hquery]

/-- A text without the mark of a query or of a fragment is all path. -/
theorem readPathAndQuery_unmarked {text : List Char} (hquery : '?' ∉ text)
    (hfragment : '#' ∉ text) : readPathAndQuery text = (readPath text, none) := by
  have hbefore : beforeFragment text = text := Text.takeWhile_of_not_mem hfragment
  rw [readPathAndQuery, hbefore, Text.splitOnceList_of_not_mem hquery]

/-- The mark of a query or of a fragment does not stand in a scheme. -/
theorem not_mem_schemes_of_mark {mark : Char} (hmark : mark = '?' ∨ mark = '#') {scheme : List Char}
    (h : mark ∈ scheme) : schemes.contains (Text.lower (String.ofList scheme)) = false := by
  rw [Bool.eq_false_iff]
  intro hscheme
  have hletter := toLower_mem_of_scheme (List.contains_iff_mem.1 hscheme) h
  rcases hmark with rfl | rfl <;> exact absurd hletter (by decide)

/-- What stands behind the mark of a query or of a fragment does not matter for the path. -/
theorem exists_path_of_mark (hostOf? : List Char → Option String) {front : List Char}
    (hquery : '?' ∉ front) (hfragment : '#' ∉ front) {mark : Char}
    (hmark : mark = '?' ∨ mark = '#') :
    ∃ path, ∀ back u, (cut? (front ++ mark :: back)).bind (Sections.read? hostOf?) = some u →
      u.path = path := by
  have hslash : isSlash mark = false := by rcases hmark with rfl | rfl <;> decide
  have hhost : inHost mark = false := by rcases hmark with rfl | rfl <;> decide
  by_cases hcolon : ':' ∈ front
  · rcases List.eq_append_cons_of_mem hcolon with ⟨scheme, more, rfl, hscheme⟩
    have hrest : ∀ c ∈ (more.dropWhile isSlash).dropWhile inHost, c ∈ more := fun c hc =>
      (List.dropWhile_suffix _).subset ((List.dropWhile_suffix _).subset hc)
    simp only [List.mem_append, List.mem_cons, not_or] at hquery hfragment
    refine ⟨readPath ((more.dropWhile isSlash).dropWhile inHost), fun back u h => ?_⟩
    rw [List.append_assoc, List.cons_append, cut?, Text.splitOnceList_append hscheme,
      Option.map_some, Option.bind_some] at h
    dsimp only at h
    rw [(takeWhile_dropWhile_stop hslash more back).2,
      (takeWhile_dropWhile_stop hhost _ back).2] at h
    rcases Sections.read?_eq_some_iff.1 h with ⟨-, host, -, rfl⟩
    exact readPathAndQuery_mark (fun hc => hquery.2.2 (hrest _ hc))
      (fun hc => hfragment.2.2 (hrest _ hc)) hmark back
  · -- the mark belongs to the scheme, and no address is read
    have hfree : ':' ∉ front ++ [mark] := by
      rcases hmark with rfl | rfl <;> simp [hcolon]
    refine ⟨[], fun back u h => ?_⟩
    rcases Option.bind_eq_some_iff.1 h with ⟨s, hs, hread⟩
    rw [List.append_cons, cut?, splitOnceList_front hfree, Option.map_map,
      Option.map_eq_some_iff] at hs
    rcases hs with ⟨cut, -, rfl⟩
    have hmem : mark ∈ front ++ [mark] ++ cut.1 := by simp
    have hscheme := (Sections.read?_eq_some_iff.1 hread).1
    exact absurd hscheme (Bool.eq_false_iff.1 (not_mem_schemes_of_mark hmark hmem))

/-- What stands behind an authority belongs to it up to its end. -/
theorem sections?_append {scheme authority : List Char}
    (hscheme : ∀ c ∈ scheme, 0x20 < c.toNat ∧ c ≠ ':') (hne : authority ≠ [])
    (hauthority : ∀ c ∈ authority, 0x20 < c.toNat ∧ inHost c = true) (back : List Char) :
    sections? (scheme ++ ':' :: '/' :: '/' :: (authority ++ back)) =
      some ⟨scheme, authority ++ (trimmedEnd (unbroken back)).takeWhile inHost,
        (trimmedEnd (unbroken back)).dropWhile inHost⟩ := by
  have hfront : ∀ c ∈ scheme ++ ':' :: '/' :: '/' :: authority, 0x20 < c.toNat := by
    intro c hc
    rcases List.mem_append.1 hc with hc | hc
    · exact (hscheme c hc).1
    · simp only [List.mem_cons] at hc
      rcases hc with rfl | rfl | rfl | hc
      · decide
      · decide
      · decide
      · exact (hauthority c hc).1
  have hcut (tail : List Char) :
      (scheme ++ ':' :: '/' :: '/' :: authority) ++ tail =
        scheme ++ ':' :: '/' :: '/' :: (authority ++ tail) := by
    rw [List.append_assoc]
    rfl
  have hcolon : ':' ∉ scheme := fun hc => (hscheme ':' hc).2 rfl
  have hin : ∀ c ∈ authority, inHost c = true := fun c hc => (hauthority c hc).2
  have hslashes (tail : List Char) :
      ('/' :: '/' :: (authority ++ tail)).dropWhile isSlash = authority ++ tail := by
    rcases List.exists_cons_of_ne_nil hne with ⟨c, more, hmore⟩
    have hc := hin c (hmore ▸ List.mem_cons_self)
    simp only [inHost, Bool.and_eq_true, Bool.not_eq_true'] at hc
    have hslash : isSlash '/' = true := by decide
    rw [hmore, List.dropWhile_cons_of_pos hslash, List.dropWhile_cons_of_pos hslash,
      List.cons_append, List.dropWhile_cons_of_neg (by simp [hc.1.1])]
  rw [sections?, cut?, ← hcut, kept_front hfront (by simp), hcut, Text.splitOnceList_append hcolon,
    Option.map_some]
  dsimp only
  rw [hslashes, List.takeWhile_append_of_pos hin, List.dropWhile_append_of_pos hin]

/-! ## Origins -/

/-- Where an address leads: its scheme, in lower case, and its authority as it stands. -/
structure Origin where
  scheme : String
  authority : String
deriving DecidableEq, Repr

/-- Where an address leads that is cut into some sections. -/
def Sections.origin (s : Sections) : Origin :=
  ⟨Text.lower (String.ofList s.scheme), String.ofList s.authority⟩

/-- Where an address leads. -/
def origin? (text : String) : Option Origin := (sections? text.toList).map Sections.origin

/-- An address that can be read is one of its scheme and of the host that its authority names. -/
theorem origin?_of_readBy? {hostOf? : List Char → Option String} {text : String} {u : Url}
    (h : readBy? hostOf? text = some u) :
    ∃ o, origin? text = some o ∧ u.scheme = o.scheme ∧
      hostOf? o.authority.toList = some u.authority := by
  rcases Option.bind_eq_some_iff.1 h with ⟨s, hs, hread⟩
  rcases Sections.read?_eq_some_iff.1 hread with ⟨-, host, hhost, rfl⟩
  refine ⟨s.origin, by rw [origin?, hs, Option.map_some], rfl, ?_⟩
  rw [Sections.origin, String.toList_ofList]
  exact hhost

/-- Two addresses that lead to the same have the same scheme and host, however authorities are
read. -/
theorem same_host_of_origin {hostOf? : List Char → Option String} {a b : String} {u v : Url}
    (horigin : origin? a = origin? b) (ha : readBy? hostOf? a = some u)
    (hb : readBy? hostOf? b = some v) : u.scheme = v.scheme ∧ u.authority = v.authority := by
  rcases origin?_of_readBy? ha with ⟨o, ho, hscheme, hhost⟩
  rcases origin?_of_readBy? hb with ⟨o', ho', hscheme', hhost'⟩
  have hsame : o = o' := Option.some.inj (ho.symm.trans (horigin.trans ho'))
  subst hsame
  exact ⟨hscheme.trans hscheme'.symm, Option.some.inj (hhost.symm.trans hhost')⟩

/-- A text that is a scheme and an authority, with a path behind them or without one. -/
structure Rooted (text scheme authority path : String) : Prop where
  text_eq : text = scheme ++ "://" ++ authority ++ path
  scheme_chars : ∀ c ∈ scheme.toList, c.isAlphanum = true ∨ c ∈ ['+', '-', '.']
  authority_ne : authority ≠ ""
  authority_chars : ∀ c ∈ authority.toList, 0x20 < c.toNat ∧ inHost c = true
  path_start : path = "" ∨ path.toList.head? = some '/'

/-- The characters of a scheme are visible, and no colon is among them. -/
theorem visible_of_schemeChar {c : Char} (h : c.isAlphanum = true ∨ c ∈ ['+', '-', '.']) :
    0x20 < c.toNat ∧ c ≠ ':' := by
  rcases h with h | h
  · exact Text.of_isAlphanum (P := fun d => 0x20 < d.toNat ∧ d ≠ ':') (by decide) h
  · simp only [List.mem_cons, List.not_mem_nil, or_false] at h
    rcases h with rfl | rfl | rfl <;> decide

namespace Rooted

variable {text scheme authority path : String} (h : Rooted text scheme authority path)
include h

/-- What such a text is cut into, whatever stands behind its authority. -/
theorem sections?_append (back : String) :
    sections? (scheme ++ "://" ++ authority ++ back).toList =
      some ⟨scheme.toList,
        authority.toList ++ (trimmedEnd (unbroken back.toList)).takeWhile inHost,
        (trimmedEnd (unbroken back.toList)).dropWhile inHost⟩ := by
  have hne : authority.toList ≠ [] := fun hnone => h.authority_ne (String.toList_eq_nil_iff.1 hnone)
  have htext : (scheme ++ "://" ++ authority ++ back).toList =
      scheme.toList ++ ':' :: '/' :: '/' :: (authority.toList ++ back.toList) := by
    simp
  rw [htext]
  exact Url.sections?_append (fun c hc => visible_of_schemeChar (h.scheme_chars c hc)) hne
    h.authority_chars back.toList

/-- A path or a query behind the authority does not belong to it. -/
theorem origin?_append {back : String}
    (hback : ∀ c, back.toList.head? = some c → c = '/' ∨ c = '?') :
    origin? (scheme ++ "://" ++ authority ++ back) = some ⟨Text.lower scheme, authority⟩ := by
  have hend : (trimmedEnd (unbroken back.toList)).takeWhile inHost = [] := by
    cases hchars : back.toList with
    | nil => rfl
    | cons c more =>
        have hc := hback c (by rw [hchars]; rfl)
        have hvisible : ∀ d ∈ [c], 0x20 < d.toNat := by
          intro d hd
          rw [List.mem_singleton.1 hd]
          rcases hc with rfl | rfl <;> decide
        have hends : inHost c = false := by
          rcases hc with rfl | rfl <;> decide
        have hstart := trimmedEnd_front hvisible (unbroken more)
        rw [← unbroken_visible hvisible, ← unbroken_append, unbroken_visible hvisible] at hstart
        rw [List.singleton_append] at hstart
        rw [hstart, List.singleton_append, List.takeWhile_cons_of_neg (by simp [hends])]
  rw [origin?, h.sections?_append back, hend, List.append_nil, Option.map_some, Sections.origin,
    String.ofList_toList, String.ofList_toList]

/-- An asterisk right behind the authority belongs to it. -/
theorem origin?_asterisk :
    origin? (scheme ++ "://" ++ authority ++ "*") =
      some ⟨Text.lower scheme, authority ++ "*"⟩ := by
  have hin : (trimmedEnd (unbroken "*".toList)).takeWhile inHost = "*".toList := by decide
  rw [origin?, h.sections?_append "*", hin, Option.map_some, Sections.origin,
    ← String.toList_append, String.ofList_toList, String.ofList_toList]

/-- The slashes at the end of such a text are those of its path. -/
theorem withoutTrailingSlashes_eq :
    withoutTrailingSlashes text =
      scheme ++ "://" ++ authority ++ withoutTrailingSlashes path := by
  have hne : authority.toList ≠ [] := fun hnone => h.authority_ne (String.toList_eq_nil_iff.1 hnone)
  have hlast : (scheme ++ "://" ++ authority).toList.getLast? ≠ some '/' := by
    intro hslash
    rw [String.toList_append, List.getLast?_append, List.getLast?_eq_some_getLast hne,
      Option.some_or, ← List.getLast?_eq_some_getLast hne] at hslash
    have hin := (h.authority_chars '/' (List.mem_of_getLast? hslash)).2
    exact absurd hin (by decide)
  rw [h.text_eq, withoutTrailingSlashes_append hlast]

/-- What is left of the path without the slashes at its end is nothing, or a path. -/
theorem path_left :
    withoutTrailingSlashes path = "" ∨
      (withoutTrailingSlashes path).toList.head? = some '/' := by
  rcases exists_slashes path with ⟨slashes, hpath⟩
  cases hleft : (withoutTrailingSlashes path).toList with
  | nil => exact .inl (String.toList_eq_nil_iff.1 hleft)
  | cons c more =>
      right
      have hchars : path.toList = c :: more ++ List.replicate slashes '/' := by
        rw [hpath, String.toList_append, String.toList_ofList, hleft]
      rcases h.path_start with hnone | hstart
      · rw [hnone] at hchars
        exact nomatch hchars
      · rw [hchars] at hstart
        exact hstart

end Rooted
end Url
end Gatehouse
