import Gatehouse.Edge.Snapshot
import Gatehouse.Proofs.Edge.Origin
import Gatehouse.Proofs.Edge.Passage
import Gatehouse.Proofs.Text.Spelling

/-!
# The address of a snapshot

The snapshot of a key is asked for at an address that is put together from a base and the key,
spelled as one segment.  As a text the address is faithful: the key can be read from its end.  But
an address is brought into normal form before a request is sent, and there a segment of dots does
not stand for itself, however its dots are spelled.

Main results:

- Theorem {lit}`snapshotUrl_spelled`: what the address of a key is as a text.
- Theorem {lit}`Url.exists_readBy?_snapshot`: where the address of a key leads, below a base without
  a query and a fragment.
- Theorem {lit}`Url.exists_folder`: every address without blanks has a folder, on the same host.
- Theorem {lit}`Url.path_of_marked`: below any other base it leads to where the base does.
- Theorem {lit}`Url.staysBelow_iff`: which keys stay below the base.
-/

namespace Gatehouse

/-! ## The text of an address -/

/-- The address of the snapshot of a key is the base without the slashes at its end, a slash and
the key, spelled as one segment from which the key can be read; so no two keys have the same
address. -/
theorem snapshotUrl_spelled (base key : String) :
    (∃ slashes, base = withoutTrailingSlashes base ++
      String.ofList (List.replicate slashes '/')) ∧
      (withoutTrailingSlashes base).toList.getLast? ≠ some '/' ∧
      (∃ suffix, snapshotUrl base key =
          withoutTrailingSlashes base ++ "/" ++ String.ofList suffix ∧
        Text.Spelled suffix ∧ Text.percentDecode suffix = Text.utf8 key ∧
        (∀ c ∈ suffix, c.toNat < 0x80 ∧ c ≠ '/' ∧ c ≠ '?' ∧ c ≠ '#') ∧
        (∀ front back, suffix = front ++ '%' :: back → ∃ high low rest,
          back = high :: low :: rest ∧ high ∈ Text.segmentDigits ∧ low ∈ Text.segmentDigits)) ∧
      ∀ other, snapshotUrl base key = snapshotUrl base other ↔ key = other := by
  have hspelled := Text.spelled_percentSegment key
  refine ⟨exists_slashes base, getLast?_withoutTrailingSlashes base,
    ⟨Text.percentSegment key, rfl, hspelled, Text.percentDecode_segment key,
      fun c hc => hspelled.ascii hc, ?_⟩, fun other => ⟨fun hsame => ?_, congrArg _⟩⟩
  · intro front back hback
    exact (hback ▸ hspelled).digits_behind
  · rw [snapshotUrl, snapshotUrl, String.append_right_inj, String.ofList_inj] at hsame
    exact Text.percentSegment_injective hsame

/-! ## Segments behind others -/

namespace Url

/-- The segments that are settled when all of some segments have another one behind them, in
reverse. -/
def settled (done front : List String) : List String :=
  front.foldl (fun done segment =>
    if isDoubleDot segment then done.tail
    else if isSingleDot segment then done
    else segment :: done) done

/-- The last segment is settled after all others. -/
theorem settle_last (front done : List String) (last : String) :
    settle done (front ++ [last]) = settle (settled done front) [last] := by
  induction front generalizing done with
  | nil => rfl
  | cons segment front ih =>
      rw [List.cons_append, settle_cons (by simp), settled, List.foldl_cons]
      split
      · exact ih done.tail
      · split
        · exact ih done
        · exact ih (segment :: done)

/-- Behind a path and a slash another segment is settled last. -/
theorem readPath_behind {rest : List Char} (hrest : ∀ c, rest.head? = some c → isSlash c = true) :
    ∃ done, ∀ last : String, (∀ c ∈ last.toList, standsInSegment c = true) →
      readPath (rest ++ '/' :: last.toList) = settle done [last] := by
  cases rest with
  | nil =>
      refine ⟨[], fun last h => ?_⟩
      rw [List.nil_append, readPath_slash (by decide), encodedParts_of_stands h]
  | cons c rest =>
      refine ⟨settled [] (encodedParts rest), fun last h => ?_⟩
      rw [List.cons_append, readPath_slash (hrest c rfl), encodedParts_slash,
        encodedParts_of_stands h, settle_last]

/-! ## Keys that are dots -/

/-- The lower case of a segment of a key. -/
theorem toList_lower_percentSegment (key : String) :
    (Text.lower (String.ofList (Text.percentSegment key))).toList =
      (Text.percentSegment key).map Char.toLower := by
  rw [Text.lower, String.toList_ofList, String.toList_ofList]

/-- The lower case of a segment of a key is no text with a dot. -/
theorem lower_percentSegment_ne {dotted : String} (h : '.' ∈ dotted.toList) (key : String) :
    Text.lower (String.ofList (Text.percentSegment key)) ≠ dotted := by
  rintro rfl
  rw [toList_lower_percentSegment] at h
  exact (Text.spelled_percentSegment key).dot_not_mem h

/-- The segment of a key is one dot exactly if the key is. -/
theorem isSingleDot_percentSegment (key : String) :
    isSingleDot (String.ofList (Text.percentSegment key)) = true ↔ key = "." := by
  have hspelled := Text.spelled_percentSegment key
  have hlower := toList_lower_percentSegment key
  constructor
  · intro hdot
    simp only [isSingleDot, List.contains_iff_mem, List.mem_cons, List.not_mem_nil, or_false]
      at hdot
    rcases hdot with hdot | hdot
    · exact absurd hdot (lower_percentSegment_ne (by decide) key)
    · rw [hdot] at hlower
      rcases hspelled.coded_dot hlower.symm with ⟨rest, hcoded, -, hrest⟩
      rw [List.map_eq_nil_iff.1 hrest] at hcoded
      have hkey : Text.percentSegment "." = ['%', '2', 'E'] := by decide
      exact Text.percentSegment_injective (hcoded.trans hkey.symm)
  · rintro rfl
    decide +kernel

/-- The segment of a key is two dots exactly if the key is. -/
theorem isDoubleDot_percentSegment (key : String) :
    isDoubleDot (String.ofList (Text.percentSegment key)) = true ↔ key = ".." := by
  have hspelled := Text.spelled_percentSegment key
  have hlower := toList_lower_percentSegment key
  constructor
  · intro hdots
    simp only [isDoubleDot, List.contains_iff_mem, List.mem_cons, List.not_mem_nil, or_false]
      at hdots
    rcases hdots with hdots | hdots | hdots | hdots
    · exact absurd hdots (lower_percentSegment_ne (by decide) key)
    · exact absurd hdots (lower_percentSegment_ne (by decide) key)
    · exact absurd hdots (lower_percentSegment_ne (by decide) key)
    · rw [hdots] at hlower
      rcases hspelled.coded_dot hlower.symm with ⟨rest, hcoded, hagain, hrest⟩
      rcases hagain.coded_dot hrest with ⟨rest', hcoded', -, hrest'⟩
      rw [hcoded', List.map_eq_nil_iff.1 hrest'] at hcoded
      have hkey : Text.percentSegment ".." = ['%', '2', 'E', '%', '2', 'E'] := by decide
      exact Text.percentSegment_injective (hcoded.trans hkey.symm)
  · rintro rfl
    decide +kernel

/-! ## Folders -/

/-- The address of the folder of a base, behind which its keys stand. -/
def folderAddress (base : String) : String := withoutTrailingSlashes base ++ "/"

/-- The characters of the base without the slashes at its end are characters of the base. -/
theorem mem_of_mem_withoutTrailingSlashes {base : String} {c : Char}
    (h : c ∈ (withoutTrailingSlashes base).toList) : c ∈ base.toList := by
  rcases exists_slashes base with ⟨slashes, hslashes⟩
  rw [hslashes, String.toList_append]
  exact List.mem_append_left _ h

/-- What is read of a base in front of the slash of its folder. -/
def readFront (base : String) : List Char :=
  (unbroken (withoutTrailingSlashes base).toList).dropWhile (·.toNat ≤ 0x20)

/-- What is read of a base are characters of the base. -/
theorem mem_of_mem_readFront {base : String} {c : Char} (h : c ∈ readFront base) :
    c ∈ base.toList :=
  mem_of_mem_withoutTrailingSlashes
    (List.mem_filter.1 ((List.dropWhile_suffix _).subset h)).1

/-- Visible characters behind the folder of a base are read behind its slash. -/
theorem sections?_folder (base : String) {back : String}
    (hvisible : ∀ c ∈ back.toList, 0x20 < c.toNat) :
    sections? (folderAddress base ++ back).toList =
      cut? (readFront base ++ '/' :: back.toList) := by
  have hall : ∀ c ∈ '/' :: back.toList, 0x20 < c.toNat := by
    intro c hc
    rcases List.mem_cons.1 hc with rfl | hc
    · decide
    · exact hvisible c hc
  have htext : (folderAddress base ++ back).toList =
      (withoutTrailingSlashes base).toList ++ '/' :: back.toList := by
    simp [folderAddress]
  rw [sections?, htext, kept_back hall (by simp)]
  rfl

/-- What may stand in a segment is visible and is no mark of a query or of a fragment. -/
theorem visible_of_stands {c : Char} (h : standsInSegment c = true) :
    0x20 < c.toNat ∧ c ≠ '?' ∧ c ≠ '#' := by
  rcases standsInSegment_iff.1 h with ⟨⟨hlow, -, hexcluded⟩, -⟩
  refine ⟨hlow, ?_, ?_⟩
  · rintro rfl
    exact hexcluded (by decide)
  · rintro rfl
    exact hexcluded (by decide)

variable {hostOf? : List Char → Option String} {base : String} {folder : Url}

/-- Below a base without a query and a fragment another segment is settled last. -/
theorem exists_readBy?_below (hempty : hostOf? [] = none) (hquery : '?' ∉ base.toList)
    (hfragment : '#' ∉ base.toList) (hfolder : readBy? hostOf? (folderAddress base) = some folder) :
    ∃ done, ∀ last : String, (∀ c ∈ last.toList, standsInSegment c = true) →
      readBy? hostOf? (folderAddress base ++ last) =
        some { folder with path := settle done [last], query := none } := by
  have hbare : sections? (folderAddress base ++ "").toList = cut? (readFront base ++ ['/']) :=
    sections?_folder base (by simp)
  rw [String.append_empty] at hbare
  rcases Option.bind_eq_some_iff.1 hfolder with ⟨s, hs, hread⟩
  rcases Sections.read?_eq_some_iff.1 hread with ⟨hscheme, host, hhost, rfl⟩
  rcases cut?_slash (by simp) (hbare.symm.trans hs) (ne_nil_of_host hempty hhost) with
    ⟨rest, hmem, hhead, hcut⟩
  have hrest : ∀ c ∈ rest, c ≠ '?' ∧ c ≠ '#' := by
    intro c hc
    have hbase := mem_of_mem_readFront (hmem c hc)
    exact ⟨fun hmark => hquery (hmark ▸ hbase), fun hmark => hfragment (hmark ▸ hbase)⟩
  have hslash : ∀ c, rest.head? = some c → isSlash c = true := by
    intro c hc
    have hends := hhead c hc
    have hother := hrest c (List.mem_of_head? hc)
    simpa [inHost, hother.1, hother.2] using hends
  rcases readPath_behind hslash with ⟨done, hdone⟩
  refine ⟨done, fun last hstands => ?_⟩
  have hunmarked : ∀ c ∈ rest ++ '/' :: last.toList, c ≠ '?' ∧ c ≠ '#' := by
    intro c hc
    rcases List.mem_append.1 hc with hc | hc
    · exact hrest c hc
    · rcases List.mem_cons.1 hc with rfl | hc
      · decide
      · exact (visible_of_stands (hstands c hc)).2
  rw [readBy?, sections?_folder base fun c hc => (visible_of_stands (hstands c hc)).1, hcut,
    Option.bind_some]
  refine Sections.read?_eq_some_iff.2 ⟨hscheme, host, hhost, ?_⟩
  dsimp only
  rw [readPathAndQuery_unmarked (fun hc => (hunmarked '?' hc).1 rfl)
    (fun hc => (hunmarked '#' hc).2 rfl), hdone last hstands]

/-- A spelled segment may stand in a path. -/
theorem stands_percentSegment (key : String) :
    ∀ c ∈ (String.ofList (Text.percentSegment key)).toList, standsInSegment c = true := by
  intro c hc
  rw [String.toList_ofList] at hc
  rcases (Text.spelled_percentSegment key).isAlphanum_or hc with hc | rfl
  · exact Text.of_isAlphanum (P := fun d => standsInSegment d = true) (by decide) hc
  · decide

/-- The segment of a key is settled as it is, unless the key is dots. -/
theorem settle_percentSegment (done : List String) (key : String) :
    settle done [String.ofList (Text.percentSegment key)] =
      if key = ".." then done.reverse.dropLast ++ [""]
      else if key = "." then done.reverse ++ [""]
      else done.reverse ++ [String.ofList (Text.percentSegment key)] := by
  rw [settle]
  simp only [isDoubleDot_percentSegment, isSingleDot_percentSegment, List.reverse_cons,
    List.dropLast_reverse]

/-- Below a base without a query and a fragment the address of a key is that of the folder, with
the segment of the key at the end of the path.  A key of one dot has the address of the folder
itself, and a key of two dots that of the folder above it. -/
theorem exists_readBy?_snapshot (hempty : hostOf? [] = none) (hquery : '?' ∉ base.toList)
    (hfragment : '#' ∉ base.toList) (hfolder : readBy? hostOf? (folderAddress base) = some folder) :
    ∃ path, folder.path = path ++ [""] ∧ ∀ key,
      readBy? hostOf? (snapshotRequest base key).address = some { folder with
        path :=
          if key = ".." then path.dropLast ++ [""]
          else if key = "." then path ++ [""]
          else path ++ [String.ofList (Text.percentSegment key)] } := by
  rcases exists_readBy?_below hempty hquery hfragment hfolder with ⟨done, hdone⟩
  have hself := hdone "" (by simp)
  rw [String.append_empty, hfolder, Option.some.injEq] at hself
  have hsettled : settle done [""] = done.reverse ++ [""] := by
    rw [settle, ← List.reverse_cons]
    rfl
  refine ⟨done.reverse, by rw [hself, hsettled], fun key => ?_⟩
  have hkey := hdone _ (stands_percentSegment key)
  rw [settle_percentSegment] at hkey
  have haddress : (snapshotRequest base key).address =
      folderAddress base ++ String.ofList (Text.percentSegment key) := rfl
  rw [haddress, hkey, hself]

/-- An empty text names no host. -/
theorem plainHost?_nil : plainHost? [] = none := by decide

/-- The request on the wire for the snapshot of a key is sent below a base without a query and a
fragment, unless the key is dots. -/
theorem url_of_snapshot {key : String} {w : WireRequest} (hquery : '?' ∉ base.toList)
    (hfragment : '#' ∉ base.toList) (hfolder : parse? (folderAddress base) = some folder)
    (hwire : (snapshotRequest base key).onWire? = some w) :
    ∃ path, folder.path = path ++ [""] ∧ w.url = { folder with
      path :=
        if key = ".." then path.dropLast ++ [""]
        else if key = "." then path ++ [""]
        else path ++ [String.ofList (Text.percentSegment key)] } := by
  rw [parse?_eq_readBy?] at hfolder
  rcases exists_readBy?_snapshot plainHost?_nil hquery hfragment hfolder with ⟨path, hpath, hkeys⟩
  have hsent := Outgoing.url_of_onWire hwire
  rw [parse?_eq_readBy?, hkeys key, Option.some.injEq] at hsent
  exact ⟨path, hpath, hsent.symm⟩

/-- Every address without blanks has a folder, on the same host. -/
theorem exists_folder {u : Url} (hempty : hostOf? [] = none)
    (hvisible : ∀ c ∈ base.toList, 0x20 < c.toNat) (hbase : readBy? hostOf? base = some u) :
    ∃ folder, readBy? hostOf? (folderAddress base) = some folder ∧
      folder.scheme = u.scheme ∧ folder.authority = u.authority := by
  rcases exists_slashes base with ⟨slashes, hslashes⟩
  rcases Option.bind_eq_some_iff.1 hbase with ⟨s, hs, hread⟩
  rcases Sections.read?_eq_some_iff.1 hread with ⟨hscheme, host, hhost, rfl⟩
  have hfront : readFront base = (withoutTrailingSlashes base).toList := by
    have hleft : ∀ c ∈ (withoutTrailingSlashes base).toList, 0x20 < c.toNat := fun c hc =>
      hvisible c (mem_of_mem_withoutTrailingSlashes hc)
    rw [readFront, unbroken_visible hleft, dropWhile_visible hleft]
  have hcut : cut? (readFront base ++ List.replicate slashes '/') = some s := by
    have htext := congrArg String.toList hslashes
    rw [String.toList_append, String.toList_ofList] at htext
    rw [hfront, ← htext, ← hs, sections?, kept_visible hvisible]
  rcases cut?_slash (fun c hc => List.eq_of_mem_replicate hc) hcut
    (ne_nil_of_host hempty hhost) with ⟨rest, -, -, hbehind⟩
  have hbare : sections? (folderAddress base ++ "").toList = cut? (readFront base ++ ['/']) :=
    sections?_folder base (by simp)
  rw [String.append_empty, hbehind []] at hbare
  refine ⟨_, Option.bind_eq_some_iff.2 ⟨_, hbare, Sections.read?_eq_some_iff.2
    ⟨hscheme, host, hhost, rfl⟩⟩, rfl, rfl⟩

/-! ## Bases with a query or a fragment -/

/-- A mark in a base is read in front of the slash of its folder. -/
theorem mem_readFront {mark : Char} (hmark : mark = '?' ∨ mark = '#') (h : mark ∈ base.toList) :
    mark ∈ readFront base := by
  have hleft : mark ∈ (withoutTrailingSlashes base).toList := by
    rcases exists_slashes base with ⟨slashes, hslashes⟩
    rw [hslashes, String.toList_append, String.toList_ofList] at h
    rcases List.mem_append.1 h with h | h
    · exact h
    · rw [List.eq_of_mem_replicate h] at hmark
      exact absurd hmark (by decide)
  have hunbroken : mark ∈ unbroken (withoutTrailingSlashes base).toList := by
    refine List.mem_filter.2 ⟨hleft, ?_⟩
    rcases hmark with rfl | rfl <;> decide
  rw [← List.takeWhile_append_dropWhile (p := (·.toNat ≤ 0x20))
    (l := unbroken (withoutTrailingSlashes base).toList)] at hunbroken
  rcases List.mem_append.1 hunbroken with hblank | hread
  · have hlow := List.all_eq_true.1 List.all_takeWhile _ hblank
    rcases hmark with rfl | rfl <;> exact absurd hlow (by decide)
  · exact hread

/-- A text with a mark of a query or a fragment in it has a first one. -/
theorem exists_first_mark {text : List Char} (h : '?' ∈ text ∨ '#' ∈ text) :
    ∃ front mark back, text = front ++ mark :: back ∧ '?' ∉ front ∧ '#' ∉ front ∧
      (mark = '?' ∨ mark = '#') := by
  induction text with
  | nil => simp at h
  | cons c text ih =>
      by_cases hc : c = '?' ∨ c = '#'
      · exact ⟨[], c, text, rfl, List.not_mem_nil, List.not_mem_nil, hc⟩
      · rw [not_or] at hc
        simp only [List.mem_cons, Ne.symm hc.1, Ne.symm hc.2, false_or] at h
        rcases ih h with ⟨front, mark, back, rfl, hquery, hfragment, hmark⟩
        exact ⟨c :: front, mark, back, rfl, by simp [hquery, Ne.symm hc.1],
          by simp [hfragment, Ne.symm hc.2], hmark⟩

/-- Below a base with a query or a fragment the path of an address is that of the folder. -/
theorem path_of_marked {last : String} {u : Url} (hmark : '?' ∈ base.toList ∨ '#' ∈ base.toList)
    (hvisible : ∀ c ∈ last.toList, 0x20 < c.toNat)
    (hfolder : readBy? hostOf? (folderAddress base) = some folder)
    (hlast : readBy? hostOf? (folderAddress base ++ last) = some u) : u.path = folder.path := by
  have hfront : '?' ∈ readFront base ∨ '#' ∈ readFront base :=
    hmark.imp (mem_readFront (.inl rfl)) (mem_readFront (.inr rfl))
  rcases exists_first_mark hfront with ⟨front, mark, back, hcut, hquery, hfragment, hfirst⟩
  rcases exists_path_of_mark hostOf? hquery hfragment hfirst with ⟨path, hpath⟩
  have hread {last : String} {u : Url} (hvisible : ∀ c ∈ last.toList, 0x20 < c.toNat)
      (h : readBy? hostOf? (folderAddress base ++ last) = some u) : u.path = path := by
    rw [readBy?, sections?_folder base hvisible, hcut, List.append_assoc, List.cons_append] at h
    exact hpath _ u h
  have hbare : readBy? hostOf? (folderAddress base ++ "") = some folder := by
    rw [String.append_empty, hfolder]
  rw [hread hvisible hlast, hread (by simp) hbare]

/-! ## Keys that stay below the base -/

/-- Whether the snapshot of a key is asked for below the base: at the path of the folder, with a
segment behind it from which the key can be read. -/
def StaysBelow (hostOf? : List Char → Option String) (base key : String) : Prop :=
  ∃ (u : Url) (path : List String) (segment : String),
    readBy? hostOf? (folderAddress base) = some { u with path := path ++ [""] } ∧
      readBy? hostOf? (snapshotRequest base key).address =
        some { u with path := path ++ [segment] } ∧
      Text.percentDecode segment.toList = Text.utf8 key

/-- A key that can be read from the empty segment at the end of a path is empty. -/
theorem eq_empty_of_last {path front : List String} {segment key : String}
    (hsame : front ++ [segment] = path ++ [""])
    (hdecoded : Text.percentDecode segment.toList = Text.utf8 key) : key = "" := by
  have hlast := congrArg List.getLast? hsame
  rw [List.getLast?_concat, List.getLast?_concat, Option.some.injEq] at hlast
  rw [hlast] at hdecoded
  have hnone : Text.percentDecode "".toList = Text.utf8 "" := by
    simp [Text.percentDecode, Text.utf8]
  exact Text.utf8_injective (hdecoded.symm.trans hnone)

/-- The snapshot of a key is asked for below a base without a query and a fragment exactly if the
key is not one dot and not two.  Below a base with a query or a fragment that of no key is. -/
theorem staysBelow_iff (hempty : hostOf? [] = none)
    (hfolder : readBy? hostOf? (folderAddress base) = some folder) (key : String) :
    ('?' ∉ base.toList ∧ '#' ∉ base.toList →
        (StaysBelow hostOf? base key ↔ key ≠ "." ∧ key ≠ "..")) ∧
      ('?' ∈ base.toList ∨ '#' ∈ base.toList → StaysBelow hostOf? base key → key = "") := by
  constructor
  · rintro ⟨hquery, hfragment⟩
    rcases exists_readBy?_snapshot hempty hquery hfragment hfolder with ⟨path, hpath, hkeys⟩
    constructor
    · rintro ⟨u, front, segment, -, hkey, hdecoded⟩
      rw [hkeys key, Option.some.injEq] at hkey
      have hsame := (congrArg Url.path hkey).symm
      constructor
      · rintro rfl
        exact absurd (eq_empty_of_last hsame hdecoded) (by decide)
      · rintro rfl
        exact absurd (eq_empty_of_last hsame hdecoded) (by decide)
    · rintro ⟨hone, htwo⟩
      refine ⟨folder, path, String.ofList (Text.percentSegment key), ?_, ?_, ?_⟩
      · rw [hfolder, ← hpath]
      · rw [hkeys key, if_neg htwo, if_neg hone]
      · rw [String.toList_ofList, Text.percentDecode_segment]
  · rintro hmark ⟨u, path, segment, hbare, hkey, hdecoded⟩
    have hvisible : ∀ c ∈ (String.ofList (Text.percentSegment key)).toList, 0x20 < c.toNat :=
      fun c hc => (visible_of_stands (stands_percentSegment key c hc)).1
    exact eq_empty_of_last (path_of_marked hmark hvisible hbare hkey) hdecoded

/-! ### A key of two dots -/

/-- A base for which the address of a key is put together. -/
def sampleBase : String := "http://svc:3000/snapshots/"

/-- The folder of the base. -/
theorem parse?_sampleFolder :
    parse? (folderAddress sampleBase) = some ⟨"http", "svc:3000", ["snapshots", ""], none⟩ := by
  decide +kernel

/-- The snapshot of a key of two dots is not asked for below the base. -/
theorem leaves_base_of_dots :
    plainHost? [] = none ∧
      readBy? plainHost? (folderAddress sampleBase) =
        some ⟨"http", "svc:3000", ["snapshots", ""], none⟩ ∧
      ¬ StaysBelow plainHost? sampleBase ".." := by
  have hfolder := parse?_sampleFolder
  rw [parse?_eq_readBy?] at hfolder
  have hunmarked : '?' ∉ sampleBase.toList ∧ '#' ∉ sampleBase.toList := by decide
  refine ⟨plainHost?_nil, hfolder, fun hbelow => ?_⟩
  exact (((staysBelow_iff plainHost?_nil hfolder "..").1 hunmarked).1 hbelow).2 rfl

/-- The snapshot of a key is not always asked for below the base. -/
theorem not_always_below :
    ¬ ∀ (base key : String) (folder : Url), parse? (folderAddress base) = some folder →
      '?' ∉ base.toList → '#' ∉ base.toList →
      ∃ w path segment, (snapshotRequest base key).onWire? = some w ∧
        folder.path = path ++ [""] ∧ w.url.path = path ++ [segment] ∧
        Text.percentDecode segment.toList = Text.utf8 key := by
  intro halways
  have hquery : '?' ∉ sampleBase.toList := by decide
  have hfragment : '#' ∉ sampleBase.toList := by decide
  rcases halways sampleBase ".." _ parse?_sampleFolder hquery hfragment with
    ⟨w, path, segment, hwire, hpath, hbelow, -⟩
  rcases url_of_snapshot hquery hfragment parse?_sampleFolder hwire with ⟨path', hpath', hurl⟩
  have hsame : path = ["snapshots"] := (List.append_cancel_right hpath).symm
  have hsame' : path' = ["snapshots"] := (List.append_cancel_right hpath').symm
  rw [hurl, if_pos rfl, hsame, hsame'] at hbelow
  exact absurd (congrArg List.length hbelow) (by simp)

end Url
end Gatehouse
