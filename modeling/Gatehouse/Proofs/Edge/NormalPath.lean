import Gatehouse.Edge.Url

/-!
# Paths in normal form

The path of an address is brought into normal form before a request is sent.  The form is
plain: each segment stands behind a slash, is made of characters that may stand there, and
is no dots.  A path that is plain already stays as it is.

Main results:

- Theorem {lit}`normalPath_eq_self_iff`: a path stays as it is exactly if it is plain.
- Theorem {lit}`normalPath_climbing`: every plain path can be written behind any other one.
- Theorem {lit}`parse?_bare`: what stands behind a host is read as a path and a query.
-/

namespace Gatehouse
namespace Url

/-! ## Plain segments -/

/-- Whether a character may stand in a segment. -/
def standsInSegment (c : Char) : Bool :=
  0x20 < c.toNat && c.toNat < 0x7F && !excludedFromPath.contains c && !isSlash c

/-- A segment that stays as it is. -/
structure PlainSegment (segment : String) : Prop where
  stands : ∀ c ∈ segment.toList, standsInSegment c = true
  single : isSingleDot segment = false
  double : isDoubleDot segment = false

/-- The empty segment is plain. -/
theorem plainSegment_empty : PlainSegment "" := ⟨by simp, by decide, by decide⟩

/-- A character may stand in a segment if it is visible, stands in a path and is no slash. -/
theorem standsInSegment_iff {c : Char} :
    standsInSegment c = true ↔
      (0x20 < c.toNat ∧ c.toNat < 0x7F ∧ c ∉ excludedFromPath) ∧ c ≠ '/' ∧ c ≠ '\\' := by
  simp [standsInSegment, isSlash, and_assoc]

/-- Segments behind a slash each. -/
def joined (segments : List String) : String := String.join (segments.map ("/" ++ ·))

/-- A path that stays as it is. -/
def IsPlain (path : String) : Prop :=
  ∃ segments, segments ≠ [] ∧ (∀ s ∈ segments, PlainSegment s) ∧ path = joined segments

/-- A path in normal form. -/
def normalPath (path : String) : String := joined (readPath path.toList)

/-- The characters of joined segments. -/
theorem toList_joined (segments : List String) :
    (joined segments).toList = segments.flatMap fun s => '/' :: s.toList := by
  rw [joined, String.toList_join, List.flatMap_map]
  refine congrArg (List.flatMap · segments) (funext fun s => ?_)
  rw [String.toList_append]
  rfl

/-- Joined segments start with a slash. -/
theorem head?_joined {segments : List String} (h : segments ≠ []) :
    (joined segments).toList.head? = some '/' := by
  rcases List.exists_cons_of_ne_nil h with ⟨first, rest, rfl⟩
  rw [toList_joined]
  rfl

/-- A character of joined segments is a slash or one of a segment. -/
theorem mem_joined {segments : List String} {c : Char} (h : c ∈ (joined segments).toList) :
    c = '/' ∨ ∃ s ∈ segments, c ∈ s.toList := by
  rw [toList_joined, List.mem_flatMap] at h
  rcases h with ⟨s, hs, hc⟩
  exact (List.mem_cons.1 hc).imp_right fun hc => ⟨s, hs, hc⟩

/-! ## Encoding -/

/-- A text of ASCII characters that may stand for themselves is not encoded. -/
theorem encodePart_eq_self {excluded cs : List Char}
    (h : ∀ c ∈ cs, 0x20 < c.toNat ∧ c.toNat < 0x7F ∧ c ∉ excluded) :
    encodePart excluded cs = String.ofList cs := by
  have hchar : ∀ c ∈ cs, (String.utf8EncodeChar c).flatMap (fun b =>
      if standsIn excluded b then [Char.ofNat b.toNat] else Text.percentByte b) = [c] := by
    intro c hc
    rcases h c hc with ⟨hlow, hhigh, hin⟩
    have hascii : c.toNat < 0x80 := by omega
    have hbyte : (UInt8.ofNat c.toNat).toNat = c.toNat := Text.toNat_asciiByte hascii
    rw [Text.utf8EncodeChar_ascii hascii]
    simp [standsIn, hbyte, hlow, hhigh, hin]
  unfold encodePart Text.utf8
  rw [String.toList_ofList, List.flatMap_assoc]
  congr 1
  induction cs with
  | nil => rfl
  | cons c cs ih =>
      rw [List.flatMap_cons, hchar c List.mem_cons_self,
        ih (fun d hd => h d (List.mem_cons_of_mem c hd))
          (fun d hd => hchar d (List.mem_cons_of_mem c hd))]
      rfl

/-- What is encoded may stand in a segment, unless there are slashes in it. -/
theorem stands_of_mem_encodePart {cs : List Char} (hslash : ∀ c ∈ cs, isSlash c = false) {c : Char}
    (h : c ∈ (encodePart excludedFromPath cs).toList) : standsInSegment c = true := by
  have hdigit : ∀ n : Fin 16, standsInSegment (Text.hexCharUpper n.val) = true := by decide
  rw [encodePart, String.toList_ofList, List.mem_flatMap] at h
  rcases h with ⟨b, hb, hc⟩
  have hbound := b.toNat_lt
  split at hc
  · rename_i hstands
    rw [List.mem_singleton] at hc
    simp only [standsIn, Bool.and_eq_true, decide_eq_true_eq] at hstands
    rcases hstands with ⟨⟨hlow, hhigh⟩, hin⟩
    rcases Text.mem_of_mem_utf8 hb (by omega) with ⟨given, hgiven, hvalue⟩
    rw [← hvalue, Char.ofNat_toNat] at hc hin
    rw [hc]
    simpa [standsInSegment, hvalue, hlow, hhigh, hslash given hgiven] using hin
  · simp only [Text.percentByte, List.mem_cons, List.not_mem_nil, or_false] at hc
    rcases hc with rfl | rfl | rfl
    · decide
    · exact hdigit ⟨b.toNat / 16, by omega⟩
    · exact hdigit ⟨b.toNat % 16, by omega⟩

/-- A segment of characters that may stand there is not encoded. -/
theorem encodePart_of_stands {segment : String}
    (h : ∀ c ∈ segment.toList, standsInSegment c = true) :
    encodePart excludedFromPath segment.toList = segment := by
  have hvisible : ∀ c ∈ segment.toList,
      0x20 < c.toNat ∧ c.toNat < 0x7F ∧ c ∉ excludedFromPath := fun c hc =>
    (standsInSegment_iff.1 (h c hc)).1
  rw [encodePart_eq_self hvisible, String.ofList_toList]

/-! ## Settled segments -/

/-- A segment that is left over has been settled before or is no dots; dots at the end leave
an empty one. -/
theorem settle_undotted {done segments : List String} {s : String} (h : s ∈ settle done segments) :
    s = "" ∨ s ∈ done ∨ s ∈ segments ∧ isSingleDot s = false ∧ isDoubleDot s = false := by
  fun_induction settle done segments with
  | case1 done => simp_all
  | case2 done last hdouble =>
      simp only [List.mem_reverse, List.mem_cons] at h
      exact h.imp_right fun hdone => .inl (List.mem_of_mem_tail hdone)
  | case3 done last hdouble hsingle =>
      simp only [List.mem_reverse, List.mem_cons] at h
      exact h.imp_right .inl
  | case4 done last hdouble hsingle =>
      simp only [List.mem_reverse, List.mem_cons] at h
      rcases h with rfl | hdone
      · exact .inr (.inr ⟨List.mem_singleton_self s, by simpa using hsingle,
          by simpa using hdouble⟩)
      · exact .inr (.inl hdone)
  | case5 done segment rest hne hdouble ih =>
      rcases ih h with hempty | hdone | hrest
      · exact .inl hempty
      · exact .inr (.inl (List.mem_of_mem_tail hdone))
      · exact .inr (.inr ⟨List.mem_cons_of_mem _ hrest.1, hrest.2⟩)
  | case6 done segment rest hne hdouble hsingle ih =>
      rcases ih h with hempty | hdone | hrest
      · exact .inl hempty
      · exact .inr (.inl hdone)
      · exact .inr (.inr ⟨List.mem_cons_of_mem _ hrest.1, hrest.2⟩)
  | case7 done segment rest hne hdouble hsingle ih =>
      rcases ih h with hempty | hdone | hrest
      · exact .inl hempty
      · rcases List.mem_cons.1 hdone with rfl | hdone
        · exact .inr (.inr ⟨List.mem_cons_self, by simpa using hsingle, by simpa using hdouble⟩)
        · exact .inr (.inl hdone)
      · exact .inr (.inr ⟨List.mem_cons_of_mem _ hrest.1, hrest.2⟩)

/-- Some segment is left over. -/
theorem settle_ne_nil {done segments : List String} (h : segments ≠ []) :
    settle done segments ≠ [] := by
  fun_induction settle done segments with
  | case1 done => exact absurd rfl h
  | case2 done last hdouble => simp
  | case3 done last hdouble hsingle => simp
  | case4 done last hdouble hsingle => simp
  | case5 done segment rest hne hdouble ih => exact ih (by simpa using hne)
  | case6 done segment rest hne hdouble hsingle ih => exact ih (by simpa using hne)
  | case7 done segment rest hne hdouble hsingle ih => exact ih (by simpa using hne)

/-! ## Paths -/

/-- A path in normal form has a segment. -/
theorem readPath_ne_nil (text : List Char) : readPath text ≠ [] :=
  settle_ne_nil fun hnone =>
    Text.splitList_ne_nil '/' _ (List.map_eq_nil_iff.1 hnone)

/-- The segments of a path in normal form are plain. -/
theorem readPath_plain {text : List Char} {s : String} (h : s ∈ readPath text) :
    PlainSegment s := by
  rcases settle_undotted h with rfl | hdone | ⟨hmem, hsingle, hdouble⟩
  · exact plainSegment_empty
  · exact absurd hdone List.not_mem_nil
  · rcases List.mem_map.1 hmem with ⟨part, hpart, rfl⟩
    have hslash : ∀ c ∈ part, isSlash c = false := by
      intro c hc
      have hne : c ≠ '/' := by
        rintro rfl
        exact Text.not_mem_of_mem_splitList hpart hc
      rcases List.mem_map.1 (Text.mem_of_mem_splitList hpart hc) with ⟨given, -, hgiven⟩
      have hback : c ≠ '\\' := by
        rintro rfl
        split at hgiven
        · exact absurd hgiven (by decide)
        · rename_i hother
          exact hother hgiven
      simp [isSlash, hne, hback]
    exact ⟨fun c hc => stands_of_mem_encodePart hslash hc, hsingle, hdouble⟩

/-- The parts between the slashes of a text, encoded. -/
def encodedParts (text : List Char) : List String :=
  (Text.splitList '/' (text.map fun c => if c = '\\' then '/' else c)).map
    (encodePart excludedFromPath)

/-- The parts behind the first slash of a path are settled. -/
theorem readPath_slash {c : Char} (hc : isSlash c = true) (text : List Char) :
    readPath (c :: text) = settle [] (encodedParts text) := by
  have hhead : (c :: text).head?.any isSlash = true := hc
  unfold readPath
  simp only [hhead, if_true, List.tail_cons]
  rfl

/-- A slash stands between the parts in front of it and those behind it. -/
theorem encodedParts_slash (front back : List Char) :
    encodedParts (front ++ '/' :: back) = encodedParts front ++ encodedParts back := by
  have hslash : (if '/' = '\\' then '/' else '/') = '/' := by decide
  unfold encodedParts
  rw [List.map_append, List.map_cons, hslash, Text.splitList_append_cons, List.map_append]

/-- A segment of characters that may stand there is one part. -/
theorem encodedParts_of_stands {segment : String}
    (h : ∀ c ∈ segment.toList, standsInSegment c = true) :
    encodedParts segment.toList = [segment] := by
  have hfree : '/' ∉ segment.toList := fun hc => (standsInSegment_iff.1 (h '/' hc)).2.1 rfl
  have hkept : ∀ c ∈ segment.toList, (if c = '\\' then '/' else c) = id c := fun c hc =>
    if_neg (standsInSegment_iff.1 (h c hc)).2.2
  rw [encodedParts, List.map_congr_left hkept, List.map_id, Text.splitList_of_not_mem hfree,
    List.map_singleton, encodePart_of_stands h]

/-- The parts of joined segments are the segments. -/
theorem encodedParts_joined {first : String} {rest : List String}
    (h : ∀ s ∈ first :: rest, ∀ c ∈ s.toList, standsInSegment c = true) :
    encodedParts (first.toList ++ rest.flatMap fun s => '/' :: s.toList) = first :: rest := by
  have hfirst := encodedParts_of_stands (h first List.mem_cons_self)
  induction rest generalizing first with
  | nil =>
      rw [List.flatMap_nil, List.append_nil]
      exact hfirst
  | cons next rest ih =>
      have hrest : ∀ s ∈ next :: rest, ∀ c ∈ s.toList, standsInSegment c = true := fun s hs =>
        h s (List.mem_cons_of_mem first hs)
      rw [List.flatMap_cons, List.cons_append, encodedParts_slash, hfirst,
        ih hrest (encodedParts_of_stands (hrest next List.mem_cons_self))]
      rfl

/-- Joined segments of characters that may stand there are settled as they are. -/
theorem readPath_joined {segments : List String} (hne : segments ≠ [])
    (h : ∀ s ∈ segments, ∀ c ∈ s.toList, standsInSegment c = true) :
    readPath (joined segments).toList = settle [] segments := by
  rcases List.exists_cons_of_ne_nil hne with ⟨first, rest, rfl⟩
  have htext : (joined (first :: rest)).toList =
      '/' :: (first.toList ++ rest.flatMap fun s => '/' :: s.toList) := by
    rw [toList_joined, List.flatMap_cons, List.cons_append]
  rw [htext, readPath_slash (by decide), encodedParts_joined h]

/-- Plain segments are read as they are. -/
theorem readPath_plain_joined {segments : List String} (hne : segments ≠ [])
    (h : ∀ s ∈ segments, PlainSegment s) : readPath (joined segments).toList = segments := by
  rw [readPath_joined hne fun s hs => (h s hs).stands,
    settle_plain fun s hs => ⟨(h s hs).single, (h s hs).double⟩, List.reverse_nil, List.nil_append]

/-- A path in normal form is plain. -/
theorem isPlain_normalPath (path : String) : IsPlain (normalPath path) :=
  ⟨readPath path.toList, readPath_ne_nil path.toList, fun _ hs => readPath_plain hs, rfl⟩

/-- A path stays as it is exactly if it is plain. -/
theorem normalPath_eq_self_iff {path : String} : normalPath path = path ↔ IsPlain path := by
  constructor
  · intro hsame
    rw [← hsame]
    exact isPlain_normalPath path
  · rintro ⟨segments, hne, hplain, rfl⟩
    rw [normalPath, readPath_plain_joined hne hplain]

/-! ## Climbing -/

/-- A segment in front of others is settled first. -/
theorem settle_cons {rest : List String} (hrest : rest ≠ []) (done : List String)
    (segment : String) :
    settle done (segment :: rest) =
      if isDoubleDot segment then settle done.tail rest
      else if isSingleDot segment then settle done rest
      else settle (segment :: done) rest := by
  rw [settle]
  exact hrest

/-- Segments without dots are settled in front of others. -/
theorem settle_append {front rest : List String} (hrest : rest ≠ [])
    (h : ∀ s ∈ front, PlainSegment s) (done : List String) :
    settle done (front ++ rest) = settle (front.reverse ++ done) rest := by
  induction front generalizing done with
  | nil => rfl
  | cons segment front ih =>
      have hplain := h segment List.mem_cons_self
      have hmore : front ++ rest ≠ [] := fun hnone => hrest (List.append_eq_nil_iff.1 hnone).2
      rw [List.cons_append, settle_cons hmore, hplain.double, hplain.single]
      simp only [Bool.false_eq_true, if_false]
      rw [ih fun s hs => h s (List.mem_cons_of_mem segment hs), List.reverse_cons,
        List.append_assoc]
      rfl

/-- Two dots take a settled segment with them each. -/
theorem settle_climb {rest : List String} (hrest : rest ≠ []) (front done : List String) :
    settle (front ++ done) (List.replicate front.length ".." ++ rest) = settle done rest := by
  have hdouble : isDoubleDot ".." = true := by decide
  induction front with
  | nil => rfl
  | cons segment front ih =>
      have hmore : List.replicate front.length ".." ++ rest ≠ [] := fun hnone =>
        hrest (List.append_eq_nil_iff.1 hnone).2
      rw [List.length_cons, List.replicate_succ, List.cons_append, List.cons_append,
        settle_cons hmore, hdouble, if_pos rfl]
      exact ih

/-- A path that climbs back to the root. -/
def climbing (front back : List String) : String :=
  joined (front ++ List.replicate front.length ".." ++ back)

/-- A path that climbs starts with a slash. -/
theorem head?_climbing (front : List String) {back : List String} (h : back ≠ []) :
    (climbing front back).toList.head? = some '/' :=
  head?_joined fun hnone => h (List.append_eq_nil_iff.1 hnone).2

/-- The characters of a path that climbs may stand in its segments. -/
theorem stands_climbing {front back : List String} (hfront : ∀ s ∈ front, PlainSegment s)
    (hplain : ∀ s ∈ back, PlainSegment s) :
    ∀ s ∈ front ++ List.replicate front.length ".." ++ back,
      ∀ c ∈ s.toList, standsInSegment c = true := by
  intro s hs
  rcases List.mem_append.1 hs with hs | hs
  · rcases List.mem_append.1 hs with hs | hs
    · exact (hfront s hs).stands
    · rw [List.eq_of_mem_replicate hs]
      exact List.all_eq_true.1 (by decide)
  · exact (hplain s hs).stands

/-- Every plain path can be written behind any other one. -/
theorem normalPath_climbing {front back : List String} (hback : back ≠ [])
    (hfront : ∀ s ∈ front, PlainSegment s) (hplain : ∀ s ∈ back, PlainSegment s) :
    normalPath (climbing front back) = joined back := by
  have hstands := stands_climbing hfront hplain
  have hmore : List.replicate front.length ".." ++ back ≠ [] := fun hnone =>
    hback (List.append_eq_nil_iff.1 hnone).2
  have hne : front ++ List.replicate front.length ".." ++ back ≠ [] := fun hnone =>
    hback (List.append_eq_nil_iff.1 hnone).2
  have hclimbed := settle_climb hback front.reverse []
  rw [List.length_reverse] at hclimbed
  rw [normalPath, climbing, readPath_joined hne hstands, List.append_assoc,
    settle_append hmore hfront, hclimbed, settle_plain fun s hs =>
      ⟨(hplain s hs).single, (hplain s hs).double⟩]
  rfl

/-! ## Addresses without a path of their own -/

/-- Whether a text is a scheme and a host with nothing but slashes behind them. -/
def IsBare (address : String) : Prop :=
  ∃ scheme host, withoutTrailingSlashes address = scheme ++ "://" ++ host ∧
    Text.lower scheme ∈ schemes ∧ isAuthority host.toList = true

/-- Whether a character is part of a host: a slash and the marks of a query and a fragment
end it. -/
def inHost (c : Char) : Bool := !isSlash c && c ≠ '?' && c ≠ '#'

/-- The characters of a host are visible, and none of them ends it. -/
theorem inHost_of_isAuthorityChar {c : Char} (h : isAuthorityChar c = true) :
    inHost c = true ∧ 0x20 < c.toNat ∧ c ≠ '*' := by
  have hend : ['/', '\\', '?', '#', '*'].any isAuthorityChar = false := by decide
  have hother : ∀ d ∈ ['/', '\\', '?', '#', '*'], c ≠ d := by
    rintro d hd rfl
    exact List.any_eq_false.1 hend c hd h
  refine ⟨?_, Text.visible_of_true (by decide) h, hother '*' (by decide)⟩
  simp [inHost, isSlash, hother '/' (by decide), hother '\\' (by decide), hother '?' (by decide),
    hother '#' (by decide)]

/-- A scheme is written with the letters of the longest one. -/
theorem toLower_mem_of_scheme {scheme : List Char}
    (h : Text.lower (String.ofList scheme) ∈ schemes) {c : Char} (hc : c ∈ scheme) :
    "https".toList.contains c.toLower = true := by
  have hletters : ∀ name ∈ schemes, name.toList.all "https".toList.contains = true := by decide
  have hmem : c.toLower ∈ (Text.lower (String.ofList scheme)).toList := by
    rw [Text.lower, String.toList_ofList, String.toList_ofList]
    exact List.mem_map_of_mem hc
  exact List.all_eq_true.1 (hletters _ h) _ hmem

/-- The characters of a scheme are visible, and no colon is among them. -/
theorem visible_of_scheme {scheme : String} (h : Text.lower scheme ∈ schemes) {c : Char}
    (hc : c ∈ scheme.toList) : c ≠ ':' ∧ 0x20 < c.toNat := by
  have hscheme : Text.lower (String.ofList scheme.toList) ∈ schemes := by rwa [String.ofList_toList]
  have hletter := toLower_mem_of_scheme hscheme hc
  refine ⟨?_, Text.visible_of_true (p := fun d => "https".toList.contains d.toLower) (by decide)
    hletter⟩
  rintro rfl
  exact absurd hletter (by decide)

/-- Nothing is dropped from the front of a text of visible characters. -/
theorem dropWhile_visible {cs : List Char} (h : ∀ c ∈ cs, 0x20 < c.toNat) :
    cs.dropWhile (·.toNat ≤ 0x20) = cs := by
  cases cs with
  | nil => rfl
  | cons c cs =>
      have hc := h c List.mem_cons_self
      rw [List.dropWhile_cons_of_neg]
      simpa using hc

/-- A text of visible characters has no tabs and no line breaks. -/
theorem filter_visible {cs : List Char} (h : ∀ c ∈ cs, 0x20 < c.toNat) :
    (cs.filter fun c => c ≠ '\t' && c ≠ '\n' && c ≠ '\r') = cs := by
  refine List.filter_eq_self.2 fun c hc => ?_
  have hother : ∀ d ∈ ['\t', '\n', '\r'], c ≠ d := by
    rintro d hd rfl
    have hlow : ['\t', '\n', '\r'].all (·.toNat ≤ 0x20) = true := by decide
    have hblank : c.toNat ≤ 0x20 := of_decide_eq_true (List.all_eq_true.1 hlow c hd)
    exact absurd (h c hc) (Nat.not_lt.2 hblank)
  simp [hother '\t' (by decide), hother '\n' (by decide), hother '\r' (by decide)]

/-- A text of visible characters is read as it is. -/
theorem trimmed_visible {cs : List Char} (h : ∀ c ∈ cs, 0x20 < c.toNat) :
    (((cs.filter fun c => c ≠ '\t' && c ≠ '\n' && c ≠ '\r').dropWhile
      (·.toNat ≤ 0x20)).reverse.dropWhile (·.toNat ≤ 0x20)).reverse = cs := by
  rw [filter_visible h, dropWhile_visible h,
    dropWhile_visible fun c hc => h c (List.mem_reverse.1 hc), List.reverse_reverse]

/-- A text that starts with a scheme and two slashes is read from its host on. -/
theorem parseList?_of_scheme {scheme : String} {rest : List Char}
    (hscheme : Text.lower scheme ∈ schemes) (hvisible : ∀ c ∈ rest, 0x20 < c.toNat)
    (hhost : rest.head?.any isSlash = false) :
    parseList? (scheme.toList ++ ':' :: '/' :: '/' :: rest) =
      if isAuthority (rest.takeWhile inHost) then
        some ⟨Text.lower scheme, Text.lower (String.ofList (rest.takeWhile inHost)),
          (readPathAndQuery (rest.drop (rest.takeWhile inHost).length)).1,
          (readPathAndQuery (rest.drop (rest.takeWhile inHost).length)).2⟩
      else none := by
  have hall : ∀ c ∈ scheme.toList ++ ':' :: '/' :: '/' :: rest, 0x20 < c.toNat := by
    intro c hc
    rcases List.mem_append.1 hc with hc | hc
    · exact (visible_of_scheme hscheme hc).2
    · simp only [List.mem_cons] at hc
      rcases hc with rfl | rfl | rfl | hc
      · decide
      · decide
      · decide
      · exact hvisible c hc
  have hcolon : ':' ∉ scheme.toList := fun hc => (visible_of_scheme hscheme hc).1 rfl
  have hslashes : ('/' :: '/' :: rest).dropWhile isSlash = rest := by
    cases rest with
    | nil => rfl
    | cons c rest =>
        have hc : isSlash c = false := hhost
        have hslash : isSlash '/' = true := by decide
        rw [List.dropWhile_cons_of_pos hslash, List.dropWhile_cons_of_pos hslash,
          List.dropWhile_cons_of_neg (by simp [hc])]
  unfold parseList?
  dsimp only
  rw [trimmed_visible hall, Text.splitOnceList_append hcolon]
  simp only [Option.bind_eq_bind, Option.bind_some, String.ofList_toList, hslashes]
  rw [List.contains_iff_mem.2 hscheme, Bool.true_and]
  rfl

/-- The path of a text is read from what stands in front of its query. -/
theorem readPathAndQuery_path {cs : List Char} (h : '#' ∉ cs) :
    (readPathAndQuery cs).1 = readPath (cs.takeWhile (· ≠ '?')) := by
  have hfragment : beforeFragment cs = cs := Text.takeWhile_of_not_mem h
  unfold readPathAndQuery
  rw [hfragment]
  by_cases hquery : '?' ∈ cs
  · rcases List.eq_append_cons_of_mem hquery with ⟨path, query, rfl, hpath⟩
    rw [Text.splitOnceList_append hpath, Text.takeWhile_append hpath]
  · rw [Text.splitOnceList_of_not_mem hquery, Text.takeWhile_of_not_mem hquery]

/-- A host is not empty, and its characters are those of hosts. -/
theorem isAuthorityChar_of_isAuthority {host : List Char} (h : isAuthority host = true) :
    host ≠ [] ∧ ∀ c ∈ host, isAuthorityChar c = true := by
  simp only [isAuthority, Bool.and_eq_true, Bool.not_eq_true', List.isEmpty_eq_false_iff,
    List.all_eq_true] at h
  exact ⟨h.1.1.1.1, h.1.1.2⟩

/-- What stands behind a host belongs to it up to its end. -/
theorem parse?_host {scheme host rest : String} (hscheme : Text.lower scheme ∈ schemes)
    (hhost : isAuthority host.toList = true) (hvisible : ∀ c ∈ rest.toList, 0x20 < c.toNat) :
    parse? (scheme ++ "://" ++ host ++ rest) =
      if isAuthority (host.toList ++ rest.toList.takeWhile inHost) then
        some ⟨Text.lower scheme,
          Text.lower (String.ofList (host.toList ++ rest.toList.takeWhile inHost)),
          (readPathAndQuery (rest.toList.dropWhile inHost)).1,
          (readPathAndQuery (rest.toList.dropWhile inHost)).2⟩
      else none := by
  rcases isAuthorityChar_of_isAuthority hhost with ⟨hne, hchars⟩
  have htext : (scheme ++ "://" ++ host ++ rest).toList =
      scheme.toList ++ ':' :: '/' :: '/' :: (host.toList ++ rest.toList) := by
    simp
  have hall : ∀ c ∈ host.toList ++ rest.toList, 0x20 < c.toNat := by
    intro c hc
    rcases List.mem_append.1 hc with hc | hc
    · exact (inHost_of_isAuthorityChar (hchars c hc)).2.1
    · exact hvisible c hc
  have hhead : (host.toList ++ rest.toList).head?.any isSlash = false := by
    rcases List.exists_cons_of_ne_nil hne with ⟨c, more, hmore⟩
    have hc := (inHost_of_isAuthorityChar (hchars c (hmore ▸ List.mem_cons_self))).1
    simp only [inHost, Bool.and_eq_true, Bool.not_eq_true'] at hc
    rw [hmore]
    exact hc.1.1
  have htaken : (host.toList ++ rest.toList).takeWhile inHost =
      host.toList ++ rest.toList.takeWhile inHost :=
    List.takeWhile_append_of_pos fun c hc => (inHost_of_isAuthorityChar (hchars c hc)).1
  have hleft : (host.toList ++ rest.toList).drop
      (host.toList ++ rest.toList.takeWhile inHost).length = rest.toList.dropWhile inHost := by
    have hcut : host.toList ++ rest.toList =
        (host.toList ++ rest.toList.takeWhile inHost) ++ rest.toList.dropWhile inHost := by
      rw [List.append_assoc, List.takeWhile_append_dropWhile]
    rw [hcut, List.drop_left]
  rw [parse?, htext, parseList?_of_scheme hscheme hall hhead, htaken, hleft]

/-- Whether a text can stand behind a host: nothing of it belongs to the host. -/
def EndsHost (rest : String) : Prop := ∀ c, rest.toList.head? = some c → inHost c = false

/-- What stands behind an address without a path of its own is read as its path and query. -/
theorem parse?_bare {address rest : String} (hbare : IsBare address)
    (hvisible : ∀ c ∈ rest.toList, 0x20 < c.toNat) (hend : EndsHost rest) :
    ∃ u, parse? (withoutTrailingSlashes address ++ rest) = some u ∧
      u.path = (readPathAndQuery rest.toList).1 := by
  rcases hbare with ⟨scheme, host, haddress, hscheme, hhost⟩
  have hsplit : rest.toList.takeWhile inHost = [] ∧ rest.toList.dropWhile inHost = rest.toList := by
    unfold EndsHost at hend
    cases hrest : rest.toList with
    | nil => simp
    | cons c more =>
        rw [hrest] at hend
        have hc : inHost c = false := hend c rfl
        simp [hc]
  rw [haddress, parse?_host hscheme hhost hvisible, hsplit.1, hsplit.2, List.append_nil,
    if_pos hhost]
  exact ⟨_, rfl, rfl⟩

/-- No address has an asterisk behind its host. -/
theorem parse?_bare_asterisk {address : String} (hbare : IsBare address) :
    parse? (withoutTrailingSlashes address ++ "*") = none := by
  rcases hbare with ⟨scheme, host, haddress, hscheme, hhost⟩
  have hvisible : ∀ c ∈ "*".toList, 0x20 < c.toNat := by simp
  have htaken : "*".toList.takeWhile inHost = ['*'] := by decide
  have hbroken : isAuthority (host.toList ++ ['*']) = false := by
    rw [Bool.eq_false_iff]
    intro hwhole
    have hchar := (isAuthorityChar_of_isAuthority hwhole).2 '*' (by simp)
    exact (inHost_of_isAuthorityChar hchar).2.2 rfl
  rw [haddress, parse?_host hscheme hhost hvisible, htaken, hbroken]
  rfl

end Url
end Gatehouse
