import Gatehouse.Relay.SnapshotUrl
import Gatehouse.Text.Ascii
import Gatehouse.Text.Percent
import Gatehouse.Text.Split

/-!
# Addresses on the web

Before a request is sent its address is brought into normal form: segments of one dot
vanish, segments of two dots take the one before with them, a backslash is a slash, and
characters that may not stand for themselves are percent-encoded.

Main results:

- Theorem {lit}`settle_plain`: segments without dots stay as they are.

Current gaps:

- A host is kept as it is spelled, in lower case, and so is a port.  There are no user
  names and no names beyond ASCII.
-/

namespace Gatehouse

/-- An address in normal form. -/
structure Url where
  scheme : String
  /-- The host and the port. -/
  authority : String
  /-- The segments of the path, each behind a slash. -/
  path : List String
  query : Option String
deriving DecidableEq, Repr

namespace Url

/-! ## Segments -/

/-- Whether a segment is one dot, perhaps percent-encoded. -/
def isSingleDot (segment : String) : Bool :=
  [".", "%2e"].contains (Text.lower segment)

/-- Whether a segment is two dots, perhaps percent-encoded. -/
def isDoubleDot (segment : String) : Bool :=
  ["..", ".%2e", "%2e.", "%2e%2e"].contains (Text.lower segment)

/-- The segments that are left when dots have done their work, behind those that have
been settled, which stand in reverse.  Dots at the end leave an empty segment. -/
def settle : List String → List String → List String
  | done, [] => done.reverse
  | done, [last] =>
      if isDoubleDot last then ("" :: done.tail).reverse
      else if isSingleDot last then ("" :: done).reverse
      else (last :: done).reverse
  | done, segment :: rest =>
      if isDoubleDot segment then settle done.tail rest
      else if isSingleDot segment then settle done rest
      else settle (segment :: done) rest

/-- Segments without dots stay as they are. -/
theorem settle_plain {segments : List String}
    (h : ∀ s ∈ segments, isSingleDot s = false ∧ isDoubleDot s = false) (done : List String) :
    settle done segments = done.reverse ++ segments := by
  fun_induction settle done segments with
  | case1 done => simp
  | case2 done last hd => simp_all
  | case3 done last hd hs => simp_all
  | case4 done last hd hs => simp
  | case5 done segment rest hne hd ih => simp_all
  | case6 done segment rest hne hd hs ih => simp_all
  | case7 done segment rest hne hd hs ih =>
      rw [ih fun s hs => h s (List.mem_cons_of_mem _ hs)]
      simp

/-! ## Parts -/

/-- Whether a byte may stand for itself in a part of an address; some visible
characters may not. -/
def standsIn (excluded : List Char) (b : UInt8) : Bool :=
  0x20 < b.toNat && b.toNat < 0x7F && !excluded.contains (Char.ofNat b.toNat)

/-- A text with all bytes percent-encoded that may not stand for themselves. -/
def encodePart (excluded : List Char) (text : List Char) : String :=
  String.ofList ((Text.utf8 (String.ofList text)).flatMap fun b =>
    if standsIn excluded b then [Char.ofNat b.toNat] else Text.percentByte b)

/-- The visible characters that do not stand in a path. -/
def excludedFromPath : List Char := ['"', '#', '<', '>', '?', '^', '\u0060', '\x7b', '\x7d']

/-- The visible characters that do not stand in a query. -/
def excludedFromQuery : List Char := ['"', '#', '<', '>', '\'']

/-- Whether a character separates segments. -/
def isSlash (c : Char) : Bool := c = '/' || c = '\\'

/-- The path behind a host, or from the root: its segments in normal form. -/
def readPath (text : List Char) : List String :=
  let text := if text.head?.any isSlash then text.tail else text
  let slashed := text.map fun c => if c = '\\' then '/' else c
  settle [] ((Text.splitList '/' slashed).map (encodePart excludedFromPath))

/-- The part of a text in front of a fragment. -/
def beforeFragment (text : List Char) : List Char := text.takeWhile (· ≠ '#')

/-- The path of a text, and its query. -/
def readPathAndQuery (text : List Char) : List String × Option String :=
  match Text.splitOnceList '?' (beforeFragment text) with
  | some (path, query) => (readPath path, some (encodePart excludedFromQuery query))
  | none => (readPath (beforeFragment text), none)

/-! ## Reading -/

/-- Whether a character may stand in a host or a port. -/
def isAuthorityChar (c : Char) : Bool :=
  c.isAlphanum || ['.', '-', '_', ':', '[', ']', '~'].contains c

/-- Whether a text is a host, perhaps with a port. -/
def isAuthority (text : List Char) : Bool :=
  let port := (text.reverse.takeWhile Char.isDigit).reverse
  let front := text.take (text.length - port.length)
  !text.isEmpty && text.head? != some ':' && text.all isAuthorityChar &&
    (match Text.splitList ':' text with
      | [_] => true
      | _ => front.getLast? == some ':' || text.getLast? == some ']') &&
    decide (Text.ofDecimal port < 65536 ∨ front.getLast? ≠ some ':')

/-- The schemes of requests. -/
def schemes : List String := ["http", "https"]

/-- The address of a text that holds a scheme, a host and perhaps more. -/
def parseList? (text : List Char) : Option Url := do
  let kept := text.filter fun c => c ≠ '\t' && c ≠ '\n' && c ≠ '\r'
  let kept := ((kept.dropWhile (·.toNat ≤ 0x20)).reverse.dropWhile (·.toNat ≤ 0x20)).reverse
  let (scheme, rest) ← Text.splitOnceList ':' kept
  let scheme := Text.lower (String.ofList scheme)
  let rest := rest.dropWhile isSlash
  let host := rest.takeWhile fun c => !isSlash c && c ≠ '?' && c ≠ '#'
  if schemes.contains scheme && isAuthority host then
    let (path, query) := readPathAndQuery (rest.drop host.length)
    return ⟨scheme, Text.lower (String.ofList host), path, query⟩
  else none

/-- The address of a text that holds a scheme, a host and perhaps more. -/
def parse? (text : String) : Option Url := parseList? text.toList

/-- The port that a scheme stands for. -/
def standardPort (scheme : String) : Nat := if scheme == "https" then 443 else 80

/-- The host and the port, which is that of the scheme unless another one is named. -/
def endpoint (u : Url) : String × Nat :=
  let text := u.authority.toList
  let port := (text.reverse.takeWhile Char.isDigit).reverse
  let front := text.take (text.length - port.length)
  if front.getLast? = some ':' then
    (String.ofList front.dropLast,
      if port.isEmpty then standardPort u.scheme else Text.ofDecimal port)
  else (u.authority, standardPort u.scheme)

/-- The path as a text. -/
def pathText (u : Url) : String := String.join (u.path.map ("/" ++ ·))

/-- The path and the query as a text. -/
def target (u : Url) : String :=
  u.pathText ++ (match u.query with
    | some query => "?" ++ query
    | none => "")

/-- An address as a text. -/
def text (u : Url) : String := u.scheme ++ "://" ++ u.authority ++ u.target

/-- The address that a reference leads to, seen from an address. -/
def join? (u : Url) (reference : String) : Option Url :=
  let cs := beforeFragment reference.toList
  let named (scheme : String) := (scheme ++ ":").toList.isPrefixOf (Text.lower reference).toList
  if schemes.any named then parse? reference
  else
    match cs with
    | [] => some u
    | '/' :: '/' :: _ => parseList? ((u.scheme ++ ":").toList ++ cs)
    | '?' :: query => some { u with query := some (encodePart excludedFromQuery query) }
    | c :: rest =>
        let base := if isSlash c then [] else u.path.dropLast
        let (path, query) := readPathAndQuery (c :: rest)
        some { u with path := settle [] (base ++ path), query }

end Url
end Gatehouse
