import PepeAudio.Lib.Ascii
import Mathlib.Algebra.GroupWithZero.Nat
import Mathlib.Order.Lattice.Nat
import Mathlib.Tactic.Common

/-!
# URLs as records

The parts of a parsed URL and its serialisation, which is their concatenation.
The parser and the decoder of queries stand outside; `UrlLibrary.Lawful` says
what is relied on: a URL that the library has made is parsed back from its
serialisation.
-/
namespace PepeAudio

structure Url where
  scheme : String
  username : String
  password : Option String
  host : Option String
  port : Option ℕ
  path : String
  query : Option String
  fragment : Option String
  deriving DecidableEq, Repr

namespace Url

def credentials (url : Url) : String :=
  match url.username, url.password with
  | "", none => ""
  | username, none => username ++ "@"
  | username, some password => username ++ ":" ++ password ++ "@"

/-- Without a host, a path that begins with two slashes is set off by `/.`. -/
def authority (url : Url) : String :=
  match url.host with
  | none => if url.path.startsWith "//" then "/." else ""
  | some host =>
    "//" ++ url.credentials ++ host ++ url.port.elim "" fun port => ":" ++ toString port

/-- The serialisation. -/
def asStr (url : Url) : String :=
  url.scheme ++ ":" ++ url.authority ++ url.path ++ url.query.elim "" (fun query => "?" ++ query) ++
    url.fragment.elim "" fun fragment => "#" ++ fragment

/-- A public page of a host. -/
def https (host path : String) (query : Option String) : Url :=
  { scheme := "https", username := "", password := none, host := some host, port := none, path,
    query, fragment := none }

theorem asStr_https (host path : String) (query : Option String) :
    (https host path query).asStr =
      "https://" ++ host ++ path ++ query.elim "" fun query => "?" ++ query := by
  have hscheme (rest : String) : "https:" ++ ("//" ++ rest) = "https://" ++ rest := by
    rw [← String.append_assoc]
    rfl
  simp [https, asStr, authority, credentials, String.append_assoc, hscheme]

/-- `query_pairs_mut().append_pair` for a value that needs no encoding. -/
def appendPair (name value : String) (url : Url) : Url :=
  let pair := name ++ "=" ++ value
  { url with query := some (match url.query with
      | none => pair
      | some "" => pair
      | some query => query ++ "&" ++ pair) }

/-- The parts between the slashes, of a path that begins with one. -/
def pathSegments (url : Url) : Option (List String) :=
  match url.path.toList with
  | '/' :: rest => some ((rest.splitOn '/').map String.ofList)
  | _ => none

/-- The bytes of some characters. -/
def byteSize (cs : List Char) : ℕ := (cs.map Char.utf8Size).sum

theorem byteSize_ofList (cs : List Char) : (String.ofList cs).utf8ByteSize = byteSize cs := by
  induction cs with
  | nil => rfl
  | cons c cs ih =>
    rw [String.ofList_cons, String.utf8ByteSize_append, String.utf8ByteSize_singleton, ih]
    rfl

theorem byteSize_toList (value : String) : byteSize value.toList = value.utf8ByteSize := by
  rw [← byteSize_ofList, String.ofList_toList]

@[simp] theorem byteSize_append (cs ds : List Char) :
    byteSize (cs ++ ds) = byteSize cs + byteSize ds := by
  simp [byteSize]

/-- ASCII text has as many bytes as characters. -/
theorem utf8ByteSize_of_ascii {value : String} (h : ∀ c ∈ value.toList, c.toNat < 0x80) :
    value.utf8ByteSize = value.toList.length := by
  have hsum : ∀ cs : List Char, (∀ c ∈ cs, c.toNat < 0x80) → byteSize cs = cs.length := by
    intro cs hcs
    induction cs with
    | nil => rfl
    | cons c cs ih =>
      have hc : c.val ≤ 0x7F := UInt32.le_iff_toNat_le.mpr (Nat.le_of_lt_succ (hcs c (by simp)))
      have hone : c.utf8Size = 1 := if_pos hc
      have htail := ih fun d hd => hcs d (by simp [hd])
      simp only [byteSize, List.map_cons, List.sum_cons, List.length_cons, hone] at htail ⊢
      omega
  rw [← byteSize_toList]
  exact hsum value.toList h

/-- The segments and the slashes between them make up the text. -/
theorem byteSize_splitOn (cs : List Char) :
    byteSize cs + 1 =
      ((cs.splitOn '/').map byteSize).sum + (cs.splitOn '/').length := by
  induction cs with
  | nil => rfl
  | cons c cs ih =>
    have hslash : '/'.utf8Size = 1 := rfl
    rw [List.splitOn_cons_eq_if_modifyHead]
    by_cases hc : c = '/'
    · subst hc
      simp only [beq_self_eq_true, if_true, List.map_cons, List.sum_cons, List.length_cons,
        byteSize, List.map_nil, List.sum_nil] at ih ⊢
      omega
    · rw [if_neg (by simpa using hc)]
      obtain ⟨first, rest, hsplit⟩ := List.exists_cons_of_ne_nil (List.splitOn_ne_nil '/' cs)
      rw [hsplit] at ih ⊢
      simp only [List.modifyHead_cons, List.map_cons, List.sum_cons, List.length_cons,
        byteSize] at ih ⊢
      omega

/-- No part holds the character at which the text is split. -/
theorem not_mem_of_mem_splitOn {separator : Char} {cs part : List Char}
    (h : part ∈ cs.splitOn separator) : separator ∉ part := by
  induction cs generalizing part with
  | nil =>
    have hpart : part = [] := by simpa using h
    simp [hpart]
  | cons c cs ih =>
    rw [List.splitOn_cons_eq_if_modifyHead] at h
    by_cases hc : c = separator
    · rw [if_pos (by simpa using hc)] at h
      rcases List.mem_cons.mp h with rfl | hmem
      · simp
      · exact ih hmem
    · rw [if_neg (by simpa using hc)] at h
      obtain ⟨first, rest, hsplit⟩ := List.exists_cons_of_ne_nil (List.splitOn_ne_nil separator cs)
      rw [hsplit, List.modifyHead_cons] at h
      rcases List.mem_cons.mp h with rfl | hmem
      · have hfirst := ih (hsplit ▸ List.mem_cons_self)
        simp [hfirst, Ne.symm hc]
      · exact ih (hsplit ▸ List.mem_cons_of_mem first hmem)

/-- The path is made of its segments, with a slash before each. -/
theorem toList_path {url : Url} {parts : List String} (h : url.pathSegments = some parts) :
    url.path.toList = '/' :: ['/'].intercalate (parts.map String.toList) := by
  unfold pathSegments at h
  split at h
  · rename_i rest hpath
    have hlists : ((rest.splitOn '/').map String.ofList).map String.toList = rest.splitOn '/' := by
      rw [List.map_map]
      simp [Function.comp_def]
    rw [hpath, ← Option.some.inj h, hlists, List.intercalate_splitOn]
  · contradiction

/-- A path is as long as its segments with a slash before each. -/
theorem utf8ByteSize_path {url : Url} {segments : List String}
    (h : url.pathSegments = some segments) :
    url.path.utf8ByteSize = (segments.map String.utf8ByteSize).sum + segments.length := by
  unfold pathSegments at h
  split at h
  · rename_i rest hpath
    have hsize := byteSize_splitOn rest
    have hslash : '/'.utf8Size = 1 := rfl
    have hsum : ∀ parts : List (List Char),
        ((parts.map String.ofList).map String.utf8ByteSize).sum = (parts.map byteSize).sum := by
      intro parts
      rw [List.map_map]
      congr 2
      exact funext fun part => byteSize_ofList part
    cases h
    rw [← byteSize_toList, hpath, hsum, List.length_map, ← hsize, byteSize, List.map_cons,
      List.sum_cons, hslash, Nat.add_comm, byteSize]
  · contradiction

/-- `Url::port_or_known_default`: the port, or the one that the scheme stands for. -/
def portOrKnownDefault (url : Url) : Option ℕ :=
  url.port.or (match url.scheme with
    | "http" | "ws" => some 80
    | "https" | "wss" => some 443
    | "ftp" => some 21
    | _ => none)

end Url

/-- Bytes and characters of a text of one ASCII class. -/
theorem utf8ByteSize_of_all {value : String} {p : Char → Bool} (h : value.toList.all p = true)
    (hp : ∀ c, p c = true → c.toNat < 0x80) : value.utf8ByteSize = value.toList.length :=
  Url.utf8ByteSize_of_ascii fun c hc => hp c (List.all_eq_true.mp h c hc)

/-- The code outside the repository that handles URLs: `Url::parse` and the decoder of queries. -/
structure UrlLibrary where
  parse : String → Option Url
  queryPairs : String → List (String × String)

namespace UrlLibrary

/-- The decoded pairs of a URL's query. -/
def pairs (library : UrlLibrary) (url : Url) : List (String × String) :=
  library.queryPairs (url.query.getD "")

/-- What is relied on. A URL is made by parsing, or from a parsed https URL with a host by giving it
no query or one pair of a plain name and digits; words make the path of a public page. -/
structure Lawful (library : UrlLibrary) : Prop where
  fixed : ∀ text url, library.parse text = some url → library.parse url.asStr = some url
  printable : ∀ text url, library.parse text = some url →
    ∀ c ∈ url.asStr.toList, 0x20 ≤ c.toNat ∧ c.toNat < 0x7F
  withoutQuery : ∀ text url, library.parse text = some url →
    url.scheme = "https" → url.host.isSome = true →
    library.parse ({ url with query := none } : Url).asStr = some { url with query := none }
  withDigits : ∀ text url digits, library.parse text = some url →
    url.scheme = "https" → url.host.isSome = true → url.query = none →
    digits ≠ "" → digits.toList.all Char.isDigit = true →
    library.parse (url.appendPair "i" digits).asStr = some (url.appendPair "i" digits)
  words : ∀ kind id, kind.toList.all Char.isAlphanum = true → id.toList.all Char.isAlphanum = true →
    library.parse ("https://open.spotify.com/" ++ kind ++ "/" ++ id) =
      some (Url.https "open.spotify.com" ("/" ++ kind ++ "/" ++ id) none)
  pairs_digits : ∀ digits, digits.toList.all Char.isDigit = true →
    library.queryPairs ("i=" ++ digits) = [("i", digits)]
  pairs_empty : library.queryPairs "" = []

/-- A character that is neither encoded in a query nor has a meaning there. -/
def plainChar (c : Char) : Bool := c.isAlphanum || c == '-' || c == '_'

/-- The pairs of a query are plain text. -/
def PlainPairs (library : UrlLibrary) (query : String) : Prop :=
  ∀ pair ∈ library.queryPairs query,
    pair.1.toList.all plainChar = true ∧ pair.2.toList.all plainChar = true

/-- A query of plain pairs stands in the text that was parsed; beside plain text it has only the
separators of pairs and the marks of encoded characters. -/
structure PlainQueries (library : UrlLibrary) : Prop where
  unchanged : ∀ text url query, library.parse text = some url → url.query = some query →
    library.PlainPairs query → query.toList.Sublist text.toList
  characters : ∀ text url query, library.parse text = some url → url.query = some query →
    library.PlainPairs query → ∀ c ∈ query.toList,
      plainChar c = true ∨ c = '&' ∨ c = '=' ∨ c = '%'

end UrlLibrary

end PepeAudio
