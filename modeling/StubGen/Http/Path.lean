import StubGen.Text.Utf8

/-!
# Request paths

The path of a request is what stands before the query and the fragment, percent-decoded, with
exactly one slash in front.
-/

namespace StubGen.Http

/-- Replaces each escape of a percent sign and two digits by the byte that it stands for. -/
def unescape : List UInt8 → List UInt8
  | b :: high :: low :: rest =>
    match b == 37, Text.ofHex? [Char.ofNat high.toNat, Char.ofNat low.toNat] with
    | true, some n => UInt8.ofNat n :: unescape rest
    | _, _ => b :: unescape (high :: low :: rest)
  | short => short

/-- What stands before the first query or fragment sign. -/
def beforeQuery (target : List Char) : List Char :=
  target.takeWhile fun c => c ≠ '?' && c ≠ '#'

/-- Drops a host, which two slashes introduce. -/
def withoutHost : List Char → List Char
  | '/' :: '/' :: rest => rest.dropWhile (· ≠ '/')
  | path => path

/-- The decoded path of a request target. -/
def pathOf (target : String) : List Char :=
  let raw := String.ofList (withoutHost (beforeQuery target.toList))
  let decoded := Text.Utf8.decodeLossy (unescape raw.toUTF8.toList)
  '/' :: decoded.toList.dropWhile (· = '/')

/-- The path with the slashes of each pair merged. -/
def mergeSlashes : List Char → List Char
  | '/' :: '/' :: rest => '/' :: mergeSlashes rest
  | c :: rest => c :: mergeSlashes rest
  | [] => []

end StubGen.Http
