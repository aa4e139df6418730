/-
# Paths

The path of a request is a part of an address: a scheme and a host may stand before it, and what
follows a question mark or a number sign does not belong to it. A character may be written as the
codes of its bytes, each of two hexadecimal digits after a percent sign. Slashes divide the path
into segments.
-/

import MockSql.Number.Natural
import MockSql.Text.Bytes

namespace MockSql.Http

open MockSql.Text MockSql.Number

/-- A character of a scheme. -/
def isSchemeChar (c : Char) : Bool :=
  c.isAlphanum || c == '+' || c == '-' || c == '.'

/-- What follows the scheme of an address, if it has one. -/
def afterScheme (address : List Char) : List Char :=
  match address.head?.any Char.isAlpha, address.dropWhile isSchemeChar with
  | true, ':' :: rest => rest
  | _, _ => address

/-- A character at which a host ends. -/
def endsHost (c : Char) : Bool :=
  c == '/' || c == '?' || c == '#'

/-- What follows the host after two slashes, if there is one. -/
def afterHost : List Char → List Char
  | '/' :: '/' :: rest => rest.dropWhile (!endsHost ·)
  | rest => rest

/-- The path of an address, as it is written there. -/
def pathOf (address : List Char) : List Char :=
  (afterHost (afterScheme address)).takeWhile fun c => c != '?' && c != '#'

/-- A text with characters in place of their codes, after the codes of an unfinished character. -/
def unescapeFrom (before : Option Unfinished) : List Char → List Char
  | '%' :: a :: b :: rest =>
    match hexValue? a, hexValue? b with
    | some high, some low =>
      let (chars, after) := readByte before (high * 16 + low)
      chars ++ unescapeFrom after rest
    | _, _ => readEnd before ++ '%' :: unescapeFrom none (a :: b :: rest)
  | c :: rest => readEnd before ++ c :: unescapeFrom none rest
  | [] => readEnd before

/-- A text with characters in place of their codes. -/
def unescape (text : List Char) : List Char :=
  unescapeFrom none text

/-- The segments of the path of an address, without the slashes at its start. -/
def segments (address : String) : List String :=
  let path := (unescape (pathOf address.toList)).dropWhile (· == '/')
  (path.splitOn '/').map String.ofList

/-- The segments that remain when each two neighbouring slashes are made one: of two segments with
an empty one between them, the empty one goes. -/
def mergeSegments : List String → List String
  | "" :: next :: rest => next :: mergeSegments rest
  | segment :: rest => segment :: mergeSegments rest
  | [] => []

end MockSql.Http
