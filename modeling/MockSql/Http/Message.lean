/-
# Requests and responses

What travels between a client and the server: a request has a method, a path and perhaps a body; a
response has a status and perhaps JSON. A body that is sent as a text counts only if its content
type is one of JSON and the text is JSON.
-/

import MockSql.Json.Reader
import MockSql.Text.Trim

namespace MockSql.Http

open MockSql.Text

/-- The body of a request. -/
inductive Body where
  | empty
  /-- A value, sent as JSON. -/
  | json (value : Json)
  /-- A text of a given content type. -/
  | raw (contentType data : String)
deriving Repr

/-- A request. -/
structure Request where
  method : String
  path : String
  body : Body
deriving Repr

/-- A response; one that is not JSON has no content here. -/
structure Response where
  status : Nat
  content : Option Json
deriving Repr, BEq

/-- Whether a content type is one of JSON: its parameters and its case do not count. -/
def isJsonType (contentType : String) : Bool :=
  let kind := (trim (contentType.toList.takeWhile (· != ';'))).map Char.toLower
  kind == "application/json".toList ||
    ("application/".toList.isPrefixOf kind && "+json".toList.isSuffixOf kind)

/-- A text without the mark of its encoding at its start. -/
def dropEncodingMark (text : String) : String :=
  match text.toList with
  | '\ufeff' :: rest => String.ofList rest
  | _ => text

/-- The JSON value of a body; a body of another type or that is not JSON has none. -/
def Body.value? : Body → Option Json
  | .empty => none
  | .json value => some value
  | .raw contentType data =>
    if isJsonType contentType then (Json.read (dropEncodingMark data)).toOption else none

end MockSql.Http
