import DeepLink.Dictionary
import DeepLink.Text.Cut
import DeepLink.Text.Percent

/-! # Queries

The text behind the first `?` of a route holds pieces `key=value`, separated by `&`. Empty pieces
are passed over, and the first value of a key counts. -/

namespace DeepLink

open DeepLink.Text

namespace Query

/-- A route's text before its first `?`, and its query when it has one. -/
def split (route : String) : String × Option String :=
  let (clean, query) := cutAt '?' route.toList
  (String.ofList clean, query.map String.ofList)

/-- The non-empty pieces of a query. -/
def pieces (query : String) : List (List Char) :=
  (query.toList.splitOn '&').filter (!·.isEmpty)

/-- The key and the value of a piece, their escapes resolved; `none` without `=`. -/
def pair? (piece : List Char) : Option (String × String) :=
  let (key, value) := cutAt '=' piece
  value.map fun value =>
    (String.ofList (Percent.decodeChars key), String.ofList (Percent.decodeChars value))

/-- Adds the pieces of a query from the left; a piece without `=` is the error. -/
def collect (params : Dictionary String) : List (List Char) → Except String (Dictionary String)
  | [] => .ok params
  | piece :: rest =>
      match pair? piece with
      | none => .error (String.ofList piece)
      | some (key, value) => collect (params.insertNew key value) rest

/-- The parameters of a query, or its first piece without `=`. -/
def parse : Option String → Except String (Dictionary String)
  | none => .ok .empty
  | some query => collect .empty (pieces query)

end Query

end DeepLink
