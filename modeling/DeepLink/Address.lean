import DeepLink.Text.Cut
import DeepLink.Text.Percent
import DeepLink.Url.Syntax

/-! # Addresses

An address is cut out of a text exactly as it is written: nothing is lower-cased, resolved or
normalised. The URL syntax check only decides whether the text is cut at all. Patterns and routes
are both read this way, so a pattern and a route that look alike are cut alike. -/

namespace DeepLink

open DeepLink.Text

/-- The parts of a text of the form `scheme://host/segment/…`. -/
structure Address where
  scheme : String
  host : String
  /-- The non-empty pieces of the path, each with its own escapes resolved. -/
  segments : List String
  hasQuery : Bool
  hasFragment : Bool
  deriving DecidableEq, Repr

namespace Address

/-- Why a text is no address. -/
inductive Fault where
  | syntaxFault (fault : Url.Fault)
  | noHierarchy
  | noAuthorityMark
  | noHost
  deriving DecidableEq, Repr

/-- The wording of a fault. -/
def Fault.message : Fault → String
  | .syntaxFault fault => fault.message
  | .noHierarchy => "URI has no hierarchical path"
  | .noAuthorityMark => "missing \x60://\x60 authority marker"
  | .noHost => "missing host"

/-- The segments of a path: empty pieces are passed over, and escapes are resolved afterwards, so an
escaped slash never divides. -/
def segmentsOf (path : List Char) : List String :=
  ((path.splitOn '/').filter (!·.isEmpty)).map fun piece => String.ofList (Percent.decodeChars piece)

/-- Cuts a text at its first `://`, and what follows at the first `#`, then at the first `?`, then
at the first slash. -/
def cut (text : List Char) : Except Fault Address :=
  match cutAtWord "://".toList text with
  | none => .error .noAuthorityMark
  | some (scheme, rest) =>
      let (beforeFragment, fragment) := cutAt '#' rest
      let (beforeQuery, query) := cutAt '?' beforeFragment
      let host := beforeQuery.takeWhile (· != '/')
      let path := beforeQuery.dropWhile (· != '/')
      if host.isEmpty then .error .noHost
      else .ok {
        scheme := String.ofList scheme
        host := String.ofList host
        segments := segmentsOf path
        hasQuery := query.isSome
        hasFragment := fragment.isSome }

/-- Reads a text as an address. -/
def parse (text : String) : Except Fault Address :=
  match Url.check text.toList with
  | .error fault => .error (.syntaxFault fault)
  | .ok .rootless => .error .noHierarchy
  | .ok .hierarchical => cut text.toList

end Address

end DeepLink
