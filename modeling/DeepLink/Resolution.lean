import DeepLink.Pattern.Alignment
import DeepLink.Query
import DeepLink.Registry

/-! # Resolving links

A link is divided at its first `?`. The part before it is read as an address and compared with the
routes of each kind in turn; the query is read only when a pattern has matched. -/

namespace DeepLink

/-- A link with everything that was found out about it. -/
structure Resolution (β : Type) where
  route : String
  clean : String
  key : String
  kind : Kind
  binding : β
  wildcards : Dictionary WildcardValue
  params : Dictionary String
  deriving DecidableEq

namespace Registry

variable {β : Type}

/-- The first route of a kind whose pattern matches, with the segments that take part. -/
def matchIn (r : Registry β) (kind : Kind) (address : Address) : Option (Entry β × List String) :=
  (r.table kind).findSome? fun entry =>
    (entry.pattern.align address).map fun segments => (entry, segments)

/-- The first match among kinds, with the values of its wildcards. -/
def firstMatch (r : Registry β) (address : Address) (kinds : List Kind) :
    Option (Entry β × Dictionary WildcardValue) :=
  kinds.findSome? fun kind =>
    match r.matchIn kind address with
    | none => none
    | some (entry, segments) =>
        (entry.pattern.extract segments).map fun wildcards => (entry, wildcards)

/-- Resolves a link. `none` means that no route matches. -/
def resolve (r : Registry β) (route : String) :
    Report (Except RouteError (Option (Resolution β))) :=
  let (clean, query) := Query.split route
  match Address.parse clean with
  | .error _ => ⟨.ok none, [.event .routeNotAddress, .count (.resolution none)]⟩
  | .ok address =>
      match r.firstMatch address Kind.precedence with
      | none => ⟨.ok none, [.event .noRouteMatched, .count (.resolution none)]⟩
      | some (entry, wildcards) =>
          match Query.parse query with
          | .error piece => ⟨.error (.malformedQuery route piece), []⟩
          | .ok params =>
              ⟨.ok (some ⟨route, clean, entry.key, entry.kind, entry.binding, wildcards, params⟩),
                [.event .routeResolved, .count (.resolution (some entry.kind))]⟩

/-- Whether a link resolves. -/
def isValid (r : Registry β) (route : String) : Report Bool :=
  let report := r.resolve route
  ⟨match report.result with
    | .ok (some _) => true
    | _ => false, report.signals⟩

end Registry

end DeepLink
