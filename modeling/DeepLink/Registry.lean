import DeepLink.Pattern
import DeepLink.Signal

/-! # The registry

A registry holds the registered routes in the order of registration. A template is compiled once,
when it is registered, and no template is registered twice, under whatever kind. -/

namespace DeepLink

open DeepLink.Text

/-- What can go wrong when a route is registered or resolved. -/
inductive RouteError where
  | malformedPattern (template : String) (fault : Pattern.Fault)
  | duplicateRoute (template : String) (existing : Kind)
  | malformedQuery (route : String) (piece : String)
  deriving DecidableEq, Repr

/-- The wording of an error. -/
def RouteError.message : RouteError → String
  | .malformedPattern template fault =>
      "Malformed pattern " ++ quoted template ++ ": " ++ fault.message
  | .duplicateRoute template existing =>
      "A route with the name " ++ quoted template ++ " already exists as a " ++ existing.label ++
        " route"
  | .malformedQuery route piece =>
      "Malformed query parameter " ++ quoted piece ++ " in route " ++ quoted route

/-- A registered route: its template, compiled, and what it leads to. -/
structure Entry (β : Type) where
  key : String
  kind : Kind
  pattern : Pattern
  binding : β
  deriving DecidableEq

/-- What is asked of a registry that is to hold a route. -/
structure Registration (β : Type) where
  kind : Kind
  key : String
  binding : β

/-- The registered routes, in the order of registration. -/
structure Registry (β : Type) where
  entries : List (Entry β)
  deriving DecidableEq

namespace Registry

variable {β : Type}

/-- The registry without routes. -/
def empty : Registry β := ⟨[]⟩

/-- The routes of a kind. -/
def table (r : Registry β) (kind : Kind) : List (Entry β) :=
  r.entries.filter (·.kind = kind)

/-- The entry of a template. -/
def find? (r : Registry β) (key : String) : Option (Entry β) :=
  r.entries.find? (·.key = key)

/-- The kind that a template is registered under. -/
def kindOf? (r : Registry β) (key : String) : Option Kind :=
  (r.find? key).map (·.kind)

/-- Whether a template is registered. -/
def contains (r : Registry β) (key : String) : Bool :=
  (r.kindOf? key).isSome

/-- The number of routes. -/
def size (r : Registry β) : Nat := r.entries.length

/-- Registers a route. A template that is registered already is refused before it is compiled. -/
def register (r : Registry β) (kind : Kind) (key : String) (binding : β) :
    Report (Except RouteError (Registry β)) :=
  match r.kindOf? key with
  | some existing =>
      ⟨.error (.duplicateRoute key existing),
        [.event .duplicateRegistration, .count (.registration kind .duplicate)]⟩
  | none =>
      match Pattern.compile key with
      | .error fault =>
          ⟨.error (.malformedPattern key fault),
            [.event .patternRejected, .count (.registration kind .malformed)]⟩
      | .ok pattern =>
          ⟨.ok ⟨r.entries ++ [⟨key, kind, pattern, binding⟩]⟩,
            [.event .routeRegistered, .count (.registration kind .ok)]⟩

/-- Registers routes in a chain. The first refusal ends the chain, and no registry is left. -/
def chain (r : Registry β) : List (Registration β) → Except RouteError (Registry β)
  | [] => .ok r
  | wish :: rest =>
      match (r.register wish.kind wish.key wish.binding).result with
      | .error error => .error error
      | .ok next => next.chain rest

/-- Removes every route. -/
def reset (_ : Registry β) : Report (Registry β) :=
  ⟨empty, [.event .registryReset]⟩

/-- The routes of a kind, sorted by template. -/
def listing (r : Registry β) (kind : Kind) : List (Entry β) :=
  (r.table kind).mergeSort fun a b => !decide (b.key < a.key)

end Registry

end DeepLink
