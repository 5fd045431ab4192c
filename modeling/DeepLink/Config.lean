import DeepLink.Dispatch.Dispatcher

/-! # Route tables

A configuration lists routes and may name a fallback. Its routes are registered in order, and the
first one that is refused refuses the whole table. -/

namespace DeepLink

/-- One route of a configuration. -/
structure Route where
  kind : Kind
  pattern : String
  target : String
  deriving DecidableEq, Repr

/-- What is to be observed. -/
structure Observability where
  logLevel : String := "info"
  metricsEnabled : Bool := false
  deriving DecidableEq, Repr

/-- A configuration. -/
structure Config where
  routes : List Route := []
  fallback : Option Fallback := none
  observability : Observability := {}
  deriving DecidableEq, Repr

/-- The log filter that a level asks for. -/
def Observability.filter (o : Observability) : String :=
  "uri_router=" ++ String.ofList (o.logLevel.toList.map Char.toLower)

namespace Registry

/-- Registers routes one after the other, up to the first that is refused. -/
def registerAll (r : Registry String) : List Route → Report (Except RouteError (Registry String))
  | [] => ⟨.ok r, []⟩
  | route :: rest =>
      let first := r.register route.kind route.pattern route.target
      match first.result with
      | .error error => ⟨.error error, first.signals⟩
      | .ok r =>
          let others := registerAll r rest
          ⟨others.result, first.signals ++ others.signals⟩

/-- The registry of routes. -/
def build (routes : List Route) : Report (Except RouteError (Registry String)) :=
  empty.registerAll routes

end Registry

namespace Dispatcher

/-- The dispatcher of a configuration, without a presenter. -/
def build (config : Config) : Report (Except RouteError Dispatcher) :=
  let report := Registry.build config.routes
  match report.result with
  | .error error => ⟨.error error, report.signals⟩
  | .ok registry =>
      ⟨.ok { registry := registry, fallback := config.fallback },
        report.signals ++ [.event .dispatcherBuilt]⟩

/-- Takes over a configuration: its routes in place of the present ones, and its fallback or none.
The number of routes is returned; a table that is refused changes nothing. -/
def apply (d : Dispatcher) (config : Config) : Dispatcher × Report (Except RouteError Nat) :=
  let report := Registry.build config.routes
  match report.result with
  | .error error => (d, ⟨.error error, report.signals⟩)
  | .ok registry =>
      let replaced := d.replaceRegistry registry
      ({ replaced.result with fallback := config.fallback },
        ⟨.ok registry.size, report.signals ++ replaced.signals⟩)

end Dispatcher

end DeepLink
