import DeepLink.Kind

/-! # Signals

What the library reports while it works: events for the log, and counters. An operation returns its
result together with its signals, in the order in which they were given off. -/

namespace DeepLink

/-- How important an event is. -/
inductive Level where
  | debug
  | info
  | warn
  | error
  deriving DecidableEq, Repr

/-- The name of a level. -/
def Level.label : Level → String
  | .debug => "DEBUG"
  | .info => "INFO"
  | .warn => "WARN"
  | .error => "ERROR"

/-- An event of the log. Only what a presenter reports carries fields. -/
inductive Event where
  | routeRegistered
  | duplicateRegistration
  | patternRejected
  | registryReset
  | routeNotAddress
  | routeResolved
  | noRouteMatched
  | dispatching
  | resolutionFailed
  | routeNotFound
  | alreadyCurrent
  | noPresenter
  | routeDispatched
  | tableReplaced
  | dispatcherBuilt
  | tableApplied
  | tableRefused
  | reloadStopped
  | shutdownRequested
  | tableUnreadable
  | tableUnchanged
  | tableReloaded
  | tableRejected
  | actionRun (fields : List (String × String))
  | targetPresented (fields : List (String × String))
  deriving DecidableEq, Repr

namespace Event

/-- The level of an event. -/
def level : Event → Level
  | .routeRegistered | .registryReset | .routeNotAddress | .routeResolved | .noRouteMatched => .debug
  | .dispatching | .alreadyCurrent | .reloadStopped | .tableUnchanged => .debug
  | .routeDispatched | .tableReplaced | .dispatcherBuilt | .tableApplied | .shutdownRequested => .info
  | .tableReloaded | .actionRun _ | .targetPresented _ => .info
  | .duplicateRegistration | .patternRejected | .resolutionFailed | .routeNotFound => .warn
  | .noPresenter | .tableRefused | .tableUnreadable | .tableRejected => .error

/-- The message of an event. -/
def message : Event → String
  | .routeRegistered => "Route registered"
  | .duplicateRegistration => "Duplicate route registration"
  | .patternRejected => "Rejected route pattern"
  | .registryReset => "Route registry reset"
  | .routeNotAddress => "Route is not URI-shaped"
  | .routeResolved => "Route resolved"
  | .noRouteMatched => "No route matched"
  | .dispatching => "Dispatching route"
  | .resolutionFailed => "Route resolution failed"
  | .routeNotFound => "Route not found"
  | .alreadyCurrent => "Route already current, skipping"
  | .noPresenter => "Dispatch attempted without a presenter"
  | .routeDispatched => "Route dispatched"
  | .tableReplaced => "Route table replaced"
  | .dispatcherBuilt => "Dispatcher built"
  | .tableApplied => "Route table applied"
  | .tableRefused => "Route table rejected, keeping current one"
  | .reloadStopped => "Reload loop stopped"
  | .shutdownRequested => "Shutdown requested"
  | .tableUnreadable => "Failed to read route table"
  | .tableUnchanged => "Route table unchanged, skipping reload"
  | .tableReloaded => "Route table reloaded"
  | .tableRejected => "Failed to reload route table, keeping current one"
  | .actionRun _ => "Executing router action"
  | .targetPresented _ => "Presenting route target"

/-- The fields of an event. -/
def fields : Event → List (String × String)
  | .actionRun fields => fields
  | .targetPresented fields => fields
  | _ => []

end Event

/-- How a registration ended. -/
inductive Registered where
  | ok
  | duplicate
  | malformed
  deriving DecidableEq, Repr

/-- How a dispatch ended. -/
inductive Dispatched where
  | presented
  | fallback
  | suppressed
  | notFound
  | noPresenter
  | resolutionError
  deriving DecidableEq, Repr

/-- A counter: one of each family for each combination of labels. -/
inductive Counter where
  | registration (kind : Kind) (outcome : Registered)
  | resolution (kind : Option Kind)
  | dispatch (outcome : Dispatched)
  deriving DecidableEq, Repr

/-- What an operation gives off. -/
inductive Signal where
  | event (event : Event)
  | count (counter : Counter)
  deriving DecidableEq, Repr

/-- A result with the signals given off on the way. -/
structure Report (α : Type) where
  result : α
  signals : List Signal

/-- The events among signals. -/
def events (signals : List Signal) : List Event :=
  signals.filterMap fun
    | .event event => some event
    | .count _ => none

/-- The counters that signals raise, one entry for each time. -/
def counts (signals : List Signal) : List Counter :=
  signals.filterMap fun
    | .event _ => none
    | .count counter => some counter

@[simp]
theorem events_append (a b : List Signal) : events (a ++ b) = events a ++ events b :=
  List.filterMap_append

@[simp]
theorem counts_append (a b : List Signal) : counts (a ++ b) = counts a ++ counts b :=
  List.filterMap_append

end DeepLink
