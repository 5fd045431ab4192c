import DeepLink.Config

/-! # Sessions

A session is a run of operations on one dispatcher. Each operation gives an answer, what the
presenter collected, and signals. -/

namespace DeepLink

/-- How a series of reloads comes to its end. -/
inductive Ending where
  | closed
  | shutdown
  deriving DecidableEq, Repr

/-- An operation on a dispatcher. -/
inductive Step where
  | register (kind : Kind) (pattern target : String)
  | dispatch (route : String) (arguments : List (String × String)) (flags : Flags)
  | setPresenter (presenter : Presenter)
  | setFallback (fallback : Fallback)
  | clearFallback
  | reset
  | replaceRegistry (routes : List Route)
  | apply (config : Config)
  | reload (configs : List Config) (ending : Ending)
  | resolve (route : String)
  | isValid (route : String)

/-- What an operation answers. -/
inductive Answer where
  | done
  | refused (error : RouteError)
  | dispatched (result : Except DispatchError Outcome)
  | replaced (old : Registry String)
  | applied (count : Nat)
  | ended
  | resolved (result : Except RouteError (Option (Resolution String)))
  | validity (valid : Bool)

/-- What an operation leaves behind. A presentation is collected when the collector was handed it. -/
structure Reaction where
  next : Dispatcher
  answer : Answer
  collected : Option (Presentation String) := none
  signals : List Signal := []

namespace Dispatcher

/-- Takes over configurations one after the other; those that are refused are passed over. -/
def applyEach (d : Dispatcher) : List Config → Dispatcher × List Signal
  | [] => (d, [])
  | config :: rest =>
      let (next, report) := d.apply config
      let told : Event := match report.result with
        | .ok _ => .tableApplied
        | .error _ => .tableRefused
      let (last, signals) := next.applyEach rest
      (last, report.signals ++ .event told :: signals)

/-- Performs an operation. -/
def perform (d : Dispatcher) : Step → Reaction
  | .register kind pattern target =>
      let report := d.register kind pattern target
      match report.result with
      | .ok next => { next := next, answer := .done, signals := report.signals }
      | .error error => { next := d, answer := .refused error, signals := report.signals }
  | .dispatch route arguments flags =>
      let dispatch := d.dispatch route arguments flags
      { next := dispatch.next, answer := .dispatched dispatch.result,
        collected := if d.presenter = some .collector then dispatch.presented else none,
        signals := dispatch.signals }
  | .setPresenter presenter =>
      { next := { d with presenter := some presenter }, answer := .done }
  | .setFallback fallback => { next := { d with fallback := some fallback }, answer := .done }
  | .clearFallback => { next := { d with fallback := none }, answer := .done }
  | .reset =>
      let report := d.reset
      { next := report.result, answer := .done, signals := report.signals }
  | .replaceRegistry routes =>
      let built := Registry.build routes
      match built.result with
      | .error error => { next := d, answer := .refused error, signals := built.signals }
      | .ok registry =>
          let report := d.replaceRegistry registry
          { next := report.result, answer := .replaced d.registry,
            signals := built.signals ++ report.signals }
  | .apply config =>
      let (next, report) := d.apply config
      match report.result with
      | .error error => { next := next, answer := .refused error, signals := report.signals }
      | .ok count => { next := next, answer := .applied count, signals := report.signals }
  | .reload configs ending =>
      let (next, signals) := d.applyEach configs
      let requested : List Signal := match ending with
        | .closed => []
        | .shutdown => [.event .shutdownRequested]
      { next := next, answer := .ended,
        signals := signals ++ requested ++ [.event .reloadStopped] }
  | .resolve route =>
      let report := d.registry.resolve route
      { next := d, answer := .resolved report.result, signals := report.signals }
  | .isValid route =>
      let report := d.registry.isValid route
      { next := d, answer := .validity report.result, signals := report.signals }

/-- Performs operations one after the other. -/
def run (d : Dispatcher) : List Step → List Reaction
  | [] => []
  | step :: rest =>
      let reaction := d.perform step
      reaction :: reaction.next.run rest

end Dispatcher

end DeepLink
