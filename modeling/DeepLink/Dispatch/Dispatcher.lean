import DeepLink.Dispatch.Presentation
import DeepLink.Resolution

/-! # Dispatching links

A dispatcher resolves a link, or takes its fallback, and hands the result to its presenter. It
remembers the link presented last, and passes over the same link when it comes again. How a dispatch
ends is decided first, as a verdict; result, next state and signals all follow from the verdict. -/

namespace DeepLink

/-- What is presented when no route matches. -/
structure Fallback where
  kind : Kind
  target : String
  deriving DecidableEq, Repr

/-- The routes, who presents them, what stands in for a missing one, and the link presented last. -/
structure Dispatcher where
  registry : Registry String
  presenter : Option Presenter := none
  fallback : Option Fallback := none
  current : Option String := none

/-- What can go wrong in a dispatch. -/
inductive DispatchError where
  | route (error : RouteError)
  | notFound (route : String)
  | noPresenter
  deriving DecidableEq, Repr

/-- The wording of an error. -/
def DispatchError.message : DispatchError → String
  | .route error => error.message
  | .notFound link => "The provided route: " ++ link ++ " is not mapped"
  | .noPresenter =>
      "No presenter configured; call Dispatcher::set_presenter before dispatching"

/-- What a successful dispatch did. -/
inductive Outcome where
  | presented (kind : Kind)
  | fellBack (kind : Kind)
  | suppressed
  deriving DecidableEq, Repr

/-- How a dispatch ends. -/
inductive Verdict where
  /-- The link cannot be resolved. -/
  | unresolved (error : RouteError)
  /-- No route matches, and the query cannot be read for the fallback. -/
  | fallbackUnreadable (error : RouteError)
  /-- No route matches, and there is no fallback. -/
  | unmatched
  /-- The link is the one presented last. -/
  | repeated
  /-- There is no one to present it. -/
  | unpresentable
  /-- The presenter is handed a presentation, of a route or of the fallback. -/
  | presented (presenter : Presenter) (presentation : Presentation String) (fallback : Bool)

namespace Dispatcher

/-- A dispatcher for a registry, with nothing else. -/
def ofRegistry (registry : Registry String) : Dispatcher := { registry := registry }

/-- The dispatcher without routes. -/
def empty : Dispatcher := ofRegistry .empty

/-- What would be presented for a link: kind, target, values of wildcards, parameters, and whether
it is the fallback. -/
structure Choice where
  kind : Kind
  target : String
  wildcards : Dictionary WildcardValue
  params : Dictionary String
  fallback : Bool

/-- Chooses between the route that matches and the fallback. -/
def choose (d : Dispatcher) (route : String) : Except Verdict Choice :=
  match (d.registry.resolve route).result with
  | .error error => .error (.unresolved error)
  | .ok (some found) =>
      .ok ⟨found.kind, found.binding, found.wildcards, found.params, false⟩
  | .ok none =>
      match d.fallback with
      | none => .error .unmatched
      | some fallback =>
          match Query.parse (Query.split route).2 with
          | .error piece => .error (.fallbackUnreadable (.malformedQuery route piece))
          | .ok params => .ok ⟨fallback.kind, fallback.target, .empty, params, true⟩

/-- Decides how a dispatch ends. The same link is passed over before anyone asks for a presenter. -/
def verdict (d : Dispatcher) (route : String) (arguments : List (String × String)) (flags : Flags) :
    Verdict :=
  match d.choose route with
  | .error verdict => verdict
  | .ok choice =>
      if d.current = some route ∧ !flags.contains .overrideSameRoute then .repeated
      else
        match d.presenter with
        | none => .unpresentable
        | some presenter =>
            .presented presenter
              { route := route
                kind := choice.kind
                binding := choice.target
                arguments :=
                  choice.wildcards.insertAll (arguments.map fun (name, text) => (name, .text text))
                params := choice.params
                flags := flags }
              choice.fallback

end Dispatcher

namespace Verdict

/-- What the caller of a dispatch is told. -/
def result (verdict : Verdict) (route : String) : Except DispatchError Outcome :=
  match verdict with
  | .unresolved error => .error (.route error)
  | .fallbackUnreadable error => .error (.route error)
  | .unmatched => .error (.notFound route)
  | .repeated => .ok .suppressed
  | .unpresentable => .error .noPresenter
  | .presented _ p false => .ok (.presented p.kind)
  | .presented _ p true => .ok (.fellBack p.kind)

/-- What is presented. -/
def presentation? : Verdict → Option (Presentation String)
  | .presented _ p _ => some p
  | _ => none

/-- The signals of a verdict. A query that the fallback cannot read leaves no signal. -/
def signals : Verdict → List Signal
  | .unresolved _ => [.event .resolutionFailed, .count (.dispatch .resolutionError)]
  | .fallbackUnreadable _ => []
  | .unmatched => [.event .routeNotFound, .count (.dispatch .notFound)]
  | .repeated => [.event .alreadyCurrent, .count (.dispatch .suppressed)]
  | .unpresentable => [.event .noPresenter, .count (.dispatch .noPresenter)]
  | .presented presenter p fallback =>
      .event .routeDispatched :: presenter.signals p ++
        [.count (.dispatch (if fallback then .fallback else .presented))]

end Verdict

namespace Dispatcher

/-- What a dispatch leaves behind: the next state, what the caller is told, what was presented, and
the signals. -/
structure Dispatch where
  next : Dispatcher
  result : Except DispatchError Outcome
  presented : Option (Presentation String)
  signals : List Signal

/-- Dispatches a link. Only a presentation changes the state: it makes the link the current one. -/
def dispatch (d : Dispatcher) (route : String) (arguments : List (String × String))
    (flags : Flags) : Dispatch :=
  let verdict := d.verdict route arguments flags
  { next :=
      match verdict with
      | .presented _ _ _ => { d with current := some route }
      | _ => d
    result := verdict.result route
    presented := verdict.presentation?
    signals := .event .dispatching :: (d.registry.resolve route).signals ++ verdict.signals }

/-- Registers a route. -/
def register (d : Dispatcher) (kind : Kind) (key target : String) :
    Report (Except RouteError Dispatcher) :=
  let report := d.registry.register kind key target
  ⟨report.result.map fun registry => { d with registry := registry }, report.signals⟩

/-- Removes every route and forgets the current link. -/
def reset (d : Dispatcher) : Report Dispatcher :=
  let report := d.registry.reset
  ⟨{ d with registry := report.result, current := none }, report.signals⟩

/-- Takes other routes and forgets the current link. -/
def replaceRegistry (d : Dispatcher) (registry : Registry String) : Report Dispatcher :=
  ⟨{ d with registry := registry, current := none }, [.event .tableReplaced]⟩

end Dispatcher

end DeepLink
