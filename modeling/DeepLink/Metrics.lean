import DeepLink.Signal

/-! # Counters as text

The values of counters in the Prometheus text format. A counter that was never raised has no line. -/

namespace DeepLink.Metrics

/-- The label of a registration's outcome. -/
def registeredLabel : Registered → String
  | .ok => "ok"
  | .duplicate => "duplicate"
  | .malformed => "malformed"

/-- The label of a dispatch's outcome. -/
def dispatchedLabel : Dispatched → String
  | .presented => "presented"
  | .fallback => "fallback"
  | .suppressed => "suppressed"
  | .notFound => "not_found"
  | .noPresenter => "presenter_unavailable"
  | .resolutionError => "resolution_error"

/-- The family of a counter. -/
def family : Counter → String
  | .registration _ _ => "router_registrations_total"
  | .resolution _ => "router_resolutions_total"
  | .dispatch _ => "router_dispatches_total"

/-- The labels of a counter. -/
def labels : Counter → List (String × String)
  | .registration kind outcome => [("kind", kind.label), ("outcome", registeredLabel outcome)]
  | .resolution kind => [("kind", (kind.map Kind.label).getD "none")]
  | .dispatch outcome => [("outcome", dispatchedLabel outcome)]

/-- The name of a counter with its labels. -/
def name (counter : Counter) : String :=
  let pairs := (labels counter).map fun (key, value) => key ++ "=\"" ++ value ++ "\""
  family counter ++ "\x7b" ++ ",".intercalate pairs ++ "\x7d"

/-- How often a counter was raised. -/
def value (raised : List Counter) (counter : Counter) : Nat :=
  raised.count counter

/-- The line of a counter. -/
def sample (raised : List Counter) (counter : Counter) : String :=
  name counter ++ " " ++ toString (value raised counter)

/-- Whether a text comes before another, or is the same, character by character. -/
def precedes (a b : String) : Bool := !decide (b < a)

/-- The lines of all counters that were raised, sorted. -/
def samples (raised : List Counter) : List String :=
  (raised.eraseDups.map (sample raised)).mergeSort precedes

/-- The whole exposition: each family under a line that tells its type. -/
def exposition (raised : List Counter) : List String :=
  let families := (raised.map family).eraseDups.mergeSort precedes
  families.flatMap fun name =>
    ("# TYPE " ++ name ++ " counter") :: samples (raised.filter (family · = name))

end DeepLink.Metrics
