import DeepLink.Config.Reading

/-! # Errors spelled out

The form in which the command line shows a fatal error: the name of the cause, with its parts. -/

namespace DeepLink.Diagnosis

open DeepLink.Text

/-- A cause with named parts. -/
def named (name : String) (parts : List (String × String)) : String :=
  name ++ " \x7b " ++ ", ".intercalate (parts.map fun (part, text) => part ++ ": " ++ text) ++
    " \x7d"

/-- A cause with one part. -/
def wrapped (name part : String) : String :=
  name ++ "(" ++ part ++ ")"

/-- The name of a kind. -/
def kind : Kind → String
  | .direct => "Direct"
  | .composite => "Composite"
  | .action => "Action"

/-- An error of registration or resolution. -/
def routeError : RouteError → String
  | .malformedPattern template fault =>
      named "MalformedPattern" [("pattern", quoted template), ("reason", quoted fault.message)]
  | .duplicateRoute template existing =>
      named "DuplicateRoute" [("pattern", quoted template), ("existing", kind existing)]
  | .malformedQuery route piece =>
      named "MalformedQueryParam" [("route", quoted route), ("pair", quoted piece)]

/-- An error of a dispatch. -/
def dispatchError : DispatchError → String
  | .route error => wrapped "Route" (routeError error)
  | .notFound link => wrapped "RouteNotFound" (quoted link)
  | .noPresenter => "PresenterUnavailable"

/-- A problem of a configuration. -/
def problem : Problem → String
  | .emptyTarget index pattern =>
      named "EmptyTarget" [("index", toString index), ("pattern", quoted pattern)]
  | .malformedPattern index error =>
      named "MalformedPattern" [("index", toString index), ("reason", quoted error.message)]
  | .duplicatePattern index first pattern existing =>
      named "DuplicatePattern" [("index", toString index), ("first", toString first),
        ("pattern", quoted pattern), ("kind", kind existing)]
  | .emptyFallbackTarget => "EmptyFallbackTarget"

/-- An error of a configuration. -/
def configError : ConfigError → String
  | .unreadable => "Io"
  | .notToml => "Parse"
  | .invalid problems =>
      wrapped "Validation" ("[" ++ ", ".intercalate (problems.map problem) ++ "]")

/-- What a dispatch did. -/
def outcome : Outcome → String
  | .presented shown => wrapped "Presented" (kind shown)
  | .fellBack shown => wrapped "PresentedFallback" (kind shown)
  | .suppressed => "SuppressedSameRoute"

end DeepLink.Diagnosis
