import DeepLink.Config
import DeepLink.Text.Blank

/-! # Problems of a configuration

A configuration is checked as a whole before it is used: each route for a blank target, for a
pattern that does not compile, and for a pattern that an earlier route has; then the fallback. -/

namespace DeepLink

open DeepLink.Text

/-- Something wrong with a configuration. Routes are numbered from 0. -/
inductive Problem where
  | emptyTarget (index : Nat) (pattern : String)
  | malformedPattern (index : Nat) (error : RouteError)
  | duplicatePattern (index first : Nat) (pattern : String) (kind : Kind)
  | emptyFallbackTarget
  deriving DecidableEq, Repr

namespace Problem

/-- The wording of a problem. -/
def message : Problem → String
  | .emptyTarget index pattern =>
      "route #" ++ toString index ++ " (" ++ pattern ++ ") has an empty target"
  | .malformedPattern index error => "route #" ++ toString index ++ ": " ++ error.message
  | .duplicatePattern index first pattern kind =>
      "route #" ++ toString index ++ " (" ++ pattern ++ ") duplicates route #" ++ toString first ++
        " (" ++ kind.label ++ ")"
  | .emptyFallbackTarget => "fallback has an empty target"

end Problem

/-- Where the patterns of the routes so far came first, and under which kind. -/
abbrev FirstSeen := Dictionary (Nat × Kind)

namespace Config

/-- The problems of one route. -/
def problemsOf (seen : FirstSeen) (index : Nat) (route : Route) : List Problem :=
  let target := if isBlank route.target then [.emptyTarget index route.pattern] else []
  let pattern := match Pattern.compile route.pattern with
    | .ok _ => []
    | .error fault => [.malformedPattern index (.malformedPattern route.pattern fault)]
  let duplicate := match seen.get? route.pattern with
    | some (first, kind) => [.duplicatePattern index first route.pattern kind]
    | none => []
  target ++ pattern ++ duplicate

/-- The problems of routes, the first of which has the given index. -/
def routeProblems (seen : FirstSeen) (index : Nat) : List Route → List Problem
  | [] => []
  | route :: rest =>
      problemsOf seen index route ++
        routeProblems (seen.insertNew route.pattern (index, route.kind)) (index + 1) rest

/-- All problems of a configuration, in order. -/
def problems (config : Config) : List Problem :=
  routeProblems .empty 0 config.routes ++
    match config.fallback with
    | some fallback => if isBlank fallback.target then [.emptyFallbackTarget] else []
    | none => []

end Config

end DeepLink
