import DeepLink.Config.Problem
import DeepLink.Toml.Document

/-! # Reading configurations

A configuration is written as a TOML document. A record is a table with its fields by name, or an
array with its fields by position; fields that it does not know are passed over. A configuration
with problems is not accepted. -/

namespace DeepLink

open DeepLink.Toml

/-- Why a configuration cannot be had. -/
inductive ConfigError where
  | unreadable
  | notToml
  | invalid (problems : List Problem)
  deriving DecidableEq, Repr

/-- The wording of an error. What a reader of the file or of the format says is not part of it. -/
def ConfigError.message : ConfigError → String
  | .unreadable => "IO error"
  | .notToml => "Parse error"
  | .invalid problems => "Validation failed: " ++ ", ".intercalate (problems.map Problem.message)

namespace Config

/-- The fields of a record, `none` standing for each that is missing. A moment is a record of its
own, without any of them. -/
def fields? (names : List String) : Node → Option (List (Option Node))
  | .table _ members => some (names.map fun name => members.lookup name)
  | .array items => some (names.mapIdx fun i _ => items[i]?)
  | .tables items => some (names.mapIdx fun i _ => items[i]?)
  | .scalar (.moment _) => some (names.map fun _ => none)
  | .scalar _ => none

/-- Reads a text. -/
def textOf? : Node → Option String
  | .scalar (.text value) => some value
  | _ => none

/-- Reads a truth value. -/
def boolOf? : Node → Option Bool
  | .scalar (.boolean value) => some value
  | _ => none

/-- Whether a node is an empty array or table. -/
def isEmpty : Node → Bool
  | .array [] | .table _ [] => true
  | _ => false

/-- Reads a kind: its name, or a table that holds nothing but something empty under the name. -/
def kindOf? : Node → Option Kind
  | .scalar (.text name) => Kind.ofName? name
  | .table _ [(name, node)] => if isEmpty node then Kind.ofName? name else none
  | _ => none

/-- Reads a field that may be missing. -/
def orElse {α : Type} (default : α) (read : Node → Option α) : Option Node → Option α
  | none => some default
  | some node => read node

/-- Reads a route. -/
def routeOf? (node : Node) : Option Route := do
  match ← fields? ["kind", "pattern", "target"] node with
  | [some kind, some pattern, some target] =>
      some ⟨← kindOf? kind, ← textOf? pattern, ← textOf? target⟩
  | _ => none

/-- Reads routes. -/
def routesOf? : Node → Option (List Route)
  | .array items => items.mapM routeOf?
  | .tables items => items.mapM routeOf?
  | _ => none

/-- Reads a fallback, which is a screen of its own unless it says otherwise. -/
def fallbackOf? (node : Node) : Option Fallback := do
  match ← fields? ["kind", "target"] node with
  | [kind, some target] => some ⟨← orElse .direct kindOf? kind, ← textOf? target⟩
  | _ => none

/-- Reads what is to be observed. -/
def observabilityOf? (node : Node) : Option Observability := do
  match ← fields? ["log_level", "metrics_enabled"] node with
  | [level, metrics] =>
      some ⟨← orElse "info" textOf? level, ← orElse false boolOf? metrics⟩
  | _ => none

/-- Reads a whole document. -/
def ofNode? (node : Node) : Option Config := do
  match ← fields? ["routes", "fallback", "observability"] node with
  | [routes, fallback, observability] =>
      some {
        routes := ← orElse [] routesOf? routes
        fallback := ← orElse none (fun node => (fallbackOf? node).map some) fallback
        observability := ← orElse {} observabilityOf? observability }
  | _ => none

/-- Accepts a configuration without problems. -/
def validate (config : Config) : Except ConfigError Config :=
  match config.problems with
  | [] => .ok config
  | problems => .error (.invalid problems)

/-- Reads a configuration. -/
def parse (text : String) : Except ConfigError Config :=
  match (Toml.parse? text).bind ofNode? with
  | none => .error .notToml
  | some config => config.validate

end Config

end DeepLink
