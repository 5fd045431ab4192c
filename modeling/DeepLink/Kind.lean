import DeepLink.Json

/-! # Kinds of routes

A route is presented as a whole screen, as a part of one, or as an action. The kinds are tried in a
fixed order when a link is resolved. -/

namespace DeepLink

/-- The category that a route is registered under. -/
inductive Kind where
  /-- A standalone screen. -/
  | direct
  /-- A part attached inside a container. -/
  | composite
  /-- An action that is run with the arguments. -/
  | action
  deriving DecidableEq, Repr

namespace Kind

/-- The order in which the kinds are tried. -/
def precedence : List Kind := [.direct, .composite, .action]

theorem mem_precedence (kind : Kind) : kind ∈ precedence := by
  cases kind <;> decide

/-- The label of a kind. -/
def label : Kind → String
  | .direct => "direct"
  | .composite => "composite"
  | .action => "action"

/-- The kind that a name stands for. Two kinds have a second name. -/
def ofName? : String → Option Kind
  | "direct" | "activity" => some .direct
  | "composite" | "fragment" => some .composite
  | "action" => some .action
  | _ => none

@[simp]
theorem ofName?_label (kind : Kind) : ofName? kind.label = some kind := by
  cases kind <;> rfl

/-- Reads a kind from its name, or from an object that holds nothing but `null` under the name. -/
def ofJson? : Json → Option Kind
  | .text name => ofName? name
  | .object [(name, .null)] => ofName? name
  | _ => none

end Kind

end DeepLink
