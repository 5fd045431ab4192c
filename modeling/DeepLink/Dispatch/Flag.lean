import DeepLink.Text.Quoted

/-! # Dispatch flags

A caller may ask for special treatment of a dispatch. A set of flags is listed in one fixed order,
however it was given, and holds no flag twice. -/

namespace DeepLink

open DeepLink.Text

/-- A wish of the caller. Only the last one is acted on here; the others are for the presenter. -/
inductive Flag where
  | addToHistory
  | popCurrent
  | replaceTarget
  | startForResult
  | overrideSameRoute
  deriving DecidableEq, Repr

namespace Flag

/-- Every flag, in the order in which sets list them. -/
def all : List Flag :=
  [.addToHistory, .popCurrent, .replaceTarget, .startForResult, .overrideSameRoute]

theorem mem_all (flag : Flag) : flag ∈ all := by
  cases flag <;> decide

/-- The name of a flag. -/
def label : Flag → String
  | .addToHistory => "add-to-history"
  | .popCurrent => "pop-current"
  | .replaceTarget => "replace-target"
  | .startForResult => "start-for-result"
  | .overrideSameRoute => "override-same-route"

/-- The flag of a name. -/
def ofName? (name : String) : Option Flag :=
  all.find? (·.label = name)

@[simp]
theorem ofName?_label (flag : Flag) : ofName? flag.label = some flag := by
  cases flag <;> rfl

/-- What is said about a name that no flag has. -/
def unknownMessage (name : String) : String :=
  "unknown dispatch flag " ++ quoted name

end Flag

/-- A set of flags. -/
structure Flags where
  contains : Flag → Bool

namespace Flags

/-- The empty set. -/
def empty : Flags := ⟨fun _ => false⟩

/-- The set of the flags in a list. -/
def ofList (flags : List Flag) : Flags := ⟨flags.contains⟩

/-- The members of a set, in the fixed order. -/
def toList (flags : Flags) : List Flag := Flag.all.filter flags.contains

/-- The members of a set between brackets. -/
def render (flags : Flags) : String :=
  "[" ++ ", ".intercalate (flags.toList.map Flag.label) ++ "]"

@[simp]
theorem mem_toList (flags : Flags) (flag : Flag) : flag ∈ flags.toList ↔ flags.contains flag := by
  simp [toList, Flag.mem_all]

/-- The names of flags as a set; the first name that no flag has is the error. -/
def ofNames (names : List String) : Except String Flags :=
  (names.mapM fun name =>
    match Flag.ofName? name with
    | some flag => Except.ok flag
    | none => .error name).map ofList

end Flags

end DeepLink
