import DeepLink.Json.Scalar
import DeepLink.Segment

/-! # Values of wildcards

A wildcard is bound to an integer or to a text. In JSON the value is a plain number or a string. -/

namespace DeepLink

/-- What a wildcard is bound to. -/
inductive WildcardValue where
  | integer (n : Nat)
  | text (s : String)
  deriving DecidableEq, Repr

namespace WildcardValue

/-- The integer of an integer value. -/
def integer? : WildcardValue → Option Nat
  | .integer n => some n
  | .text _ => none

/-- The text of a text value. -/
def text? : WildcardValue → Option String
  | .integer _ => none
  | .text s => some s

/-- The value as it is shown in messages. -/
def render : WildcardValue → String
  | .integer n => toString n
  | .text s => s

/-- The value in JSON. -/
def toJson : WildcardValue → Json
  | .integer n => .ofNat n
  | .text s => .text s

/-- Reads a value from JSON text. An integer is written in plain digits and below the bound. -/
def ofJsonText? (text : String) : Option WildcardValue :=
  match Json.scalar? text with
  | some (.text s) => some (.text s)
  | some (.number digits) => (Segment.unsigned? digits.toList).map .integer
  | _ => none

end WildcardValue

end DeepLink
