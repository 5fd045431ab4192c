import DeepLink.Dictionary
import DeepLink.Pattern
import DeepLink.WildcardValue

/-! # Laying a route along a pattern

A pattern matches an address segment by segment. The address may have one segment more, a slug,
which takes no part. The segments that do take part give the wildcards their values. -/

namespace DeepLink.Pattern

/-- The segments of an address that stand against the slots of a pattern, the trailing slug left
out; `none` when the lengths do not fit. -/
def facing? (pattern : Pattern) (segments : List String) : Option (List String) :=
  let expected := pattern.slots.length
  if segments.length = expected then some segments
  else if segments.length = expected + 1 ∧ segments.getLast?.any Segment.isSlug then
    some (segments.take expected)
  else none

/-- The segments that a match takes; `none` when the pattern does not match. Scheme and host are
compared as they are written. -/
def align (pattern : Pattern) (address : Address) : Option (List String) :=
  if pattern.scheme = address.scheme ∧ pattern.host = address.host then
    match pattern.facing? address.segments with
    | none => none
    | some segments =>
        if (pattern.slots.zip segments).all fun (slot, segment) => slot.accepts segment then
          some segments
        else none
  else none

/-- Whether a pattern matches an address. -/
def isMatch (pattern : Pattern) (address : Address) : Bool :=
  (pattern.align address).isSome

/-- The value of a wildcard of a type. -/
def valueOf? (type : WildcardType) (segment : String) : Option WildcardValue :=
  match type with
  | .integer => (Segment.integer? segment).map .integer
  | .word => some (.text segment)

/-- The values that segments give to the wildcards of slots, added to those known already. -/
def extractFrom (known : Dictionary WildcardValue) :
    List (Slot × String) → Option (Dictionary WildcardValue)
  | [] => some known
  | (.literal _, _) :: rest => extractFrom known rest
  | (.wildcard name type, segment) :: rest =>
      match valueOf? type segment with
      | none => none
      | some value => extractFrom (known.insert name value) rest

/-- The values of the wildcards of a pattern. Segments beyond the slots, and slots beyond the
segments, are passed over; `none` when a segment is no integer where one is asked for. -/
def extract (pattern : Pattern) (segments : List String) : Option (Dictionary WildcardValue) :=
  extractFrom .empty (pattern.slots.zip segments)

end DeepLink.Pattern
