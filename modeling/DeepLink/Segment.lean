import DeepLink.Text.Quoted

/-! # Segment classes

A pattern's wildcard accepts one class of segments: integers below 2 ^ 64, or words of letters,
digits, underscores, dots and hyphens. A slug, words joined by hyphens, may end a route for the
reader's sake. -/

namespace DeepLink.Segment

/-- Whether a character is an ASCII letter or digit, or an underscore. -/
def isWordChar (c : Char) : Bool :=
  c.isAlphanum || c = '_'

/-- Integers stay below this bound. -/
def integerBound : Nat := Nat.pow 2 64

/-- The product of two 64-bit numbers, unless it is too large for one. -/
def checkedMul (a b : UInt64) : Option UInt64 :=
  if a.toNat * b.toNat < integerBound then some (a * b) else none

/-- The sum of two 64-bit numbers, unless it is too large for one. -/
def checkedAdd (a b : UInt64) : Option UInt64 :=
  if a.toNat + b.toNat < integerBound then some (a + b) else none

/-- What a further digit makes of a 64-bit number; `none` for any other character, and when the
result is too large for one. -/
def pushDigit? (value : UInt64) (c : Char) : Option UInt64 :=
  if c.isDigit then
    (checkedMul value 10).bind fun tens => checkedAdd tens (UInt64.ofNat (c.toNat - 48))
  else none

/-- The integer that a text writes in digits, read from the left, when it stays below the bound. -/
def unsigned? (digits : List Char) : Option Nat :=
  if digits.isEmpty then none else (digits.foldlM pushDigit? 0).map UInt64.toNat

/-- The integer that a text writes, a plus sign in front allowed. -/
def integer? (text : String) : Option Nat :=
  match text.toList with
  | '+' :: digits => unsigned? digits
  | digits => unsigned? digits

/-- Whether a segment is an integer: digits alone, whose number stays below the bound. -/
def isInteger (segment : String) : Bool :=
  !segment.isEmpty && segment.toList.all Char.isDigit && (integer? segment).isSome

/-- Whether a segment is a word. -/
def isWord (segment : String) : Bool :=
  !segment.isEmpty && segment.toList.all fun c => isWordChar c || c = '.' || c = '-'

/-- Whether a segment is a slug: two or more groups of ASCII letters and digits, joined by single
hyphens. -/
def isSlug (segment : String) : Bool :=
  let groups := segment.toList.splitOn '-'
  2 ≤ groups.length && groups.all fun group => !group.isEmpty && group.all Char.isAlphanum

end DeepLink.Segment
