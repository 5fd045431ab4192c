/-! # Punycode

A label of ASCII characters can stand for any label: the characters before its last hyphen are
taken as they are, and the digits after it say which other characters to insert, and where. -/

namespace DeepLink.Idn.Punycode

/-- The value of a digit: the letters come before the decimal digits. -/
def digit? (c : Char) : Option Nat :=
  if 'a' ≤ c ∧ c ≤ 'z' then some (c.toNat - 97)
  else if 'A' ≤ c ∧ c ≤ 'Z' then some (c.toNat - 65)
  else if '0' ≤ c ∧ c ≤ '9' then some (c.toNat - 22)
  else none

/-- Scales a difference down for the next bias. -/
def adaptFrom (k delta : Nat) : Nat :=
  if 455 < delta then adaptFrom (k + 36) (delta / 35) else k + 36 * delta / (delta + 38)
  termination_by delta
  decreasing_by omega

/-- The bias after inserting a character. -/
def adapt (delta size : Nat) (first : Bool) : Nat :=
  let scaled := if first then delta / 700 else delta / 2
  adaptFrom 0 (scaled + scaled / size)

/-- How far a label has been read: the text so far, the last inserted code point, the place, the
bias, and, of the number being read, the place it started from, the weight of its next digit and
the threshold's base. -/
structure Progress where
  text : List Char
  code : Nat := 128
  place : Nat := 0
  bias : Nat := 72
  origin : Nat := 0
  weight : Nat := 1
  base : Nat := 36

/-- Numbers stay below this bound. -/
def limit : Nat := Nat.pow 2 32

/-- Reads one digit. A digit below its threshold ends a number and inserts a character. -/
def Progress.step? (p : Progress) (d : Nat) : Option Progress :=
  let place := p.place + d * p.weight
  if limit ≤ place then none
  else
    let threshold :=
      if p.base ≤ p.bias then 1 else if p.bias + 26 ≤ p.base then 26 else p.base - p.bias
    if d < threshold then
      let size := p.text.length + 1
      let code := p.code + place / size
      let spot := place % size
      if code.isValidChar then
        some {
          text := p.text.take spot ++ Char.ofNat code :: p.text.drop spot
          code := code
          place := spot + 1
          bias := adapt (place - p.origin) size (p.origin = 0)
          origin := spot + 1 }
      else none
    else
      let weight := p.weight * (36 - threshold)
      if limit ≤ weight then none
      else some { p with place := place, weight := weight, base := p.base + 36 }

/-- Splits a label at its last hyphen. A hyphen in front is no separator. -/
def split (label : List Char) : List Char × List Char :=
  let digits := (label.reverse.takeWhile (· != '-')).reverse
  let before := label.take (label.length - digits.length)
  if before.length ≤ 1 then ([], label) else (before.dropLast, digits)

/-- The label that an encoded label, without its prefix, stands for. The characters that are taken
as they are must be ASCII. -/
def decode? (label : List Char) : Option (List Char) := do
  let (plain, digits) := split label
  if plain.any (0x80 ≤ ·.toNat) then none
  else
    let numbers ← digits.mapM digit?
    let done ← numbers.foldlM Progress.step? { text := plain }
    if done.base = 36 then some done.text else none

end DeepLink.Idn.Punycode
