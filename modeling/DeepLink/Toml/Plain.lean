import DeepLink.Text.CodePoints
import DeepLink.Toml.Node
import DeepLink.Toml.Reader

/-! # Values without quotes

Numbers, truth values, dates and times. Such a value is taken off the text as one word, which is
then recognised as a whole. -/

namespace DeepLink.Toml.Plain

open DeepLink.Text DeepLink.Toml.Reader

/-- Whether a character may stand in such a word. -/
def isWordChar (c : Char) : Bool :=
  c.isAlphanum || c = '+' || c = '-' || c = '_' || c = '.' || c = ':'

/-- The digits of a number whose digits may be grouped by single underscores. -/
def ungrouped? (isDigit : Char → Bool) : List Char → Option (List Char)
  | [] => none
  | [c] => if isDigit c then some [c] else none
  | c :: '_' :: rest => if isDigit c then (ungrouped? isDigit rest).map (c :: ·) else none
  | c :: rest => if isDigit c then (ungrouped? isDigit rest).map (c :: ·) else none

/-- The value of digits in a base. -/
def digitsValue (base : Nat) (digits : List Char) : Nat :=
  digits.foldl (fun value c => value * base + (hexDigit? c).getD 0) 0

/-- A sign in front, and the rest. -/
def sign : List Char → Bool × List Char
  | '-' :: rest => (true, rest)
  | '+' :: rest => (false, rest)
  | text => (false, text)

/-- The digits of a decimal number without a sign; only zero itself starts with a zero. -/
def decimal? (text : List Char) : Option (List Char) :=
  match ungrouped? Char.isDigit text with
  | some ('0' :: _ :: _) => none
  | digits => digits

/-- The digits of a base, when it is not ten. -/
def prefixedDigits? : List Char → Option (Nat × List Char)
  | '0' :: 'x' :: rest => (ungrouped? (hexDigit? · |>.isSome) rest).map ((16, ·))
  | '0' :: 'o' :: rest => (ungrouped? (fun c => '0' ≤ c && c ≤ '7') rest).map ((8, ·))
  | '0' :: 'b' :: rest => (ungrouped? (fun c => c = '0' || c = '1') rest).map ((2, ·))
  | _ => none

/-- Integers have 64 bits. -/
def bounded? (n : Int) : Option Int :=
  if -Int.pow 2 63 ≤ n ∧ n < Int.pow 2 63 then some n else none

/-- Recognises an integer. -/
def integer? (word : List Char) : Option Int :=
  match prefixedDigits? word with
  | some (base, digits) => bounded? (digitsValue base digits)
  | none =>
      let (negative, digits) := sign word
      (decimal? digits).bind fun digits =>
        let n : Int := digitsValue 10 digits
        bounded? (if negative then -n else n)

/-- Whether `digits × 10 ^ exponent` is beyond the largest double-precision number, rounded to
nearest. -/
def overflows (digits : List Char) (exponent : Int) : Bool :=
  let significant := digits.dropWhile (· = '0')
  let magnitude : Int := significant.length + exponent
  if significant.isEmpty || magnitude < 300 then false
  else if 320 < magnitude then true
  else
    let bound := Nat.pow 2 1024 - Nat.pow 2 970
    let n := digitsValue 10 significant
    if 0 ≤ exponent then bound ≤ n * Nat.pow 10 exponent.toNat
    else bound * Nat.pow 10 (-exponent).toNat ≤ n

/-- An exponent behind its letter. -/
def exponent? (text : List Char) : Option Int :=
  let (negative, digits) := sign text
  (ungrouped? Char.isDigit digits).map fun digits =>
    let n : Int := digitsValue 10 digits
    if negative then -n else n

/-- Whether a word is a number with a fraction or an exponent. Only a positive number may be too
large for double precision. -/
def isFloat (word : List Char) : Bool :=
  let (negative, text) := sign word
  if text = "inf".toList || text = "nan".toList then true
  else
    let isExponentLetter := fun c => decide (c = 'e' ∨ c = 'E')
    let beforeExponent := text.takeWhile (!isExponentLetter ·)
    let exponent := match text.dropWhile (!isExponentLetter ·) with
      | [] => some none
      | _ :: rest => (exponent? rest).map some
    let whole := beforeExponent.takeWhile (· != '.')
    let fraction := match beforeExponent.dropWhile (· != '.') with
      | [] => some none
      | _ :: rest => (ungrouped? Char.isDigit rest).map some
    match decimal? whole, fraction, exponent with
    | some whole, some fraction, some exponent =>
        (fraction.isSome || exponent.isSome) &&
          (negative ||
            !overflows (whole ++ fraction.getD []) (exponent.getD 0 - (fraction.getD []).length))
    | _, _, _ => false

/-- The value of two digits. -/
def twoDigits? (a b : Char) : Option Nat :=
  if a.isDigit ∧ b.isDigit then some (digitsValue 10 [a, b]) else none

/-- The number of days in a month. -/
def daysIn (year month : Nat) : Nat :=
  if month = 2 then
    if year % 4 = 0 ∧ (year % 100 ≠ 0 ∨ year % 400 = 0) then 29 else 28
  else if month = 4 ∨ month = 6 ∨ month = 9 ∨ month = 11 then 30 else 31

/-- The text after a date `YYYY-MM-DD`. -/
def date? : List Char → Option (List Char)
  | y₁ :: y₂ :: y₃ :: y₄ :: '-' :: m₁ :: m₂ :: '-' :: d₁ :: d₂ :: rest => do
      let year := (← twoDigits? y₁ y₂) * 100 + (← twoDigits? y₃ y₄)
      let month ← twoDigits? m₁ m₂
      let day ← twoDigits? d₁ d₂
      if 1 ≤ month ∧ month ≤ 12 ∧ 1 ≤ day ∧ day ≤ daysIn year month then some rest else none
  | _ => none

/-- The text after a time `HH:MM:SS`, with or without a fraction. A minute may have a leap second. -/
def time? : List Char → Option (List Char)
  | h₁ :: h₂ :: ':' :: m₁ :: m₂ :: ':' :: s₁ :: s₂ :: rest => do
      let hour ← twoDigits? h₁ h₂
      let minute ← twoDigits? m₁ m₂
      let second ← twoDigits? s₁ s₂
      if hour ≤ 23 ∧ minute ≤ 59 ∧ second ≤ 60 then
        match rest with
        | '.' :: d :: more => if d.isDigit then some (more.dropWhile Char.isDigit) else none
        | _ => some rest
      else none
  | _ => none

/-- Whether a text is a distance from universal time. -/
def isOffset : List Char → Bool
  | ['Z'] | ['z'] => true
  | [s, h₁, h₂, ':', m₁, m₂] =>
      (s = '+' || s = '-') && (twoDigits? h₁ h₂).any (· ≤ 23) && (twoDigits? m₁ m₂).any (· ≤ 59)
  | _ => false

/-- Whether a text is a time, with or without its distance from universal time. -/
def isClock (text : List Char) : Bool :=
  (time? text).any fun rest => rest.isEmpty || isOffset rest

/-- Whether a word is a date, a time, or both. -/
def isMoment (word : List Char) : Bool :=
  match date? word with
  | some [] => true
  | some (t :: rest) => (t = 'T' || t = 't') && isClock rest
  | none => time? word = some []

/-- Recognises a word. -/
def scalar? (word : List Char) : Option Scalar :=
  if word = "true".toList then some (.boolean true)
  else if word = "false".toList then some (.boolean false)
  else if isMoment word then some (.moment (String.ofList word))
  else if isFloat word then some (.float (String.ofList word))
  else (integer? word).map .integer

/-- Reads a value without quotes. A blank may part a date from its time. -/
def any : Reader Scalar := fun input =>
  let word := input.takeWhile isWordChar
  let rest := input.dropWhile isWordChar
  match date? word, rest with
  | some [], ' ' :: more =>
      let clock := more.takeWhile isWordChar
      if isClock clock then
        some (.moment (String.ofList (word ++ ' ' :: clock)), more.dropWhile isWordChar)
      else some (.moment (String.ofList word), rest)
  | _, _ => (scalar? word).map fun value => (value, rest)

end DeepLink.Toml.Plain
