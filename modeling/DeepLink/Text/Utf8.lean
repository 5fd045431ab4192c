/-! # Characters and octets

UTF-8 in both directions. Reading goes through one scan that reports each maximal broken part, so
the lenient reader and the strict reader agree on every well-formed sequence. -/

namespace DeepLink.Text.Utf8

/-- The octets of a character. -/
def encodeChar (c : Char) : List UInt8 :=
  let n := c.toNat
  if n < 0x80 then [UInt8.ofNat n]
  else if n < 0x800 then [UInt8.ofNat (0xC0 + n / 64), UInt8.ofNat (0x80 + n % 64)]
  else if n < 0x10000 then
    [UInt8.ofNat (0xE0 + n / 4096), UInt8.ofNat (0x80 + n / 64 % 64), UInt8.ofNat (0x80 + n % 64)]
  else
    [UInt8.ofNat (0xF0 + n / 262144), UInt8.ofNat (0x80 + n / 4096 % 64),
      UInt8.ofNat (0x80 + n / 64 % 64), UInt8.ofNat (0x80 + n % 64)]

/-- The octets of a text. -/
def encode (text : List Char) : List UInt8 :=
  text.flatMap encodeChar

/-- A character that has begun: the octets still owed, the bounds of the next one, and the value of
those read. -/
structure Pending where
  owed : Nat
  low : Nat
  high : Nat
  value : Nat

/-- What an octet means between characters. -/
inductive Lead where
  | single (c : Char)
  | begin (p : Pending)
  | broken

/-- Reads an octet between characters. The bounds keep out overlong forms, surrogates and values
above the last code point. -/
def lead (octet : UInt8) : Lead :=
  let b := octet.toNat
  if b < 0x80 then .single (Char.ofNat b)
  else if b < 0xC2 then .broken
  else if b < 0xE0 then .begin ⟨1, 0x80, 0xBF, b - 0xC0⟩
  else if b = 0xE0 then .begin ⟨2, 0xA0, 0xBF, 0⟩
  else if b = 0xED then .begin ⟨2, 0x80, 0x9F, 13⟩
  else if b < 0xF0 then .begin ⟨2, 0x80, 0xBF, b - 0xE0⟩
  else if b = 0xF0 then .begin ⟨3, 0x90, 0xBF, 0⟩
  else if b < 0xF4 then .begin ⟨3, 0x80, 0xBF, b - 0xF0⟩
  else if b = 0xF4 then .begin ⟨3, 0x80, 0x8F, 4⟩
  else .broken

/-- Reads octets, `none` standing for each maximal broken part. An octet that cannot continue a
character is read again as the beginning of the next one. -/
def scan : Option Pending → List UInt8 → List (Option Char)
  | none, [] => []
  | some _, [] => [none]
  | none, octet :: rest =>
      match lead octet with
      | .single c => some c :: scan none rest
      | .begin p => scan (some p) rest
      | .broken => none :: scan none rest
  | some p, octet :: rest =>
      if p.low ≤ octet.toNat ∧ octet.toNat ≤ p.high then
        let value := p.value * 64 + (octet.toNat - 0x80)
        if p.owed ≤ 1 then some (Char.ofNat value) :: scan none rest
        else scan (some ⟨p.owed - 1, 0x80, 0xBF, value⟩) rest
      else
        none :: match lead octet with
          | .single c => some c :: scan none rest
          | .begin q => scan (some q) rest
          | .broken => none :: scan none rest

/-- The text of octets; each maximal broken part is written as U+FFFD. -/
def decodeLossy (octets : List UInt8) : List Char :=
  (scan none octets).map fun c => c.getD '\uFFFD'

/-- The text of octets that are well formed throughout. -/
def decode? (octets : List UInt8) : Option (List Char) :=
  (scan none octets).mapM id

end DeepLink.Text.Utf8
