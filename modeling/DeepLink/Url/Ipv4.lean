import DeepLink.Text.CodePoints

/-! # IPv4 addresses in host names

A host whose last label is a number is an IPv4 address: up to four numbers, of which the last fills
the octets that the others leave. Numbers may be decimal, octal (`0…`) or hexadecimal (`0x…`). -/

namespace DeepLink.Url.Ipv4

open DeepLink.Text

/-- The value of digits in a base; `none` when some character is no digit of it. -/
def digitsValue? (base : Nat) (digits : List Char) : Option Nat :=
  digits.foldlM (fun value c => do
    let d ← hexDigit? c
    if d < base then some (value * base + d) else none) 0

/-- The number that a label writes. A prefix without digits is zero. -/
def number? : List Char → Option Nat
  | [] => none
  | '0' :: 'x' :: digits => digitsValue? 16 digits
  | '0' :: 'X' :: digits => digitsValue? 16 digits
  | '0' :: d :: digits => digitsValue? 8 (d :: digits)
  | digits => digitsValue? 10 digits

/-- The labels of a host, without the empty one after a final dot. -/
def labels (host : List Char) : List (List Char) :=
  let parts := host.splitOn '.'
  if parts.getLast? = some [] then parts.dropLast else parts

/-- Whether the last label of a host is a number, so that the host has to be an IPv4 address. -/
def endsInNumber (host : List Char) : Bool :=
  match (labels host).getLast? with
  | none => false
  | some last => (!last.isEmpty && last.all Char.isDigit) || (number? last).isSome

/-- Whether numbers make up an address: one octet each, and the last fills the rest of the four. -/
def fits (numbers : List Nat) : Bool :=
  match numbers.reverse with
  | [] => false
  | last :: before =>
      before.length < 4 && before.all (· < 256) && last < Nat.pow 256 (4 - before.length)

/-- Whether a host that ends in a number is an IPv4 address. -/
def isAddress (host : List Char) : Bool :=
  match (labels host).mapM number? with
  | none => false
  | some numbers => fits numbers

end DeepLink.Url.Ipv4
