import DeepLink.Text.CodePoints

/-! # IPv6 addresses

Eight groups of up to four hexadecimal digits, separated by colons. One doubled colon stands for a
gap of zero groups, and the last two groups may be written as four decimal octets. -/

namespace DeepLink.Url.Ipv6

open DeepLink.Text

/-- Whether a character is a hexadecimal digit. -/
def isHexDigit (c : Char) : Bool :=
  (hexDigit? c).isSome

/-- Whether a text is a decimal octet without a leading zero. -/
def isOctet (text : List Char) : Bool :=
  !text.isEmpty && text.all Char.isDigit && text.length ≤ 3 &&
    (text.length = 1 || text.head? ≠ some '0') &&
    text.foldl (fun value c => value * 10 + (c.toNat - 48)) 0 ≤ 255

/-- Whether a text is four decimal octets separated by dots. -/
def isDottedQuad (text : List Char) : Bool :=
  let parts := text.splitOn '.'
  parts.length = 4 && parts.all isOctet

/-- Whether a text completes an address of which `groups` groups, or a gap, have been read. -/
def completes (groups : Nat) (gap : Bool) (text : List Char) : Bool :=
  match text with
  | [] => gap || groups = 8
  | ':' :: rest => groups < 8 && !gap && completes (groups + 1) true rest
  | c :: tail =>
      let digits := ((c :: tail).take 4).takeWhile isHexDigit
      groups < 8 &&
        match h : (c :: tail).drop digits.length with
        | [] => gap || groups = 7
        | '.' :: _ =>
            !digits.isEmpty && groups ≤ 6 && isDottedQuad (c :: tail) && (gap || groups = 6)
        | ':' :: rest => !rest.isEmpty && completes (groups + 1) gap rest
        | _ => false
  termination_by text.length
  decreasing_by
    · simp
    · have hle := congrArg List.length h
      simp only [List.length_drop, List.length_cons] at hle ⊢
      omega

/-- Whether a text between brackets is an IPv6 address. -/
def isAddress : List Char → Bool
  | ':' :: ':' :: rest => completes 1 true rest
  | ':' :: _ => false
  | text => 2 ≤ text.length && completes 0 false text

end DeepLink.Url.Ipv6
