import DeepLink.Idn.Direction
import DeepLink.Idn.Joining
import DeepLink.Idn.Mapping
import DeepLink.Idn.Punycode

/-! # Domain names

A domain name is mapped, composed and divided into labels; encoded labels are decoded; and every
label must be one that could have been encoded. -/

namespace DeepLink.Idn

/-- The ASCII characters that no host may hold: controls, the space, and those with a meaning of
their own in addresses. -/
def isForbidden (c : Char) : Bool :=
  c.toNat ≤ 0x20 || c.toNat = 0x7F || "%#/:<>?@[\\]^|".toList.contains c

/-- Longer labels are not encoded. -/
def longestLabel : Nat := 1000

/-- Longer encoded labels are not decoded. -/
def longestEncodedLabel : Nat := 2000

/-- Whether a label is one that may stand in a name. -/
def isLabel (label : List Char) : Bool :=
  !label.any isForbidden && !startsWithMark label && joinersFit [] label &&
    (label.all (·.toNat < 0x80) || label.length ≤ longestLabel)

/-- The label that follows the prefix of an encoded one. What it stands for must need the encoding,
be composed, and hold only characters that the mapping keeps. -/
def decodeLabel? (encoded : List Char) : Option (List Char) := do
  if longestEncodedLabel < encoded.length then none
  else
    let label ← Punycode.decode? encoded
    if label.any (0x80 ≤ ·.toNat) && label.all (fate · = .kept) && composed label = label
    then some label else none

/-- A label of a mapped name, decoded and checked. -/
def label? (text : List Char) : Option (List Char) := do
  let label ← match text with
    | 'x' :: 'n' :: '-' :: '-' :: encoded => decodeLabel? encoded
    | plain => some plain
  if isLabel label then some label else none

/-- The labels of a domain name; `none` when it is none. -/
def labels? (name : List Char) : Option (List (List Char)) := do
  let mapped ← mapChars? name
  let labels ← ((composed mapped).splitOn '.').mapM label?
  if labels.any holdsRightToLeft && !labels.all keepsDirection then none else some labels

end DeepLink.Idn
