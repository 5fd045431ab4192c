import DeepLink.Idn.Table.Composition
import DeepLink.Text.CodePoints

/-! # The composed normal form

Canonical decomposition, canonical order of combining marks, and canonical composition. Hangul
syllables decompose and compose by arithmetic. -/

namespace DeepLink.Idn

open DeepLink.Text

/-- Reads rows `step, length, parts`, the steps counted from the code point `at_`. -/
def decompositionsFrom (at_ : Nat) (numbers : List Nat) : List (Run (List Char)) :=
  match numbers with
  | step :: count :: rest =>
      ⟨at_ + step, at_ + step, (rest.take count).map Char.ofNat⟩ ::
        decompositionsFrom (at_ + step) (rest.drop count)
  | _ => []
  termination_by numbers.length
  decreasing_by simp; omega

/-- Reads rows `first, second, composite`. -/
def compositionsOf : List Nat → List ((Char × Char) × Char)
  | first :: second :: composite :: rest =>
      ((Char.ofNat first, Char.ofNat second), Char.ofNat composite) :: compositionsOf rest
  | _ => []

/-- The full canonical decompositions. -/
def decompositions : List (Run (List Char)) :=
  decompositionsFrom 0 (hexNumbers Table.decompositionRows)

/-- The pairs that compose. -/
def compositions : List ((Char × Char) × Char) :=
  compositionsOf (hexNumbers Table.compositionRows)

/-- The combining classes other than 0. -/
def combiningClasses : List (Run Nat) :=
  valuedRunsFrom 0 (hexNumbers Table.combiningRuns)

/-- The combining class of a character. -/
def combiningClass (c : Char) : Nat :=
  if c.toNat < 0x300 then 0 else (lookup combiningClasses c).getD 0

/-- The canonical decomposition of a character. -/
def decomposeChar (c : Char) : List Char :=
  let n := c.toNat
  if n < 0xC0 then [c]
  else if 0xAC00 ≤ n ∧ n ≤ 0xD7A3 then
    let s := n - 0xAC00
    let tail := s % 28
    [Char.ofNat (0x1100 + s / 588), Char.ofNat (0x1161 + s % 588 / 28)] ++
      if tail = 0 then [] else [Char.ofNat (0x11A7 + tail)]
  else (lookup decompositions c).getD [c]

/-- Puts a character before ordered ones, past the marks of a smaller class. -/
def insertMark (c : Char) : List Char → List Char
  | [] => [c]
  | d :: rest =>
      if 0 < combiningClass d ∧ combiningClass d < combiningClass c then d :: insertMark c rest
      else c :: d :: rest

/-- The decomposed form with its marks in canonical order. -/
def decompose (text : List Char) : List Char :=
  (text.flatMap decomposeChar).foldr insertMark []

/-- The composite of two characters. -/
def composePair? (a b : Char) : Option Char :=
  let m := a.toNat
  let n := b.toNat
  if 0x1100 ≤ m ∧ m ≤ 0x1112 ∧ 0x1161 ≤ n ∧ n ≤ 0x1175 then
    some (Char.ofNat (0xAC00 + ((m - 0x1100) * 21 + (n - 0x1161)) * 28))
  else if 0xAC00 ≤ m ∧ m ≤ 0xD7A3 ∧ (m - 0xAC00) % 28 = 0 ∧ 0x11A8 ≤ n ∧ n ≤ 0x11C2 then
    some (Char.ofNat (m + (n - 0x11A7)))
  else compositions.lookup (a, b)

/-- Composes what follows a starter. `skipped` holds, last first, the marks that did not compose;
a mark behind one of its own or a higher class is out of reach of the starter. -/
def composeAfter (starter : Char) (skipped : List Char) : List Char → List Char
  | [] => starter :: skipped.reverse
  | c :: rest =>
      let reachable := match skipped with
        | [] => true
        | d :: _ => combiningClass d < combiningClass c
      match (if reachable then composePair? starter c else none) with
      | some composite => composeAfter composite skipped rest
      | none =>
          if combiningClass c = 0 then starter :: skipped.reverse ++ composeAfter c [] rest
          else composeAfter starter (c :: skipped) rest

/-- Composes an ordered decomposed text. -/
def compose : List Char → List Char
  | [] => []
  | c :: rest => if combiningClass c = 0 then composeAfter c [] rest else c :: compose rest

/-- The composed normal form. An ASCII text is composed already. -/
def composed (text : List Char) : List Char :=
  if text.all (·.toNat < 0x80) then text else compose (decompose text)

end DeepLink.Idn
