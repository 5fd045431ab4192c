import DeepLink.Idn.Table.Mapping
import DeepLink.Text.CodePoints

/-! # The compatibility mapping of domain names

Before a domain name is compared or encoded, each of its characters is kept, dropped, replaced, or
refused. -/

namespace DeepLink.Idn

open DeepLink.Text

/-- What becomes of a character in a domain name. -/
inductive Fate where
  | kept
  | dropped
  | replaced (substitute : List Char)
  | refused
  deriving DecidableEq

/-- Reads rows `gap, further members, length, replacement` from the code point `start` on. -/
def replacementsFrom (start : Nat) (numbers : List Nat) : List (Run (List Char)) :=
  match numbers with
  | gap :: more :: count :: rest =>
      ⟨start + gap, start + gap + more, (rest.take count).map Char.ofNat⟩ ::
        replacementsFrom (start + gap + more + 1) (rest.drop count)
  | _ => []
  termination_by numbers.length
  decreasing_by simp; omega

/-- The characters that no domain name may hold. -/
def refusedChars : List (Run Unit) := runsFrom 0 (hexNumbers Table.refusedRuns)

/-- The characters that leave no trace. -/
def droppedChars : List (Run Unit) := runsFrom 0 (hexNumbers Table.droppedRuns)

/-- The characters that are replaced, with their replacements. -/
def replacedChars : List (Run (List Char)) := replacementsFrom 0 (hexNumbers Table.mappedRows)

/-- The fate of a character. Of the ASCII characters only capital letters change. -/
def fate (c : Char) : Fate :=
  if c.toNat < 0x80 then if c.isUpper then .replaced [c.toLower] else .kept
  else if member refusedChars c then .refused
  else if member droppedChars c then .dropped
  else match lookup replacedChars c with
    | some substitute => .replaced substitute
    | none => .kept

/-- The mapped name; `none` when it holds a refused character. -/
def mapChars? (name : List Char) : Option (List Char) :=
  (name.mapM fun c =>
    match fate c with
    | .kept => some [c]
    | .dropped => some []
    | .replaced substitute => some substitute
    | .refused => none).map List.flatten

end DeepLink.Idn
