/-! # Runs of code points

Tables of character properties are kept as text: hexadecimal numbers separated by blanks. This
module reads such a text into runs of code points and looks characters up in them. -/

namespace DeepLink.Text

/-- The value of a hexadecimal digit, in either case. -/
def hexDigit? (c : Char) : Option Nat :=
  if '0' ≤ c ∧ c ≤ '9' then some (c.toNat - 48)
  else if 'a' ≤ c ∧ c ≤ 'f' then some (c.toNat - 87)
  else if 'A' ≤ c ∧ c ≤ 'F' then some (c.toNat - 55)
  else none

/-- The hexadecimal numbers of a text; every other character separates. -/
def hexNumbers (text : String) : List Nat :=
  let step (state : Option Nat × List Nat) (c : Char) : Option Nat × List Nat :=
    match hexDigit? c, state with
    | some d, (current, done) => (some (current.getD 0 * 16 + d), done)
    | none, (some n, done) => (none, n :: done)
    | none, (none, done) => (none, done)
  let (current, done) := text.toList.foldl step (none, [])
  (current.toList ++ done).reverse

/-- A run of consecutive code points that share a value. -/
structure Run (α : Type) where
  first : Nat
  last : Nat
  value : α

/-- Reads pairs `gap, further members` from the code point `start` on. -/
def runsFrom : Nat → List Nat → List (Run Unit)
  | start, gap :: more :: rest =>
      ⟨start + gap, start + gap + more, ()⟩ :: runsFrom (start + gap + more + 1) rest
  | _, _ => []

/-- Reads triples `gap, further members, value` from the code point `start` on. -/
def valuedRunsFrom : Nat → List Nat → List (Run Nat)
  | start, gap :: more :: value :: rest =>
      ⟨start + gap, start + gap + more, value⟩ :: valuedRunsFrom (start + gap + more + 1) rest
  | _, _ => []

/-- The value of the run that holds a character. -/
def lookup {α : Type} (runs : List (Run α)) (c : Char) : Option α :=
  (runs.find? fun run => run.first ≤ c.toNat && c.toNat ≤ run.last).map (·.value)

/-- Whether some run holds a character. -/
def member (runs : List (Run Unit)) (c : Char) : Bool :=
  (lookup runs c).isSome

end DeepLink.Text
