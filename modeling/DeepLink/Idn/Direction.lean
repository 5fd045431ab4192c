import DeepLink.Idn.Table.Direction
import DeepLink.Text.CodePoints

/-! # Labels that are written from right to left

When one label of a name holds a right-to-left character, every label of it must keep to one
direction, so that the name is displayed in the order in which it is read. -/

namespace DeepLink.Idn

open DeepLink.Text

/-- The directional classes that the rule tells apart. -/
inductive Direction where
  | left
  | right
  | arabicLetter
  | arabicNumber
  | europeanNumber
  | neutral
  | mark
  | other
  deriving DecidableEq

/-- The class that a table entry names. -/
def Direction.ofNumber : Nat → Direction
  | 0 => .left
  | 1 => .right
  | 2 => .arabicLetter
  | 3 => .arabicNumber
  | 4 => .europeanNumber
  | 10 => .mark
  | 11 => .other
  | _ => .neutral

/-- The runs of characters that are not left-to-right. -/
def directions : List (Run Nat) := valuedRunsFrom 0 (hexNumbers Table.directionRuns)

/-- The directional class of a character. -/
def direction (c : Char) : Direction :=
  .ofNumber ((lookup directions c).getD 0)

/-- The classes that make a name a right-to-left one. -/
def rightToLeftClasses : List Direction := [.right, .arabicLetter, .arabicNumber]

/-- Whether a label holds a character that makes its name a right-to-left one. -/
def holdsRightToLeft (label : List Char) : Bool :=
  label.any fun c => rightToLeftClasses.contains (direction c)

/-- The rule for a label that starts from the left: which classes it may hold, and which may end
it, marks apart. -/
def runsLeftToRight (classes : List Direction) : Bool :=
  classes.all [.left, .europeanNumber, .neutral, .mark].contains &&
    (classes.reverse.dropWhile (· = .mark)).head?.any [.left, .europeanNumber].contains

/-- The rule for a label that starts from the right. It may not mix the two kinds of numbers. -/
def runsRightToLeft (classes : List Direction) : Bool :=
  !classes.any [.left, .other].contains &&
    (classes.reverse.dropWhile (· = .mark)).head?.any
      [.right, .arabicLetter, .europeanNumber, .arabicNumber].contains &&
    !(classes.contains .europeanNumber && classes.contains .arabicNumber)

/-- Whether a label keeps to the direction of its first character, which has to be a letter. -/
def keepsDirection (label : List Char) : Bool :=
  let classes := label.map direction
  match classes.head? with
  | none => true
  | some .left => runsLeftToRight classes
  | some .right => runsRightToLeft classes
  | some .arabicLetter => runsRightToLeft classes
  | some _ => false

end DeepLink.Idn
