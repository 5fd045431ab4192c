import DeepLink.Idn.Composed
import DeepLink.Idn.Table.Joining
import DeepLink.Text.CodePoints

/-! # Marks and joiners in labels

A label may not start with a combining mark, and the two invisible joiners may stand only where
they change how their neighbours are written. -/

namespace DeepLink.Idn

open DeepLink.Text

/-- The combining marks. -/
def marks : List (Run Unit) := runsFrom 0 (hexNumbers Table.markRuns)

/-- The characters that join their neighbours. -/
def joiningTypes : List (Run Nat) := valuedRunsFrom 0 (hexNumbers Table.joiningRuns)

/-- Whether a label starts with a combining mark. -/
def startsWithMark (label : List Char) : Bool :=
  label.head?.any fun c => 0x300 ≤ c.toNat && member marks c

/-- Whether a character is transparent to joining. -/
def isTransparent (c : Char) : Bool := lookup joiningTypes c = some 4

/-- Whether a character joins the one after it. -/
def joinsNext (c : Char) : Bool := lookup joiningTypes c = some 1 || lookup joiningTypes c = some 2

/-- Whether a character joins the one before it. -/
def joinsPrevious (c : Char) : Bool :=
  lookup joiningTypes c = some 1 || lookup joiningTypes c = some 3

/-- Whether joiners stand where they may, `before` being the characters read, last first. Both may
follow a virama; the one that separates may also stand between characters that would join. -/
def joinersFit (before : List Char) : List Char → Bool
  | [] => true
  | c :: rest =>
      let afterVirama := before.head?.any (combiningClass · = 9)
      let separates :=
        (before.dropWhile isTransparent).head?.any joinsNext &&
          (rest.dropWhile isTransparent).head?.any joinsPrevious
      let fits :=
        if c = '\u200C' then afterVirama || separates
        else if c = '\u200D' then afterVirama
        else true
      fits && joinersFit (c :: before) rest

end DeepLink.Idn
