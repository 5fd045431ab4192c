/-! # Readers

A reader takes what it understands off the front of a text and returns the rest. -/

namespace DeepLink.Toml

/-- Reads a value off the front of a text. -/
abbrev Reader (α : Type) := List Char → Option (α × List Char)

namespace Reader

/-- What one turn of a loop comes to. -/
inductive Turn (σ : Type) where
  | again (state : σ)
  | done (state : σ)

/-- Takes turns until one is the last. A turn that leads to another one has to take something off
the text. -/
def loop {σ : Type} (turn : σ → Reader (Turn σ)) (state : σ) (input : List Char) :
    Option (σ × List Char) :=
  match turn state input with
  | none => none
  | some (.done state, rest) => some (state, rest)
  | some (.again state, rest) => if rest.length < input.length then loop turn state rest else none
  termination_by input.length

/-- Whether a character is a blank of a line. -/
def isBlank (c : Char) : Bool := c = ' ' || c = '\t'

/-- The text after its leading blanks. -/
def skipBlanks (input : List Char) : List Char := input.dropWhile isBlank

/-- Whether a character may stand in a comment and, quotes and backslashes apart, in a string. -/
def isTextChar (c : Char) : Bool := c = '\t' || (0x20 ≤ c.toNat && c.toNat ≠ 0x7F)

/-- The text after one line end. -/
def lineEnd? : List Char → Option (List Char)
  | '\n' :: rest => some rest
  | '\r' :: '\n' :: rest => some rest
  | _ => none

/-- The text after a comment, if one begins here. -/
def skipComment (input : List Char) : List Char :=
  match input with
  | '#' :: rest => rest.dropWhile isTextChar
  | _ => input

/-- The text after blanks, a comment and the end of a line or of the whole text. -/
def endOfLine? (input : List Char) : Option (List Char) :=
  match skipComment (skipBlanks input) with
  | [] => some []
  | rest => lineEnd? rest

/-- The text after blanks, comments and line ends. A comment has to end with its line. -/
def skipLines? (input : List Char) : Option (List Char) :=
  (loop (fun _ text =>
    match skipBlanks text with
    | '#' :: rest => (lineEnd? (rest.dropWhile isTextChar)).map fun rest => (.again (), rest)
    | rest =>
        match lineEnd? rest with
        | some rest => some (.again (), rest)
        | none => some (.done (), rest)) () input).map (·.2)

end Reader

end DeepLink.Toml
