import DeepLink.Text.CodePoints
import DeepLink.Toml.Reader

/-! # Strings

Strings with escapes stand between double quotes, literal strings between single ones. Three quotes
enclose a string of several lines, whose first line end is dropped. -/

namespace DeepLink.Toml.Quotation

open DeepLink.Text DeepLink.Toml.Reader

/-- The character that a backslash and a letter stand for. -/
def namedEscape? : Char → Option Char
  | 'b' => some '\x08'
  | 't' => some '\t'
  | 'n' => some '\n'
  | 'f' => some '\x0c'
  | 'r' => some '\r'
  | '"' => some '"'
  | '\\' => some '\\'
  | _ => none

/-- The character with a number in hexadecimal digits. -/
def numbered? (digits : List Char) : Option Char := do
  let n ← digits.foldlM (fun value c => (hexDigit? c).map (value * 16 + ·)) 0
  if n.isValidChar then some (Char.ofNat n) else none

/-- Puts a character in front of a string that is being read. -/
def push (c : Char) (read : Option (List Char × List Char)) : Option (List Char × List Char) :=
  read.map fun (text, rest) => (c :: text, rest)

/-- Reads a string with escapes up to its closing quote. -/
def basic : List Char → Option (List Char × List Char)
  | [] => none
  | '"' :: rest => some ([], rest)
  | '\\' :: 'u' :: a :: b :: c :: d :: rest => do push (← numbered? [a, b, c, d]) (basic rest)
  | '\\' :: 'U' :: a :: b :: c :: d :: e :: f :: g :: h :: rest => do
      push (← numbered? [a, b, c, d, e, f, g, h]) (basic rest)
  | '\\' :: letter :: rest => do push (← namedEscape? letter) (basic rest)
  | c :: rest => if isTextChar c ∧ c ≠ '\\' then push c (basic rest) else none

/-- Reads a literal string up to its closing quote. -/
def literal : List Char → Option (List Char × List Char)
  | [] => none
  | '\'' :: rest => some ([], rest)
  | c :: rest => if isTextChar c then push c (literal rest) else none

/-- Where the reading of several lines stands. -/
inductive Place where
  | within
  /-- Behind a backslash and blanks: a line end has to follow. -/
  | beforeLineEnd
  /-- Behind a backslash at the end of a line: blanks and line ends are passed over. -/
  | skipping

/-- Reads the lines of a string with escapes up to its closing quotes. One or two quotes may stand
right before the closing ones. -/
def basicLines : Place → List Char → Option (List Char × List Char)
  | _, [] => none
  | .beforeLineEnd, '\n' :: rest => basicLines .skipping rest
  | .beforeLineEnd, '\r' :: '\n' :: rest => basicLines .skipping rest
  | .beforeLineEnd, c :: rest => if isBlank c then basicLines .beforeLineEnd rest else none
  | .skipping, ' ' :: rest => basicLines .skipping rest
  | .skipping, '\t' :: rest => basicLines .skipping rest
  | .skipping, '\n' :: rest => basicLines .skipping rest
  | .skipping, '\r' :: '\n' :: rest => basicLines .skipping rest
  | _, '"' :: '"' :: '"' :: '"' :: '"' :: rest => some (['"', '"'], rest)
  | _, '"' :: '"' :: '"' :: '"' :: rest => some (['"'], rest)
  | _, '"' :: '"' :: '"' :: rest => some ([], rest)
  | _, '\\' :: 'u' :: a :: b :: c :: d :: rest => do
      push (← numbered? [a, b, c, d]) (basicLines .within rest)
  | _, '\\' :: 'U' :: a :: b :: c :: d :: e :: f :: g :: h :: rest => do
      push (← numbered? [a, b, c, d, e, f, g, h]) (basicLines .within rest)
  | _, '\\' :: '\n' :: rest => basicLines .skipping rest
  | _, '\\' :: '\r' :: '\n' :: rest => basicLines .skipping rest
  | _, '\\' :: letter :: rest =>
      if isBlank letter then basicLines .beforeLineEnd rest
      else do push (← namedEscape? letter) (basicLines .within rest)
  | _, '\n' :: rest => push '\n' (basicLines .within rest)
  | _, '\r' :: '\n' :: rest => push '\n' (basicLines .within rest)
  | _, c :: rest => if isTextChar c ∧ c ≠ '\\' then push c (basicLines .within rest) else none

/-- Reads the lines of a literal string up to its closing quotes. -/
def literalLines : List Char → Option (List Char × List Char)
  | [] => none
  | '\'' :: '\'' :: '\'' :: '\'' :: '\'' :: rest => some (['\'', '\''], rest)
  | '\'' :: '\'' :: '\'' :: '\'' :: rest => some (['\''], rest)
  | '\'' :: '\'' :: '\'' :: rest => some ([], rest)
  | '\n' :: rest => push '\n' (literalLines rest)
  | '\r' :: '\n' :: rest => push '\n' (literalLines rest)
  | c :: rest => if isTextChar c then push c (literalLines rest) else none

/-- The text after a line end, if one comes first. -/
def skipFirstLineEnd (input : List Char) : List Char :=
  (lineEnd? input).getD input

/-- Reads a string of one line, as keys are written. -/
def line : Reader String := fun input =>
  match input with
  | '"' :: rest => (basic rest).map fun (text, rest) => (String.ofList text, rest)
  | '\'' :: rest => (literal rest).map fun (text, rest) => (String.ofList text, rest)
  | _ => none

/-- Reads a string of one line or of several. -/
def any : Reader String := fun input =>
  match input with
  | '"' :: '"' :: '"' :: rest =>
      (basicLines .within (skipFirstLineEnd rest)).map fun (text, rest) => (String.ofList text, rest)
  | '\'' :: '\'' :: '\'' :: rest =>
      (literalLines (skipFirstLineEnd rest)).map fun (text, rest) => (String.ofList text, rest)
  | _ => line input

end DeepLink.Toml.Quotation
