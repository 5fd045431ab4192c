import DeepLink.Json
import DeepLink.Text.CodePoints

/-! # Reading scalars

A text in double quotes, or a natural number in plain digits, with JSON's blanks around it. A
number with a sign, a fraction, an exponent or a leading zero is not read. -/

namespace DeepLink.Json

open DeepLink.Text

/-- A piece of a quoted text: a character, or half of one that is written as a pair of escapes. -/
inductive Piece where
  | char (c : Char)
  | unit (n : Nat)

/-- The character that a backslash and a letter stand for. -/
def namedEscape? : Char → Option Char
  | '"' => some '"'
  | '\\' => some '\\'
  | '/' => some '/'
  | 'b' => some '\x08'
  | 'f' => some '\x0c'
  | 'n' => some '\n'
  | 'r' => some '\r'
  | 't' => some '\t'
  | _ => none

/-- A piece from the value of a numbered escape. -/
def Piece.ofNumber (n : Nat) : Piece :=
  if 0xD800 ≤ n ∧ n ≤ 0xDFFF then .unit n else .char (Char.ofNat n)

/-- The pieces of a text up to its closing quote, and what follows the quote. -/
def readPieces? : List Char → Option (List Piece × List Char)
  | '"' :: rest => some ([], rest)
  | '\\' :: 'u' :: a :: b :: c :: d :: rest => do
      let high := (← hexDigit? a) * 16 + (← hexDigit? b)
      let low := (← hexDigit? c) * 16 + (← hexDigit? d)
      let (pieces, after) ← readPieces? rest
      some (.ofNumber (high * 256 + low) :: pieces, after)
  | '\\' :: letter :: rest => do
      let c ← namedEscape? letter
      let (pieces, after) ← readPieces? rest
      some (.char c :: pieces, after)
  | c :: rest =>
      if c.toNat < 0x20 ∨ c = '\\' then none
      else (readPieces? rest).map fun (pieces, after) => (.char c :: pieces, after)
  | [] => none

/-- Joins the halves of characters; a half without its other half makes the text unreadable. -/
def joinPieces? : List Piece → Option (List Char)
  | [] => some []
  | .char c :: rest => (joinPieces? rest).map (c :: ·)
  | .unit high :: .unit low :: rest =>
      if high < 0xDC00 ∧ 0xDC00 ≤ low then
        (joinPieces? rest).map (Char.ofNat (0x10000 + (high - 0xD800) * 1024 + (low - 0xDC00)) :: ·)
      else none
  | .unit _ :: _ => none

/-- Whether a character may stand around a value. -/
def isBlank (c : Char) : Bool := c = ' ' || c = '\n' || c = '\r' || c = '\t'

/-- Reads a quoted text or a natural number. -/
def scalar? (text : String) : Option Json :=
  match text.toList.dropWhile isBlank with
  | '"' :: rest => do
      let (pieces, after) ← readPieces? rest
      let value ← joinPieces? pieces
      if after.all isBlank then some (.text (String.ofList value)) else none
  | rest =>
      let digits := rest.takeWhile Char.isDigit
      let plain := match digits with
        | [] => false
        | ['0'] => true
        | d :: _ => d ≠ '0'
      if plain && (rest.dropWhile Char.isDigit).all isBlank then
        some (.number (String.ofList digits))
      else none

end DeepLink.Json
