import DeepLink.Text.CodePoints
import DeepLink.Text.Unprintable

/-! # Quoted text

Messages show texts between double quotes. Quotes and backslashes are escaped, four control
characters have names of their own, and a character without a visible form is written by number. -/

namespace DeepLink.Text

/-- The characters that a quoted text writes by number. -/
def unprintable : List (Run Unit) :=
  runsFrom 0 (hexNumbers unprintableRuns)

/-- Whether a character is shown as it is. The visible ASCII characters need no table. -/
def isPrintable (c : Char) : Bool :=
  if c.toNat < 0x7F then 0x20 ≤ c.toNat else !member unprintable c

/-- A number in lower-case hexadecimal digits, without leading zeros. -/
def hexText (n : Nat) : List Char :=
  Nat.toDigits 16 n

/-- A character inside double quotes. -/
def quoteChar (c : Char) : List Char :=
  match c with
  | '"' => ['\\', '"']
  | '\\' => ['\\', '\\']
  | '\t' => ['\\', 't']
  | '\r' => ['\\', 'r']
  | '\n' => ['\\', 'n']
  | '\x00' => ['\\', '0']
  | c => if isPrintable c then [c] else ['\\', 'u', '\x7b'] ++ hexText c.toNat ++ ['\x7d']

/-- A text between double quotes. -/
def quoted (text : String) : String :=
  String.ofList ('"' :: text.toList.flatMap quoteChar ++ ['"'])

end DeepLink.Text
