/-! # JSON

The values of the data format, their compact and their indented text, and the reading of a scalar.
Numbers are kept as they are written. -/

namespace DeepLink

/-- A JSON value. -/
inductive Json where
  | null
  | bool (value : Bool)
  | number (digits : String)
  | text (value : String)
  | array (items : List Json)
  | object (members : List (String × Json))
  deriving Inhabited, Repr

namespace Json

/-- The number `n`. -/
def ofNat (n : Nat) : Json := .number (toString n)

/-- A hexadecimal digit in lower case. -/
def hexDigit (n : Nat) : Char :=
  if n < 10 then Char.ofNat (48 + n) else Char.ofNat (87 + n)

/-- A character inside double quotes. Quotes, backslashes and controls are escaped. -/
def escapeChar (c : Char) : List Char :=
  match c with
  | '"' => ['\\', '"']
  | '\\' => ['\\', '\\']
  | '\n' => ['\\', 'n']
  | '\r' => ['\\', 'r']
  | '\t' => ['\\', 't']
  | '\x08' => ['\\', 'b']
  | '\x0c' => ['\\', 'f']
  | c =>
      if c.toNat < 0x20 then
        ['\\', 'u', '0', '0', hexDigit (c.toNat / 16), hexDigit (c.toNat % 16)]
      else [c]

/-- A text between double quotes. -/
def quote (text : String) : String :=
  String.ofList ('"' :: text.toList.flatMap escapeChar ++ ['"'])

mutual

/-- The text of a value without blanks. -/
def compact : Json → String
  | .null => "null"
  | .bool true => "true"
  | .bool false => "false"
  | .number digits => digits
  | .text value => quote value
  | .array items => "[" ++ compactItems items ++ "]"
  | .object members => "\x7b" ++ compactMembers members ++ "\x7d"

/-- The texts of the items of an array, separated by commas. -/
def compactItems : List Json → String
  | [] => ""
  | [item] => compact item
  | item :: rest => compact item ++ "," ++ compactItems rest

/-- The texts of the members of an object, separated by commas. -/
def compactMembers : List (String × Json) → String
  | [] => ""
  | [(key, value)] => quote key ++ ":" ++ compact value
  | (key, value) :: rest => quote key ++ ":" ++ compact value ++ "," ++ compactMembers rest

end

/-- A line end and an indentation. -/
def newLine (depth : Nat) : String :=
  String.ofList ('\n' :: List.replicate (2 * depth) ' ')

mutual

/-- The text of a value with one item or member a line, at an indentation. -/
def indented (depth : Nat) : Json → String
  | .array (item :: rest) =>
      "[" ++ newLine (depth + 1) ++ indentedItems (depth + 1) (item :: rest) ++ newLine depth ++ "]"
  | .object (member :: rest) =>
      "\x7b" ++ newLine (depth + 1) ++ indentedMembers (depth + 1) (member :: rest) ++
        newLine depth ++ "\x7d"
  | value => compact value

/-- The items of an array, one a line. -/
def indentedItems (depth : Nat) : List Json → String
  | [] => ""
  | [item] => indented depth item
  | item :: rest => indented depth item ++ "," ++ newLine depth ++ indentedItems depth rest

/-- The members of an object, one a line. -/
def indentedMembers (depth : Nat) : List (String × Json) → String
  | [] => ""
  | [(key, value)] => quote key ++ ": " ++ indented depth value
  | (key, value) :: rest =>
      quote key ++ ": " ++ indented depth value ++ "," ++ newLine depth ++
        indentedMembers depth rest

end

/-- The text of a value with one item or member a line. -/
def pretty (value : Json) : String := indented 0 value

end Json

end DeepLink
