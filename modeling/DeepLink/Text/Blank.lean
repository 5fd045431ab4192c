/-! # Blank characters

The characters with the Unicode property White_Space, and texts that hold nothing else. -/

namespace DeepLink.Text

/-- Whether a character has the property White_Space. -/
def isBlankChar (c : Char) : Bool :=
  let n := c.toNat
  (9 ≤ n && n ≤ 13) || n = 32 || n = 0x85 || n = 0xA0 || n = 0x1680 ||
    (0x2000 ≤ n && n ≤ 0x200A) || n = 0x2028 || n = 0x2029 || n = 0x202F || n = 0x205F || n = 0x3000

/-- Whether a text is empty after trimming. -/
def isBlank (text : String) : Bool :=
  text.toList.all isBlankChar

/-- A text without the blanks at its two ends. -/
def trim (text : String) : String :=
  String.ofList ((text.toList.dropWhile isBlankChar).reverse.dropWhile isBlankChar).reverse

end DeepLink.Text
