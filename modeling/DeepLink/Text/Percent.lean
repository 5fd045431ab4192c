import DeepLink.Text.CodePoints
import DeepLink.Text.Utf8

/-! # Percent escapes

`%` and two hexadecimal digits stand for one octet. What is not such an escape stands for itself. -/

namespace DeepLink.Text.Percent

/-- The octets that a text stands for. An incomplete escape stands for its own characters. -/
def unescape : List Char → List UInt8
  | [] => []
  | '%' :: high :: low :: rest =>
      match hexDigit? high, hexDigit? low with
      | some h, some l => UInt8.ofNat (16 * h + l) :: unescape rest
      | _, _ => Utf8.encodeChar '%' ++ unescape (high :: low :: rest)
  | c :: rest => Utf8.encodeChar c ++ unescape rest

/-- The text that an escaped text stands for, read leniently as UTF-8. -/
def decodeChars (text : List Char) : List Char :=
  Utf8.decodeLossy (unescape text)

/-- The text that an escaped text stands for, read leniently as UTF-8. -/
def decode (text : String) : String :=
  String.ofList (decodeChars text.toList)

end DeepLink.Text.Percent
