import Gatehouse.Bytes.Hex

/-! # Characters of HTTP

Methods, names of headers and the parts of media types are *tokens*: letters, digits and fifteen
other characters. The value of a header is any bytes but control characters, the tab allowed; it is
text if none of them lies outside ASCII. -/

namespace Gatehouse.Http

/-- The character may stand in a token. -/
def isTokenChar (c : Char) : Bool := c.isAlphanum || "!#$%&'*+-.^_`|~".toList.contains c

/-- The text is a token. -/
def isToken (s : String) : Bool := !s.isEmpty && s.toList.all isTokenChar

/-- The byte may stand in the value of a header. -/
def isValueByte (b : UInt8) : Bool := (0x20 ≤ b && b ≠ 0x7F) || b = 0x09

/-- The byte may stand in the value of a header that is text. -/
def isPrintable (b : UInt8) : Bool := isValueByte b && b < 0x7F

end Gatehouse.Http
