import JobWatch.Text.Utf16

/-! A text sent as octets may begin with a byte order mark. The mark names the encoding and is no
part of the text; without one the text is UTF-8.
-/

namespace JobWatch.Text.Marked

/-- The text of an octet sequence, in the encoding that its byte order mark names. -/
def decode : List UInt8 → List Char
  | 0xEF :: 0xBB :: 0xBF :: rest => Utf8.decodeLossy rest
  | 0xFF :: 0xFE :: rest => Utf16.decodeLossy .littleEndian rest
  | 0xFE :: 0xFF :: rest => Utf16.decodeLossy .bigEndian rest
  | octets => Utf8.decodeLossy octets

end JobWatch.Text.Marked
