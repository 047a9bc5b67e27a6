/-!
UTF-8 as lists of bytes. Encoding is core's; decoding accepts exactly the byte strings that
some text encodes to.
-/

namespace CallMonitor.Text

abbrev Bytes := List UInt8

def encodeUtf8 (text : String) : Bytes :=
  text.toList.flatMap String.utf8EncodeChar

def decodeUtf8 (bytes : Bytes) : Option String :=
  String.fromUTF8? bytes.toByteArray

/-- The mark U+FEFF, which some writers put before a text, as bytes. -/
def byteOrderMark : Char := Char.ofNat 0xFEFF

end CallMonitor.Text
