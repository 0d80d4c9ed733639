/-!
# Octets

Octet strings as lists, and the UTF-8 encoding of texts.
-/

namespace Plunder

/-- An octet string. -/
abbrev Bytes := List UInt8

namespace Text

/-- The UTF-8 octets of a text. -/
def utf8 (s : String) : Bytes := s.toList.flatMap String.utf8EncodeChar

/-- The text that the octets encode in UTF-8, if they encode one. -/
def ofUtf8? (bs : Bytes) : Option String := String.fromUTF8? (ByteArray.mk bs.toArray)

end Text
end Plunder
