import Errand.Text.Utf8

/-!
# Errand — bytes as text

Inside the machine a run of bytes is a text whose characters all lie below
U+0100: each stands for one byte. Programs that take bytes for characters can
then be written over characters.

* `Octets.ofBytes`, `Octets.toBytes` — bytes and their text.
* `Octets.ofText`, `Octets.toText`   — proper text, by way of UTF-8.
-/

namespace Errand.Machine.Octets

open Text (Bytes)

/-- The character that stands for a byte. -/
def ofByte (b : UInt8) : Char := Char.ofNat b.toNat

/-- The byte that a character stands for. -/
def toByte (c : Char) : UInt8 := UInt8.ofNat c.toNat

/-- The text that stands for some bytes. -/
def ofBytes (bytes : Bytes) : String := String.ofList (bytes.map ofByte)

/-- The bytes that a text stands for. -/
def toBytes (s : String) : Bytes := s.toList.map toByte

/-- The text that stands for the UTF-8 of a proper text. -/
def ofText (s : String) : String := ofBytes (Text.encode s)

/-- The proper text of some bytes, with a mark for what is no character. -/
def toText (s : String) : String := Text.decodeLossy (toBytes s)

end Errand.Machine.Octets
