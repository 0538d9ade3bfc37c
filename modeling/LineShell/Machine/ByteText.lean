import LineShell.Text.Utf8

/-!
Texts of bytes. Programs take names, variables and streams as bytes, which need not be UTF-8. Here
such a text is a `String` in which each character stands for the byte with its number; the shell's
own texts are encoded on their way in and decoded on their way out.
-/
namespace LineShell.Machine

/-- A text whose characters stand for one byte each. -/
abbrev ByteText := String

namespace ByteText

def ofBytes (bytes : Bytes) : ByteText :=
  String.ofList (bytes.map fun b => Char.ofNat b.toNat)

def toBytes (text : ByteText) : Bytes :=
  text.toList.map fun c => c.toNat.toUInt8

def encode (text : String) : ByteText :=
  ofBytes (Bytes.ofString text)

/-- The text in these bytes, if they are UTF-8. -/
def decode? (text : ByteText) : Option String :=
  (toBytes text).text?

end ByteText

end LineShell.Machine
