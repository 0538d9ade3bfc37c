/-!
Text as bytes. Files and streams hold bytes; everything the shell reads as text must be UTF-8.
-/
namespace LineShell

abbrev Bytes := List UInt8

def Bytes.ofString (text : String) : Bytes :=
  text.toByteArray.data.toList

/-- The text these bytes encode, if they are UTF-8. -/
def Bytes.text? (bytes : Bytes) : Option String :=
  String.fromUTF8? ⟨bytes.toArray⟩

theorem Bytes.ofString_append (a b : String) :
    Bytes.ofString (a ++ b) = Bytes.ofString a ++ Bytes.ofString b := by
  simp [Bytes.ofString]

theorem Bytes.text?_ofString (text : String) : Bytes.text? (Bytes.ofString text) = some text := by
  unfold Bytes.text? Bytes.ofString String.fromUTF8?
  exact dif_pos text.isValidUTF8

@[simp] theorem Bytes.ofString_empty : Bytes.ofString "" = [] := rfl

end LineShell
