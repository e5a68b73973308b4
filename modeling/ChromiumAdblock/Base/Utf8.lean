import Mathlib.Data.String.Basic

/-! Byte strings and the UTF-8 text that they may hold. -/

namespace ChromiumAdblock

def utf8 (text : String) : List UInt8 := text.toUTF8.data.toList

/-- `CxxString::to_str`: the text of a byte string, if it is UTF-8. -/
def toStr (bytes : List UInt8) : Option String := String.fromUTF8? ⟨bytes.toArray⟩

@[simp] theorem toStr_utf8 (text : String) : toStr (utf8 text) = some text := by
  have hbytes : (⟨(utf8 text).toArray⟩ : ByteArray) = text.toUTF8 := rfl
  rw [toStr, hbytes]
  exact dif_pos text.isValidUTF8

end ChromiumAdblock
