import Pubky2Pubky.Foundation.Json

/-!
# UTF-8 text

Encoding loses nothing of a text, and a strict decoder takes it back. A decoder
may ignore one byte order mark at the start of the text.
-/

namespace Pubky2Pubky
namespace Foundation

theorem utf8_injective : Function.Injective utf8 := by
  intro text other h
  have hbytes : (String.ofList text).toByteArray = (String.ofList other).toByteArray := by
    rw [String.toByteArray_ofList, String.toByteArray_ofList]
    exact congrArg List.toByteArray h
  exact String.ofList_injective (String.toByteArray_inj.mp hbytes)

/-- The text of the bytes, if they are UTF-8. -/
def fromUtf8 (bytes : Bytes) : Option (List Char) :=
  bytes.toByteArray.utf8Decode?.map Array.toList

theorem fromUtf8_utf8 (text : List Char) : fromUtf8 (utf8 text) = some text := by
  have hdecode := @List.utf8Decode?_utf8Encode text
  unfold List.utf8Encode at hdecode
  unfold fromUtf8 utf8
  rw [hdecode]
  rfl

def byteOrderMark : Char :=
  Char.ofNat 0xfeff

def dropMark : List Char -> List Char
  | [] => []
  | c :: rest => if c = byteOrderMark then rest else c :: rest

/-- A strict decoder that ignores a byte order mark. -/
def decodeText (bytes : Bytes) : Option (List Char) :=
  (fromUtf8 bytes).map dropMark

theorem decodeText_utf8 (text : List Char) :
    decodeText (utf8 text) = some (dropMark text) := by
  unfold decodeText
  rw [fromUtf8_utf8]
  rfl

end Foundation
end Pubky2Pubky
