/-!
Byte strings and their reading as UTF-8.
-/

namespace PluginWrapper

abbrev Bytes := List UInt8

namespace Bytes

def ofString (s : String) : Bytes :=
  s.toList.flatMap String.utf8EncodeChar

def toString? (bytes : Bytes) : Option String :=
  String.fromUTF8? ⟨bytes.toArray⟩

theorem toString?_ofString (s : String) : toString? (ofString s) = some s := by
  have hbytes : (⟨(ofString s).toArray⟩ : ByteArray) = s.toByteArray := by
    conv => rhs; rw [← String.ofList_toList (s := s)]
    rw [String.toByteArray_ofList]
    apply ByteArray.ext
    simp [ofString, List.utf8Encode]
  rw [toString?, hbytes, String.fromUTF8?, dif_pos s.isValidUTF8]
  rfl

end Bytes

end PluginWrapper
