/-! # UTF-8

Texts as bytes, and bytes as texts where they are valid: `ofUtf8?_utf8` says that reading undoes
writing. -/

namespace ServiceBus

/-- A sequence of bytes. -/
abbrev Bytes := List UInt8

namespace Text

/-- The text in UTF-8. -/
def utf8 (s : String) : Bytes :=
  s.toByteArray.data.toList

/-- The text that the bytes stand for, if they are valid UTF-8. -/
def ofUtf8? (bytes : Bytes) : Option String :=
  String.fromUTF8? ⟨bytes.toArray⟩

@[simp] theorem ofUtf8?_utf8 (s : String) : ofUtf8? (utf8 s) = some s := by
  have h : (⟨(utf8 s).toArray⟩ : ByteArray) = s.toByteArray := by
    simp [utf8]
  unfold ofUtf8? String.fromUTF8?
  rw [h, dif_pos s.isValidUTF8]
  rfl

end Text

end ServiceBus
