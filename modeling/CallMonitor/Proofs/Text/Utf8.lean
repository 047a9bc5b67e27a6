import CallMonitor.Text.Utf8

/-!
UTF-8 in both directions: the bytes that decode to a text are those, and only those, that the text
is encoded in. Encodings of single characters can be told apart: none starts another, and the bytes
after the first one start none.
-/

namespace CallMonitor.Text

theorem decode_utf8_encode (text : String) :
    decodeUtf8 (text.toList.flatMap String.utf8EncodeChar) = some text := by
  have bytes : (text.toList.flatMap String.utf8EncodeChar).toByteArray = text.toByteArray :=
    String.utf8Encode_toList
  have valid : (text.toList.flatMap String.utf8EncodeChar).toByteArray.IsValidUTF8 :=
    ByteArray.isValidUTF8_utf8Encode
  rw [decodeUtf8, String.fromUTF8?, dif_pos valid, Option.some.injEq, ← String.toByteArray_inj]
  exact bytes

theorem decode_utf8_eq_some_iff {bytes : Bytes} {text : String} :
    decodeUtf8 bytes = some text ↔ bytes = encodeUtf8 text := by
  constructor
  · intro decoded
    rw [decodeUtf8, String.fromUTF8?] at decoded
    split at decoded
    · have same : (encodeUtf8 text).toByteArray = bytes.toByteArray := by
        rw [← Option.some.inj decoded]
        exact String.utf8Encode_toList
      simpa using congrArg (fun array => array.data.toList) same.symm
    · cases decoded
  · rintro rfl
    exact decode_utf8_encode text

def utf8 (chars : List Char) : Bytes := chars.flatMap String.utf8EncodeChar

@[simp] theorem utf8_nil : utf8 [] = [] := rfl

@[simp] theorem utf8_cons (c : Char) (chars : List Char) :
    utf8 (c :: chars) = String.utf8EncodeChar c ++ utf8 chars := List.flatMap_cons

@[simp] theorem utf8_append (chars more : List Char) :
    utf8 (chars ++ more) = utf8 chars ++ utf8 more := List.flatMap_append

theorem encode_char_cancel {c d : Char} {bytes others : Bytes}
    (same : String.utf8EncodeChar c ++ bytes = String.utf8EncodeChar d ++ others) :
    c = d ∧ bytes = others := by
  have read := congrArg (fun joined => joined.toByteArray.utf8DecodeChar? 0) same
  simp only [List.toByteArray_append, ByteArray.utf8DecodeChar?_utf8EncodeChar_append,
    Option.some.injEq] at read
  subst read
  exact ⟨rfl, List.append_cancel_left same⟩

/-- A character's encoding is a byte that starts encodings and some that do not. -/
theorem encode_char_shape (c : Char) :
    ∃ first more, String.utf8EncodeChar c = first :: more ∧ first.IsUTF8FirstByte ∧
      ∀ byte ∈ more, ¬byte.IsUTF8FirstByte := by
  have starts : ∀ i (inside : i < (String.utf8EncodeChar c).length),
      (String.utf8EncodeChar c)[i].IsUTF8FirstByte ↔ i = 0 :=
    fun _ _ => UInt8.isUTF8FirstByte_getElem_utf8EncodeChar
  cases encoded : String.utf8EncodeChar c with
  | nil => exact absurd encoded String.utf8EncodeChar_ne_nil
  | cons first more =>
      simp only [encoded] at starts
      refine ⟨first, more, rfl, (starts 0 (by simp)).mpr rfl, ?_⟩
      intro byte member
      obtain ⟨i, inside, rfl⟩ := List.getElem_of_mem member
      intro begins
      have zero := (starts (i + 1) (by simpa using inside)).mp begins
      omega

end CallMonitor.Text
