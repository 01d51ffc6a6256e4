/-! # Bytes as text

Texts come from outside as bytes in UTF-8.  Bytes that are not well formed are no text at
all: nothing is replaced or skipped.

Bytes are a text exactly if they are the encoding of its characters (`ofUtf8?_eq_some_iff`), and
only a line feed has the byte of a line feed in its encoding (`newline_mem_utf8EncodeChar_iff`). -/

namespace LoxScan.Text

/-- The text that the bytes encode. -/
def ofUtf8? (bytes : List UInt8) : Option String := String.fromUTF8? (ByteArray.mk bytes.toArray)

/-- The bytes that encode the characters. -/
def utf8 (cs : List Char) : List UInt8 := cs.flatMap String.utf8EncodeChar

theorem utf8_append (as bs : List Char) : utf8 (as ++ bs) = utf8 as ++ utf8 bs := by
  rw [utf8, List.flatMap_append]
  rfl

theorem utf8_cons (c : Char) (cs : List Char) :
    utf8 (c :: cs) = String.utf8EncodeChar c ++ utf8 cs := rfl

theorem utf8_singleton (c : Char) : utf8 [c] = String.utf8EncodeChar c :=
  List.flatMap_singleton _ _

/-- The encoding of characters, as an array of bytes. -/
theorem utf8Encode_eq_mk (cs : List Char) : cs.utf8Encode = ByteArray.mk (utf8 cs).toArray := by
  refine ByteArray.ext (Array.toList_inj.mp ?_)
  rw [List.utf8Encode, List.toList_data_toByteArray]
  rfl

/-- **Bytes are a text exactly if they encode its characters.** -/
theorem ofUtf8?_eq_some_iff {bytes : List UInt8} {text : String} :
    ofUtf8? bytes = some text ↔ utf8 text.toList = bytes := by
  have hbytes : ByteArray.mk bytes.toArray = text.toByteArray ↔ utf8 text.toList = bytes := by
    rw [← String.utf8Encode_toList, utf8Encode_eq_mk, ByteArray.mk.injEq, Array.mk.injEq]
    exact eq_comm
  rw [← hbytes, ofUtf8?, String.fromUTF8?]
  constructor
  · intro h
    split at h
    · cases h
      rfl
    · cases h
  · intro h
    rw [dif_pos (h ▸ text.isValidUTF8), Option.some.injEq, ← String.toByteArray_inj]
    exact h

/-- Characters are read back from their encoding. -/
theorem ofUtf8?_utf8 (cs : List Char) : ofUtf8? (utf8 cs) = some (String.ofList cs) := by
  rw [ofUtf8?_eq_some_iff, String.toList_ofList]

/-- A byte below 128 is the code point of the character that it encodes. -/
theorem toNat_of_mem_utf8EncodeChar {c : Char} {b : UInt8} (h : b ∈ String.utf8EncodeChar c)
    (hb : b.toNat < 128) : c.val.toNat = b.toNat := by
  unfold String.utf8EncodeChar at h
  simp only at h
  split at h
  · rw [List.mem_singleton.mp h, UInt8.toNat_ofNat']
    omega
  · -- All bytes of longer encodings carry the mark of a lead or of a continuation, which is 128
    -- or more.
    exfalso
    have hmark (x m : Nat) (hm : 128 ≤ m) (hx : x + m < 256) :
        128 ≤ (UInt8.ofNat (x + m)).toNat := by
      rw [UInt8.toNat_ofNat']
      omega
    have hhigh : 128 ≤ b.toNat := by
      split at h
      · simp only [List.mem_cons, List.not_mem_nil, or_false] at h
        rcases h with rfl | rfl <;> exact hmark _ _ (by decide) (by omega)
      · split at h
        · simp only [List.mem_cons, List.not_mem_nil, or_false] at h
          rcases h with rfl | rfl | rfl <;> exact hmark _ _ (by decide) (by omega)
        · simp only [List.mem_cons, List.not_mem_nil, or_false] at h
          rcases h with rfl | rfl | rfl | rfl <;> exact hmark _ _ (by decide) (by omega)
    omega

/-- **Only a line feed has the byte of a line feed in its encoding.** -/
theorem newline_mem_utf8EncodeChar_iff {c : Char} :
    (10 : UInt8) ∈ String.utf8EncodeChar c ↔ c = '\n' := by
  constructor
  · intro h
    have hcode := toNat_of_mem_utf8EncodeChar h (by decide)
    exact Char.ext (UInt32.toNat_inj.mp hcode)
  · rintro rfl
    decide

end LoxScan.Text
