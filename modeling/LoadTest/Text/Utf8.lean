/-!
# Texts as bytes
-/

namespace LoadTest.Text

def utf8 (s : String) : List UInt8 := s.toList.flatMap String.utf8EncodeChar

def ofUtf8? (bytes : List UInt8) : Option String := String.fromUTF8? bytes.toByteArray

theorem utf8_append (s t : String) : utf8 (s ++ t) = utf8 s ++ utf8 t := by
  rw [utf8, String.toList_append, List.flatMap_append, ← utf8, ← utf8]

theorem utf8_newline : utf8 "\n" = [0x0A] := by decide

theorem toByteArray_utf8 (s : String) : (utf8 s).toByteArray = s.toByteArray := by
  have hencode : s.toList.utf8Encode = (utf8 s).toByteArray := rfl
  rw [← hencode, String.utf8Encode_toList]

theorem ofUtf8?_utf8 (s : String) : ofUtf8? (utf8 s) = some s := by
  have hvalid : (utf8 s).toByteArray.IsValidUTF8 := by
    rw [toByteArray_utf8]
    exact s.isValidUTF8
  have htext : String.fromUTF8 (utf8 s).toByteArray hvalid = s :=
    String.toByteArray_inj.1 (toByteArray_utf8 s)
  rw [ofUtf8?, String.fromUTF8?, dif_pos hvalid, htext]

/-- A byte below 0x80 is no part of a longer character. -/
theorem toNat_of_mem_utf8EncodeChar {b : UInt8} {c : Char} (hb : b.toNat < 0x80)
    (h : b ∈ String.utf8EncodeChar c) : c.toNat = b.toNat := by
  have hval : c.toNat = c.val.toNat := rfl
  have hbound : c.val.toNat < 2 ^ 32 := c.val.toNat_lt
  simp only [String.utf8EncodeChar] at h
  -- one case for each length of a character; only that of length one has a byte below 0x80
  split at h
  · rw [List.mem_singleton.1 h, UInt8.toNat_ofNat']
    omega
  split at h
  · simp only [List.mem_cons, List.not_mem_nil, or_false] at h
    rcases h with rfl | rfl <;> rw [UInt8.toNat_ofNat'] at hb <;> omega
  split at h
  · simp only [List.mem_cons, List.not_mem_nil, or_false] at h
    rcases h with rfl | rfl | rfl <;> rw [UInt8.toNat_ofNat'] at hb <;> omega
  · simp only [List.mem_cons, List.not_mem_nil, or_false] at h
    rcases h with rfl | rfl | rfl | rfl <;> rw [UInt8.toNat_ofNat'] at hb <;> omega

/-- a text without an ASCII character has no byte with its number -/
theorem notMem_utf8 {b : UInt8} {s : String} (hb : b.toNat < 0x80)
    (h : ∀ c ∈ s.toList, c.toNat ≠ b.toNat) : b ∉ utf8 s := by
  intro hmem
  obtain ⟨c, hc, hbyte⟩ := List.mem_flatMap.1 hmem
  exact h c hc (toNat_of_mem_utf8EncodeChar hb hbyte)

end LoadTest.Text
