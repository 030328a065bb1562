import Rehearsal.Text.Utf8

/-!
# The octets of lines

The octets of a text are those of its characters, one after the other (`toList_toUTF8`). The octet
that ends a line is in the encoding of no other character than the line break, so it
never stands **inside** a line, whatever the line holds
(`newline_not_mem_toUTF8`).
-/

namespace Rehearsal.Text

/-- The loop that lists octets adds those from its position on. -/
theorem toList_loop_octets (octets : ByteArray) (i : Nat) (found : List UInt8) :
    ByteArray.toList.loop octets i found = found.reverse ++ octets.data.toList.drop i := by
  fun_induction ByteArray.toList.loop octets i found with
  | case1 i found h ih =>
    have hi : i < octets.data.toList.length := by simpa using h
    rw [ih, List.drop_eq_getElem_cons hi]
    simp [ByteArray.get!, h]
  | case2 i found h =>
    rw [List.drop_eq_nil_of_le (by simpa using Nat.le_of_not_lt h), List.append_nil]

theorem toList_octets (octets : ByteArray) : octets.toList = octets.data.toList := by
  rw [ByteArray.toList, toList_loop_octets, List.reverse_nil, List.nil_append, List.drop_zero]

theorem toList_octets_append (first second : ByteArray) :
    (first ++ second).toList = first.toList ++ second.toList := by
  rw [toList_octets, toList_octets, toList_octets, ByteArray.data_append, Array.toList_append]

/-- Octets that are listed and put together again. -/
theorem mk_toArray_toList (octets : ByteArray) : (⟨octets.toList.toArray⟩ : ByteArray) = octets := by
  rw [toList_octets]

/-- **The octets of a text** are those of its characters. -/
theorem toList_toUTF8 (s : String) : s.toUTF8.toList = s.toList.flatMap String.utf8EncodeChar := by
  have hbytes : s.toUTF8 = (s.toList.flatMap String.utf8EncodeChar).toByteArray := by
    rw [String.toUTF8_eq_toByteArray, ← List.utf8Encode, ← String.toByteArray_ofList,
      String.ofList_toList]
  rw [hbytes, toList_octets, List.toList_data_toByteArray]

theorem toUTF8_append (s t : String) : (s ++ t).toUTF8 = s.toUTF8 ++ t.toUTF8 := by
  rw [String.toUTF8_eq_toByteArray, String.toUTF8_eq_toByteArray, String.toUTF8_eq_toByteArray,
    String.toByteArray_append]

/-- **A character above ASCII** has only octets above ASCII: each is some of its bits with a mark
over them. -/
theorem high_of_mem_utf8EncodeChar {c : Char} {octet : UInt8} (hc : 127 < c.val.toNat)
    (h : octet ∈ String.utf8EncodeChar c) : 127 < octet.toNat := by
  have hmarked : ∀ n, 127 < n → n < 256 → octet = UInt8.ofNat n → 127 < octet.toNat := by
    rintro n hlow hhigh rfl
    rwa [UInt8.toNat_ofNat_of_lt' hhigh]
  unfold String.utf8EncodeChar at h
  dsimp only at h
  rw [if_neg (by omega)] at h
  split at h
  · simp only [List.mem_cons, List.not_mem_nil, or_false] at h
    rcases h with h | h <;> exact hmarked _ (by omega) (by omega) h
  · split at h
    · simp only [List.mem_cons, List.not_mem_nil, or_false] at h
      rcases h with h | h | h <;> exact hmarked _ (by omega) (by omega) h
    · simp only [List.mem_cons, List.not_mem_nil, or_false] at h
      rcases h with h | h | h | h <;> exact hmarked _ (by omega) (by omega) h

/-- The octet that ends a line. -/
def newline : UInt8 := 0x0A

/-- **Only the line break** has the octet that ends a line. -/
theorem eq_of_newline_mem {c : Char} (h : newline ∈ String.utf8EncodeChar c) : c = '\n' := by
  by_cases hc : 127 < c.val.toNat
  · exact absurd (high_of_mem_utf8EncodeChar hc h) (by decide)
  · have hsmall : c.val.toNat < UInt8.size := Nat.lt_of_le_of_lt (Nat.not_lt.mp hc) (by decide)
    unfold String.utf8EncodeChar at h
    dsimp only at h
    rw [if_pos (by omega), List.mem_singleton] at h
    have hv : newline.toNat = c.val.toNat := by rw [h, UInt8.toNat_ofNat_of_lt' hsmall]
    exact Char.ext (UInt32.toNat_inj.mp hv.symm)

theorem toList_toUTF8_newline : "\n".toUTF8.toList = [newline] := by
  rw [toList_toUTF8]
  rfl

theorem newline_not_mem_toUTF8 {s : String} (h : '\n' ∉ s.toList) : newline ∉ s.toUTF8.toList := by
  rw [toList_toUTF8, List.mem_flatMap]
  rintro ⟨c, hc, hmem⟩
  exact h (eq_of_newline_mem hmem ▸ hc)

end Rehearsal.Text
