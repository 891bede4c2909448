import ServiceStub.Text.Utf8
import ServiceStub.Text.Chars

/-! The bytes of a text: what they are, and that they are read back. -/

namespace ServiceStub.Text

theorem toBytes_ofList (chars : List Char) :
    toBytes (String.ofList chars) = chars.flatMap String.utf8EncodeChar := by
  simp [toBytes, List.utf8Encode]

theorem toBytes_eq (text : String) : toBytes text = text.toList.flatMap String.utf8EncodeChar := by
  rw [← toBytes_ofList, String.ofList_toList]

theorem toBytes_ne_nil {text : String} (nonempty : text ≠ "") : toBytes text ≠ [] := by
  rw [toBytes_eq, ne_eq, List.flatMap_eq_nil_iff]
  intro noBytes
  refine nonempty (String.toList_eq_nil_iff.mp (List.eq_nil_iff_forall_not_mem.mpr ?_))
  exact fun c member => String.utf8EncodeChar_ne_nil (noBytes c member)

theorem ofBytes?_toBytes (text : String) : ofBytes? (toBytes text) = some text := by
  rw [ofBytes?, toBytes, Array.toArray_toList]
  exact dif_pos text.isValidUTF8

private theorem le_of_mem_utf8EncodeChar {c : Char} (large : ¬c.val.toNat ≤ 0x7F) :
    ∀ byte ∈ String.utf8EncodeChar c, 0x80 ≤ byte.toNat := by
  have high (value : Nat) (bits : 0x80 ≤ value) (bound : value < 0x100) :
      0x80 ≤ (UInt8.ofNat value).toNat := by
    rwa [UInt8.toNat_ofNat_of_lt' bound]
  rw [String.utf8EncodeChar, if_neg large]
  split
  · simp only [List.forall_mem_cons]
    exact ⟨high _ (by omega) (by omega), high _ (by omega) (by omega), nofun⟩
  · split
    · simp only [List.forall_mem_cons]
      exact ⟨high _ (by omega) (by omega), high _ (by omega) (by omega),
        high _ (by omega) (by omega), nofun⟩
    · simp only [List.forall_mem_cons]
      exact ⟨high _ (by omega) (by omega), high _ (by omega) (by omega),
        high _ (by omega) (by omega), high _ (by omega) (by omega), nofun⟩

theorem toNat_of_mem_utf8EncodeChar {c : Char} {byte : UInt8} (ascii : byte.toNat < 0x80)
    (member : byte ∈ String.utf8EncodeChar c) : c.toNat = byte.toNat := by
  by_cases small : c.val.toNat ≤ 0x7F
  · rw [String.utf8EncodeChar, if_pos small, List.mem_singleton] at member
    rw [member]
    exact (UInt8.toNat_ofNat_of_lt' (Nat.lt_of_le_of_lt small (by decide))).symm
  · exact absurd (le_of_mem_utf8EncodeChar small byte member) (Nat.not_le_of_lt ascii)

theorem mem_toBytes {byte : UInt8} {text : String} (ascii : byte.toNat < 0x80)
    (member : byte ∈ toBytes text) : Char.ofNat byte.toNat ∈ text.toList := by
  rw [toBytes_eq] at member
  obtain ⟨c, listed, encoded⟩ := List.mem_flatMap.mp member
  rwa [← toNat_of_mem_utf8EncodeChar ascii encoded, Char.ofNat_toNat]

end ServiceStub.Text
