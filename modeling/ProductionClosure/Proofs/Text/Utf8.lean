import ProductionClosure.Text.Utf8

/-!
Texts as octets. Texts written one behind the other are their octets one behind the other, and an
octet below 128 is read as a character of its own.
-/

namespace ProductionClosure.Text

/-! ### Writing -/

theorem toList_loop (octets : ByteArray) (i : Nat) (read : List UInt8) :
    ByteArray.toList.loop octets i read = read.reverse ++ octets.data.toList.drop i := by
  fun_induction ByteArray.toList.loop octets i read with
  | case1 i read hmore ih =>
    have hsize : i < octets.data.toList.length := hmore
    have hget : octets.get! i = octets.data.toList[i] := getElem!_pos octets.data i hmore
    rw [ih, List.reverse_cons, List.append_assoc, List.drop_eq_getElem_cons hsize, hget]
    rfl
  | case2 i read hend =>
    have hsize : octets.data.toList.length ≤ i := Nat.le_of_not_lt hend
    rw [List.drop_eq_nil_of_le hsize, List.append_nil]

theorem encodeUtf8_eq (s : String) : encodeUtf8 s = s.toByteArray.data.toList :=
  toList_loop s.toUTF8 0 []

theorem encodeUtf8_empty : encodeUtf8 "" = [] := encodeUtf8_eq ""

theorem encodeUtf8_append (s t : String) : encodeUtf8 (s ++ t) = encodeUtf8 s ++ encodeUtf8 t := by
  rw [encodeUtf8_eq, encodeUtf8_eq, encodeUtf8_eq, String.toByteArray_append,
    ByteArray.data_append, Array.toList_append]

/-! ### Reading -/

theorem firstChar_of_ascii {b : UInt8} (h : b < 0x80) (rest : List UInt8) :
    firstChar b rest = .ok (Char.ofNat b.toNat, 0) := by
  simp only [firstChar, Lead.ofOctet?, h, if_true, continuation]

theorem decodeCharsLossy_of_ascii {octets : List UInt8} (h : ∀ b ∈ octets, b < 0x80) :
    decodeCharsLossy octets = octets.map fun b => Char.ofNat b.toNat := by
  induction octets with
  | nil => rw [decodeCharsLossy, List.map_nil]
  | cons b rest ih =>
    have hrest := ih fun other hother => h other (List.mem_cons_of_mem b hother)
    rw [decodeCharsLossy, firstChar_of_ascii (h b List.mem_cons_self) rest]
    simp only [List.drop_zero, hrest, List.map_cons]

end ProductionClosure.Text
