
set_option autoImplicit false

namespace Inquiry.Text

def bytes (text : String) : List UInt8 := text.toUTF8.data.toList

theorem bytes_eq_flatMap (text : String) :
    bytes text = text.toList.flatMap String.utf8EncodeChar := by
  have encoded : text.toUTF8 = (text.toList.flatMap String.utf8EncodeChar).toByteArray :=
    String.utf8Encode_toList.symm
  rw [bytes, encoded, List.toList_data_toByteArray]

-- Encodings of one length have the digits of the code points to base 64, the first one first. Of two
-- lengths, the longer encoding has the greater first byte.
theorem utf8EncodeChar_append_lt {left right : Char} (less : left < right)
    (first second : List UInt8) :
    String.utf8EncodeChar left ++ first < String.utf8EncodeChar right ++ second := by
  have order : left.val.toNat < right.val.toNat := less
  have bound : right.val.toNat < 0x110000 := by
    rcases right.valid with low | ⟨-, high⟩
    · exact Nat.lt_trans low (by decide)
    · exact high
  have same (one other : Nat) : UInt8.ofNat one = UInt8.ofNat other ↔ one % 256 = other % 256 := by
    rw [← UInt8.toNat_inj, UInt8.toNat_ofNat', UInt8.toNat_ofNat']
  have below (one other : Nat) : UInt8.ofNat one < UInt8.ofNat other ↔ one % 256 < other % 256 := by
    rw [UInt8.lt_iff_toNat_lt, UInt8.toNat_ofNat', UInt8.toNat_ofNat']
  unfold String.utf8EncodeChar
  dsimp only
  generalize left.val.toNat = low, right.val.toNat = high at *
  repeat' split
  all_goals
    simp only [List.cons_append, List.nil_append, List.cons_lt_cons_iff, same, below]
    -- No byte overflows.
    simp (disch := omega) only [Nat.mod_eq_of_lt]
    omega

theorem bytes_lt_of_lt {left right : String} (less : left < right) : bytes left < bytes right := by
  have order : left.toList < right.toList := less
  rw [bytes_eq_flatMap, bytes_eq_flatMap]
  generalize left.toList = first, right.toList = second at order
  induction order with
  | @nil char rest =>
    rw [List.flatMap_nil, List.flatMap_cons]
    cases encoded : String.utf8EncodeChar char with
    | nil => exact absurd encoded String.utf8EncodeChar_ne_nil
    | cons byte others => exact List.nil_lt_cons byte _
  | rel order => exact utf8EncodeChar_append_lt order _ _
  | cons _ later => exact List.append_left_lt later

end Inquiry.Text
