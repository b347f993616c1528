import Mathlib.Data.String.Basic
import Inquiry.Proofs.Text.ByteOrder
import Inquiry.Token.Lexer

set_option autoImplicit false

namespace Inquiry

def encode (text : List Char) : List UInt8 := text.flatMap String.utf8EncodeChar

@[simp] theorem encode_nil : encode [] = [] := rfl

@[simp] theorem encode_cons (char : Char) (rest : List Char) :
    encode (char :: rest) = String.utf8EncodeChar char ++ encode rest := rfl

@[simp] theorem encode_append (first second : List Char) :
    encode (first ++ second) = encode first ++ encode second := by
  simp [encode]

theorem length_encode (text : List Char) : (encode text).length = byteLength text := by
  induction text with
  | nil => rfl
  | cons char rest ih => simp [← ih, String.length_utf8EncodeChar]

theorem utf8Len_eq (text : List Char) : String.utf8Len text = byteLength text := by
  induction text with
  | nil => rfl
  | cons char rest ih => rw [String.utf8Len_cons, ih, byteLength_cons, Nat.add_comm]

theorem utf8Size_of_ascii {char : Char} (ascii : char.toNat < 128) : char.utf8Size = 1 := by
  rw [Char.utf8Size_eq_one_iff]
  exact Nat.le_of_lt_succ ascii

theorem byteLength_concat (before : List Char) {char : Char} (ascii : char.toNat < 128) :
    byteLength (before ++ [char]) = byteLength before + 1 := by
  rw [byteLength_append, byteLength_cons, utf8Size_of_ascii ascii, byteLength_nil]

theorem utf8EncodeChar_of_ascii {char : Char} (ascii : char.toNat < 128) :
    String.utf8EncodeChar char = [char.toUInt8] :=
  String.utf8EncodeChar_eq_singleton (utf8Size_of_ascii ascii)

theorem foreign_of_mem_utf8EncodeChar {char : Char} (foreign : 128 ≤ char.toNat) {byte : UInt8}
    (member : byte ∈ String.utf8EncodeChar char) : 128 ≤ byte := by
  have order : 128 ≤ char.val.toNat := foreign
  change 128 ≤ byte.toNat
  unfold String.utf8EncodeChar at member
  dsimp only at member
  generalize char.val.toNat = code at *
  repeat' split at member
  all_goals
    simp only [List.mem_cons, List.not_mem_nil, or_false] at member
    rcases member with rfl | rfl | rfl | rfl <;> simp only [UInt8.toNat_ofNat'] <;> omega

namespace Lexer

theorem byteAt?_eq (lexer : Lexer) (offset : Nat) :
    lexer.byteAt? offset = (encode lexer.source.toList)[offset]? := by
  have bytes : encode lexer.source.toList = lexer.source.toByteArray.data.toList :=
    (Text.bytes_eq_flatMap lexer.source).symm
  rw [byteAt?, bytes]
  by_cases inside : (⟨offset⟩ : String.Pos.Raw) < lexer.source.rawEndPos
  · have bound : offset < lexer.source.toByteArray.data.toList.length := inside
    rw [dif_pos inside, List.getElem?_eq_getElem bound]
    rfl
  · have bound : ¬ offset < lexer.source.toByteArray.data.toList.length := inside
    rw [dif_neg inside, List.getElem?_eq_none (Nat.not_lt.mp bound)]

theorem size_eq (lexer : Lexer) : lexer.size = byteLength lexer.source.toList := by
  rw [size, ← utf8Len_eq, ← String.utf8ByteSize_ofList, String.ofList_toList]

section

variable {lexer : Lexer} {before after : List Char}

theorem byteAt?_of_split (split : lexer.source.toList = before ++ after) (ahead : Nat) :
    lexer.byteAt? (byteLength before + ahead) = (encode after)[ahead]? := by
  rw [byteAt?_eq, split, encode_append, ← length_encode before,
    List.getElem?_append_right (Nat.le_add_right _ _), Nat.add_sub_cancel_left]

theorem byteAt?_end (split : lexer.source.toList = before) :
    lexer.byteAt? (byteLength before) = none :=
  byteAt?_of_split (split.trans (List.append_nil before).symm) 0

theorem byteAt?_ascii {char : Char} (ascii : char.toNat < 128)
    (split : lexer.source.toList = before ++ char :: after) :
    lexer.byteAt? (byteLength before) = some char.toUInt8 := by
  have found := byteAt?_of_split split 0
  rwa [encode_cons, utf8EncodeChar_of_ascii ascii] at found

theorem byteAt?_foreign {char : Char} (foreign : 128 ≤ char.toNat)
    (split : lexer.source.toList = before ++ char :: after) {ahead : Nat}
    (inside : ahead < char.utf8Size) :
    ∃ byte, lexer.byteAt? (byteLength before + ahead) = some byte ∧ 128 ≤ byte := by
  have bound : ahead < (String.utf8EncodeChar char).length := by
    rwa [String.length_utf8EncodeChar]
  refine ⟨(String.utf8EncodeChar char)[ahead], ?_,
    foreign_of_mem_utf8EncodeChar foreign (List.getElem_mem bound)⟩
  rw [byteAt?_of_split split, encode_cons, List.getElem?_append_left bound,
    List.getElem?_eq_getElem bound]

theorem source_eq (split : lexer.source.toList = before ++ after) :
    lexer.source = String.ofList (before ++ after) := by
  rw [← split, String.ofList_toList]

theorem isBoundary_of_split (split : lexer.source.toList = before ++ after) :
    lexer.isBoundary (byteLength before) = true := by
  rw [isBoundary, String.Pos.Raw.isValid_eq_true_iff, String.Pos.Raw.isValid_iff_exists_append]
  refine ⟨String.ofList before, String.ofList after, ?_, ?_⟩
  · rw [source_eq split, String.ofList_append]
  · rw [String.rawEndPos_ofList, utf8Len_eq]

theorem slice?_of_split {text : List Char} (split : lexer.source.toList = before ++ text ++ after) :
    lexer.slice? (byteLength before) (byteLength (before ++ text)) = some (String.ofList text) := by
  have start := isBoundary_of_split (split.trans (List.append_assoc before text after))
  have stop := isBoundary_of_split split
  have cut := String.extract_of_valid before text after
  rw [← source_eq split, ← String.utf8Len_append, utf8Len_eq, utf8Len_eq] at cut
  rw [slice?, if_pos ⟨by simp, start, stop⟩, cut]

theorem charAt?_end (split : lexer.source.toList = before) :
    lexer.charAt? (byteLength before) = some none := by
  rw [charAt?, if_pos (by rw [size_eq, split])]

theorem charAt?_of_split {char : Char} (split : lexer.source.toList = before ++ char :: after) :
    lexer.charAt? (byteLength before) = some (some char) := by
  have inside : byteLength before ≠ lexer.size := by
    have wide := char.utf8Size_pos
    simp only [size_eq, split, byteLength_append, byteLength_cons]
    omega
  have found := String.get_of_valid before (char :: after)
  rw [← source_eq split, utf8Len_eq] at found
  rw [charAt?, if_neg inside, if_pos (isBoundary_of_split split), found]
  rfl

end

end Lexer

end Inquiry
