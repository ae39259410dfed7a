import Mathlib.Data.Nat.Digits.Lemmas

namespace StellarConduit.Data

/-! Fields written one after the other without a length: fixed-width words in
little-endian order, and texts in UTF-8. Words determine their bytes and back;
texts only do so together with the place where they end. -/

namespace ByteLayout

/-! Texts. -/

theorem toList_loop (bytes : ByteArray) (position : Nat)
    (before : List UInt8) :
    ByteArray.toList.loop bytes position before =
      before.reverse ++ bytes.data.toList.drop position := by
  fun_induction ByteArray.toList.loop bytes position before with
  | case1 position before inside induction =>
      have bound : position < bytes.data.toList.length := by
        simpa using inside
      have read : bytes.get! position = bytes.data.toList[position] := by
        rw [Array.getElem_toList]
        exact getElem!_pos bytes.data position (by simpa using inside)
      rw [induction, List.drop_eq_getElem_cons bound, read]
      simp
  | case2 position before outside =>
      rw [List.drop_eq_nil_of_le (by simpa using Nat.le_of_not_lt outside)]
      simp

theorem toList_eq (bytes : ByteArray) :
    bytes.toList = bytes.data.toList := by
  rw [ByteArray.toList, toList_loop]
  simp

theorem toList_injective {first second : ByteArray}
    (same : first.toList = second.toList) : first = second := by
  rw [toList_eq, toList_eq, Array.toList_inj] at same
  exact ByteArray.ext same

theorem utf8_injective {first second : String}
    (same : first.toUTF8.toList = second.toUTF8.toList) : first = second :=
  String.toByteArray_inj.mp (toList_injective same)

theorem utf8_append (front back : String) :
    (front ++ back).toUTF8.toList =
      front.toUTF8.toList ++ back.toUTF8.toList := by
  simp only [String.toUTF8_eq_toByteArray, String.toByteArray_append,
    toList_eq, ByteArray.data_append, Array.toList_append]

theorem utf8_of_joined {first second third fourth : String}
    (joined : first ++ second = third ++ fourth) :
    first.toUTF8.toList ++ second.toUTF8.toList =
      third.toUTF8.toList ++ fourth.toUTF8.toList := by
  rw [← utf8_append, ← utf8_append, joined]

theorem length_utf8 (text : String) :
    text.toUTF8.toList.length = text.utf8ByteSize := by
  rw [toList_eq, Array.length_toList]
  rfl

theorem utf8_eq_nil {text : String} :
    text.toUTF8.toList = [] ↔ text = "" := by
  rw [← List.length_eq_zero_iff, length_utf8, String.utf8ByteSize_eq_zero_iff]

theorem utf8_eq_flatMap (text : String) :
    text.toUTF8.toList = text.toList.flatMap String.utf8EncodeChar := by
  rw [toList_eq, String.toUTF8_eq_toByteArray, ← String.utf8Encode_toList,
    List.utf8Encode, List.toList_data_toByteArray]

theorem ofNat_ne_zero {value : Nat} (positive : 0 < value)
    (small : value < 256) : UInt8.ofNat value ≠ 0 := by
  intro zero
  have same := congrArg UInt8.toNat zero
  rw [UInt8.toNat_ofNat_of_lt' small] at same
  exact positive.ne' same

theorem utf8EncodeChar_ne_zero {c : Char} (nonzero : c ≠ '\x00') :
    ∀ byte ∈ String.utf8EncodeChar c, byte ≠ 0 := by
  have positive : c.val.toNat ≠ 0 := by
    intro zero
    exact nonzero (Char.toNat_inj.mp zero)
  fun_cases String.utf8EncodeChar c with
  | case1 value short =>
      rw [List.forall_mem_singleton]
      exact ofNat_ne_zero (by omega) (by omega)
  | case2 value large short =>
      simp only [List.forall_mem_cons]
      exact ⟨ofNat_ne_zero (by omega) (by omega),
        ofNat_ne_zero (by omega) (by omega), List.forall_mem_nil _⟩
  | case3 value large larger short =>
      simp only [List.forall_mem_cons]
      exact ⟨ofNat_ne_zero (by omega) (by omega),
        ofNat_ne_zero (by omega) (by omega),
        ofNat_ne_zero (by omega) (by omega), List.forall_mem_nil _⟩
  | case4 value large larger largest =>
      simp only [List.forall_mem_cons]
      exact ⟨ofNat_ne_zero (by omega) (by omega),
        ofNat_ne_zero (by omega) (by omega),
        ofNat_ne_zero (by omega) (by omega),
        ofNat_ne_zero (by omega) (by omega), List.forall_mem_nil _⟩

/-- Only the character zero has a byte zero. -/
theorem zero_not_mem_utf8 {text : String}
    (nonzero : '\x00' ∉ text.toList) : 0 ∉ text.toUTF8.toList := by
  rw [utf8_eq_flatMap, List.mem_flatMap]
  rintro ⟨c, member, zero⟩
  have other : c ≠ '\x00' := by
    rintro rfl
    exact nonzero member
  exact utf8EncodeChar_ne_zero other 0 zero rfl

/-- A place in the bytes of a text where a character starts. -/
theorem exists_split_of_isValid {whole : String} {front back : List UInt8}
    (cut : whole.toUTF8.toList = front ++ back)
    (boundary : (⟨front.length⟩ : String.Pos.Raw).IsValid whole) :
    ∃ left right, whole = left ++ right ∧ left.toUTF8.toList = front ∧
      right.toUTF8.toList = back := by
  obtain ⟨left, right, rfl, place⟩ :=
    String.Pos.Raw.isValid_iff_exists_append.mp boundary
  have long : left.toUTF8.toList.length = front.length := by
    rw [length_utf8]
    exact (congrArg String.Pos.Raw.byteIdx place).symm
  rw [utf8_append] at cut
  obtain ⟨fronts, backs⟩ := List.append_inj cut long
  exact ⟨left, right, rfl, fronts, backs⟩

theorem isValid_of_prefix {whole front : String} {back : List UInt8}
    (cut : whole.toUTF8.toList = front.toUTF8.toList ++ back) :
    (⟨front.utf8ByteSize⟩ : String.Pos.Raw).IsValid whole := by
  have bytes : whole.toByteArray =
      front.toByteArray ++ back.toByteArray := by
    apply toList_injective
    simpa only [String.toUTF8_eq_toByteArray, toList_eq,
      ByteArray.data_append, Array.toList_append,
      List.toList_data_toByteArray] using cut
  apply String.Pos.Raw.isValid_iff_isValidUTF8_extract_zero.mpr
  constructor
  · rw [String.Pos.Raw.le_iff, String.byteIdx_rawEndPos,
      ← String.size_toByteArray (s := whole), bytes, ByteArray.size_append]
    exact Nat.le_add_right _ _
  · have first : (front.toByteArray ++ back.toByteArray).extract 0
        front.utf8ByteSize = front.toByteArray :=
      ByteArray.extract_append_eq_left rfl
    rw [bytes, first]
    exact front.isValidUTF8

/-- A text that starts with the bytes of another starts with its
characters. -/
theorem exists_append_of_prefix {whole front : String} {back : List UInt8}
    (cut : whole.toUTF8.toList = front.toUTF8.toList ++ back) :
    ∃ rest : String, whole = front ++ rest ∧ rest.toUTF8.toList = back := by
  obtain ⟨left, right, rfl, fronts, backs⟩ := exists_split_of_isValid cut
    (by rw [length_utf8]; exact isValid_of_prefix cut)
  obtain rfl := utf8_injective fronts
  exact ⟨right, rfl, backs⟩

theorem getUTF8Byte_of_cut {whole : String} {front back : List UInt8}
    {byte : UInt8} (cut : whole.toUTF8.toList = front ++ byte :: back)
    (inside : (⟨front.length⟩ : String.Pos.Raw) < whole.rawEndPos) :
    whole.getUTF8Byte ⟨front.length⟩ inside = byte := by
  rw [String.getUTF8Byte, ByteArray.getElem_eq_getElem_data,
    ← Array.getElem_toList]
  have data : whole.toByteArray.data.toList = front ++ byte :: back := by
    rw [← toList_eq]
    exact cut
  simp only [data]
  simp

/-- The bytes that end one text and start another end it at a character. -/
theorem exists_split_of_shared {whole other : String}
    {front shared rest : List UInt8}
    (ends : whole.toUTF8.toList = front ++ shared)
    (starts : other.toUTF8.toList = shared ++ rest) :
    ∃ left right, whole = left ++ right ∧ left.toUTF8.toList = front ∧
      right.toUTF8.toList = shared := by
  apply exists_split_of_isValid ends
  apply String.Pos.Raw.isValid_iff_isUTF8FirstByte.mpr
  have size : whole.utf8ByteSize = front.length + shared.length := by
    rw [← length_utf8, ends, List.length_append]
  cases shared with
  | nil =>
      left
      apply String.Pos.Raw.ext
      simpa using size.symm
  | cons first shared =>
      right
      have inside : front.length < whole.utf8ByteSize := by
        rw [size, List.length_cons]
        omega
      refine ⟨inside, ?_⟩
      rw [getUTF8Byte_of_cut ends inside]
      have opened : (0 : String.Pos.Raw) < other.rawEndPos := by
        have long := congrArg List.length starts
        rw [length_utf8, List.cons_append, List.length_cons] at long
        rw [String.Pos.Raw.lt_iff, String.byteIdx_rawEndPos, long]
        exact Nat.succ_pos _
      have opening : other.toUTF8.toList = [] ++ first :: (shared ++ rest) :=
        starts
      have head : other.getUTF8Byte 0 opened = first :=
        getUTF8Byte_of_cut opening opened
      rw [← head]
      exact String.isUTF8FirstByte_getUTF8Byte_zero

/-! Words. -/

/-- The number with these little-endian digits. -/
def word (bytes : List UInt8) : Nat :=
  Nat.ofDigits 256 (bytes.map UInt8.toNat)

@[simp] theorem word_nil : word [] = 0 := rfl

theorem word_cons (byte : UInt8) (bytes : List UInt8) :
    word (byte :: bytes) = byte.toNat + 256 * word bytes :=
  Nat.ofDigits_cons

theorem word_lt (bytes : List UInt8) : word bytes < 256 ^ bytes.length := by
  induction bytes with
  | nil => simp
  | cons byte bytes induction =>
      have digit := byte.toNat_lt
      rw [word_cons, List.length_cons, pow_succ]
      omega

theorem word_injective {first second : List UInt8}
    (long : first.length = second.length)
    (same : word first = word second) : first = second := by
  induction first generalizing second with
  | nil => exact (List.eq_nil_of_length_eq_zero long.symm).symm
  | cons byte first induction =>
      cases second with
      | nil => cases long
      | cons other second =>
          rw [word_cons, word_cons] at same
          have digit := byte.toNat_lt
          have digit' := other.toNat_lt
          have bytes : byte = other := UInt8.toNat_inj.mp (by omega)
          rw [bytes, induction (Nat.succ.inj long) (by omega)]

/-- The digits of a value are those of its residue. -/
theorem word_digits (value width : Nat) :
    word ((List.range width).map fun position =>
      UInt8.ofNat (value / 256 ^ position)) = value % 256 ^ width := by
  induction width generalizing value with
  | zero => simp [Nat.mod_one]
  | succ width induction =>
      have shifted : (List.range width).map ((fun position =>
            UInt8.ofNat (value / 256 ^ position)) ∘ Nat.succ) =
          (List.range width).map fun position =>
            UInt8.ofNat (value / 256 / 256 ^ position) := by
        apply List.map_congr_left
        intro position _
        rw [Function.comp_apply, Nat.div_div_eq_div_mul, ← pow_succ']
      rw [List.range_succ_eq_map, List.map_cons, List.map_map, word_cons,
        shifted, induction, pow_succ', Nat.mod_mul]
      simp

end ByteLayout

end StellarConduit.Data
