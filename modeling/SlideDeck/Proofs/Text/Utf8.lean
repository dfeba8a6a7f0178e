import SlideDeck.Text.Encoding
import Mathlib.Tactic.IntervalCases

/-!
# Text as UTF-8 and back

Every character has bytes of its own that no other bytes can be confused with: the lead byte says how
many follow, and the reader takes just these (`utf8From_char`).

**The law** (`decodeUtf8_toUTF8`): the bytes of a text are read as the text.
-/

namespace SlideDeck.Text

/-- A character has the code of no surrogate. -/
theorem code_bounds (c : Char) : c.toNat < 0xd800 ∨ (0xdfff < c.toNat ∧ c.toNat < 0x110000) :=
  c.valid

/-! ## Lead bytes -/

theorem lead?_two {n : Nat} (low : 2 ≤ n) (high : n < 32) :
    lead? (n + 0xc0) = some ⟨n, 0x80, 0xbf, 0⟩ := by
  rw [lead?, if_pos (by omega),
    Nat.add_sub_cancel]

theorem lead?_three {n : Nat} (high : n < 16) :
    lead? (n + 0xe0) =
      some ⟨n, if n = 0 then 0xa0 else 0x80, if n = 0xd then 0x9f else 0xbf, 1⟩ := by
  interval_cases n <;> rfl

theorem lead?_four {n : Nat} (high : n ≤ 4) :
    lead? (n + 0xf0) =
      some ⟨n, if n = 0 then 0x90 else 0x80, if n = 4 then 0x8f else 0xbf, 2⟩ := by
  interval_cases n <;> rfl

/-- One more byte of a character. -/
theorem readMore_succ (more count code : Nat) {n : Nat} (h : n < 64) (bytes : List UInt8) :
    readMore (more + 1) count code (UInt8.ofNat (n + 0x80) :: bytes) =
      readMore more (count + 1) (64 * code + n) bytes := by
  rw [readMore, UInt8.toNat_ofNat', Nat.mod_eq_of_lt (by omega), if_pos (by omega),
    Nat.add_sub_cancel]

/-- The byte after the lead byte. -/
theorem readTail_cons (lead : Lead) {n : Nat} (h : n < 64) (low : lead.low ≤ n + 0x80)
    (high : n + 0x80 ≤ lead.high) (bytes : List UInt8) :
    readTail lead (UInt8.ofNat (n + 0x80) :: bytes) =
      readMore lead.more 2 (64 * lead.bits + n) bytes := by
  rw [readTail, UInt8.toNat_ofNat', Nat.mod_eq_of_lt (by omega), if_pos ⟨low, high⟩,
    Nat.add_sub_cancel]

/-! ## Characters -/

/-- The bytes of a character are read as the character. -/
theorem utf8From_char (fuel place : Nat) (c : Char) (rest : List UInt8) :
    ∃ place', utf8From (fuel + 1) place (String.utf8EncodeChar c ++ rest) =
      (utf8From fuel place' rest).map (c :: ·) := by
  have bounds := code_bounds c
  have itself : Char.ofNat c.toNat = c := Char.ofNat_toNat c
  unfold String.utf8EncodeChar
  simp only [Char.toNat_val]
  generalize c.toNat = v at bounds itself ⊢
  split
  · -- One byte.
    rename_i small
    refine ⟨place + 1, ?_⟩
    rw [List.cons_append, List.nil_append, utf8From, UInt8.toNat_ofNat', Nat.mod_eq_of_lt (by omega),
      if_pos (by omega), itself]
  split
  · -- Two bytes.
    rename_i small
    refine ⟨place + 2 + 0, ?_⟩
    simp only [List.cons_append, List.nil_append]
    rw [utf8From, UInt8.toNat_ofNat', Nat.mod_eq_of_lt (by omega), if_neg (by omega),
      lead?_two (by omega) (by omega)]
    simp only
    rw [readTail_cons _ (by omega) (by simp) (by simp; omega)]
    simp only [readMore]
    rw [show 64 * (v / 64 % 32) + v % 64 = v by omega, itself]
  split
  · -- Three bytes.
    rename_i small
    refine ⟨place + 2 + 1, ?_⟩
    simp only [List.cons_append, List.nil_append]
    rw [utf8From, UInt8.toNat_ofNat', Nat.mod_eq_of_lt (by omega), if_neg (by omega),
      lead?_three (by omega)]
    simp only
    rw [readTail_cons _ (by omega) (by simp only; split <;> omega)
      (by simp only; split <;> omega), readMore_succ _ _ _ (by omega)]
    simp only [readMore]
    rw [show 64 * (64 * (v / 4096 % 16) + v / 64 % 64) + v % 64 = v by omega, itself]
  · -- Four bytes.
    refine ⟨place + 2 + 2, ?_⟩
    simp only [List.cons_append, List.nil_append]
    rw [utf8From, UInt8.toNat_ofNat', Nat.mod_eq_of_lt (by omega), if_neg (by omega),
      lead?_four (by omega)]
    simp only
    rw [readTail_cons _ (by omega) (by simp only; split <;> omega)
      (by simp only; split <;> omega), readMore_succ _ _ _ (by omega),
      readMore_succ _ _ _ (by omega)]
    simp only [readMore]
    rw [show 64 * (64 * (64 * (v / 262144 % 8) + v / 4096 % 64) + v / 64 % 64) + v % 64 = v by
      omega, itself]

/-! ## The law -/

theorem utf8From_chars (cs : List Char) (fuel place : Nat) (enough : cs.length ≤ fuel) :
    utf8From fuel place (cs.flatMap String.utf8EncodeChar) = .ok cs := by
  induction cs generalizing fuel place with
  | nil => rw [List.flatMap_nil, utf8From.eq_def]
  | cons c cs ih =>
    obtain ⟨fuel, rfl⟩ : ∃ less, fuel = less + 1 := Nat.exists_eq_succ_of_ne_zero (by
      rw [List.length_cons] at enough
      omega)
    obtain ⟨place', first⟩ := utf8From_char fuel place c (cs.flatMap String.utf8EncodeChar)
    rw [List.flatMap_cons, first, ih fuel place' (Nat.le_of_succ_le_succ enough)]
    rfl

/-- The list of an array of bytes, from an index on. -/
theorem toList_loop (bytes : ByteArray) (i : Nat) (before : List UInt8) :
    ByteArray.toList.loop bytes i before = before.reverse ++ bytes.data.toList.drop i := by
  fun_induction ByteArray.toList.loop bytes i before with
  | case1 i before inside ih =>
    have place : i < bytes.data.toList.length := inside
    rw [ih, List.drop_eq_getElem_cons place, List.reverse_cons, List.append_assoc,
      List.singleton_append]
    simp [ByteArray.get!, inside]
  | case2 i before outside =>
    have none_ : bytes.data.toList.length ≤ i := Nat.le_of_not_lt outside
    rw [List.drop_eq_nil_of_le none_, List.append_nil]

/-- The bytes of a text are those of its characters. -/
theorem toUTF8_eq (text : String) :
    text.toUTF8.toList = text.toList.flatMap String.utf8EncodeChar := by
  have bytes : text.toUTF8 = text.toList.utf8Encode := by
    rw [← String.toByteArray_ofList, String.ofList_toList, String.toUTF8_eq_toByteArray]
  rw [bytes, ByteArray.toList, toList_loop, List.reverse_nil, List.nil_append, List.drop_zero,
    List.utf8Encode, List.toList_data_toByteArray]

/-- **The bytes of a text are read as the text.** -/
theorem decodeUtf8_toUTF8 (text : String) : decodeUtf8 text.toUTF8.toList = .ok text.toList := by
  have enough : text.toList.length ≤ text.toUTF8.toList.length := by
    rw [toUTF8_eq]
    induction text.toList with
    | nil => exact Nat.le_refl 0
    | cons c cs ih =>
      have one : 1 ≤ (String.utf8EncodeChar c).length := by
        rw [String.length_utf8EncodeChar]
        exact c.utf8Size_pos
      rw [List.flatMap_cons, List.length_append, List.length_cons]
      omega
  rw [decodeUtf8]
  rw [toUTF8_eq] at enough ⊢
  exact utf8From_chars text.toList _ 0 enough

end SlideDeck.Text
