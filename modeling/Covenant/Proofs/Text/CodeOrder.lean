import Mathlib.Data.String.Basic

/-!
# The order of texts

Texts compare by the code points of their characters from the first on. In UTF-8 this is the order
of their bytes (`lt_iff_bytes_lt`): of two characters the one with the lower code point has the
lower byte where their codes first differ, though the codes may be of different lengths.
-/
namespace Covenant.Text

/-- Bytes compare as the numbers that they are made of. -/
theorem ofNat_lt_ofNat {m n : Nat} (m_byte : m < 256) (n_byte : n < 256) :
    UInt8.ofNat m < UInt8.ofNat n ↔ m < n := by
  rw [UInt8.lt_iff_toNat_lt, UInt8.toNat_ofNat', UInt8.toNat_ofNat', Nat.mod_eq_of_lt m_byte,
    Nat.mod_eq_of_lt n_byte]

/-- Bytes are the same if the numbers that they are made of are. -/
theorem ofNat_eq_ofNat {m n : Nat} (m_byte : m < 256) (n_byte : n < 256) :
    UInt8.ofNat m = UInt8.ofNat n ↔ m = n := by
  rw [← UInt8.toNat_inj, UInt8.toNat_ofNat', UInt8.toNat_ofNat', Nat.mod_eq_of_lt m_byte,
    Nat.mod_eq_of_lt n_byte]

/-- The codes of two characters differ in a byte, and there the lower character has the lower
one. -/
theorem utf8EncodeChar_append_lt {c d : Char} (below : c < d) (left right : List UInt8) :
    String.utf8EncodeChar c ++ left < String.utf8EncodeChar d ++ right := by
  have order : c.val.toNat < d.val.toNat := below
  have c_bound : c.val.toNat < 1114112 := by
    rcases c.valid with low | high <;> omega
  have d_bound : d.val.toNat < 1114112 := by
    rcases d.valid with low | high <;> omega
  unfold String.utf8EncodeChar
  generalize c.val.toNat = m at *
  generalize d.val.toNat = n at *
  -- The four digits in base 64 decide one after another; the leading one is small.
  have last : m / 64 < n / 64 ∨ m / 64 = n / 64 ∧ m % 64 < n % 64 := by omega
  have third : m / 4096 < n / 4096 ∨ m / 4096 = n / 4096 ∧ m / 64 % 64 ≤ n / 64 % 64 := by omega
  have second : m / 262144 < n / 262144 ∨
      m / 262144 = n / 262144 ∧ m / 4096 % 64 ≤ n / 4096 % 64 := by omega
  have first : m / 262144 % 8 = m / 262144 ∧ n / 262144 % 8 = n / 262144 := by omega
  dsimp only
  split_ifs
  all_goals
    first
    | omega
    | simp (disch := omega) only [List.cons_append, List.nil_append, List.cons_lt_cons_iff,
        ofNat_lt_ofNat, ofNat_eq_ofNat]
      omega

/-- Characters in order are in the order of their bytes. -/
theorem flatMap_utf8EncodeChar_lt {left right : List Char} (below : left < right) :
    left.flatMap String.utf8EncodeChar < right.flatMap String.utf8EncodeChar := by
  induction below with
  | @nil c rest =>
    rw [List.flatMap_nil, List.flatMap_cons]
    cases code : String.utf8EncodeChar c with
    | nil => exact absurd code String.utf8EncodeChar_ne_nil
    | cons byte bytes => exact .nil
  | rel below => exact utf8EncodeChar_append_lt below _ _
  | cons _ ih =>
    rw [List.flatMap_cons, List.flatMap_cons]
    exact List.append_left_lt ih

/-- The bytes of a text are those of its characters one after another. -/
theorem data_toUTF8 (text : String) :
    text.toUTF8.data.toList = text.toList.flatMap String.utf8EncodeChar := by
  conv_lhs => rw [← String.ofList_toList (s := text)]
  rw [String.toUTF8, String.toByteArray_ofList, List.utf8Encode, List.data_toByteArray]

/-- Texts compare as the bytes of their UTF-8 form. -/
theorem lt_iff_bytes_lt {left right : String} :
    left < right ↔ left.toUTF8.data.toList < right.toUTF8.data.toList := by
  rw [data_toUTF8, data_toUTF8, String.lt_iff]
  refine ⟨flatMap_utf8EncodeChar_lt, fun below => ?_⟩
  rcases lt_trichotomy left.toList right.toList with before | same | after
  · exact before
  · rw [same] at below
    exact absurd below (List.lt_irrefl _)
  · exact absurd below (List.lt_asymm (flatMap_utf8EncodeChar_lt after))

end Covenant.Text
