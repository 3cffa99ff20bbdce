import Covenant.Collection.Membership
import Covenant.Proofs.Text.CodeOrder
import Covenant.Reference

/-!
# Lowering ASCII

Bytes lower one by one, and only ASCII capitals change (`LowersEach`). A text lowers by a rule that
looks around each capital sigma, and has characters of other lengths in lower case; none of this
comes up in a text of ASCII characters. Such a text lowers character by character and, in bytes, as
its bytes do, however it is held (`lower_agrees`).
-/
namespace Covenant

namespace Text

/-- A text of ASCII characters. -/
def IsAscii (text : String) : Prop := ∀ c ∈ text.toList, c.toNat < 0x80

instance (text : String) : Decidable (IsAscii text) :=
  decidable_of_iff (text.toList.all (·.toNat < 0x80) = true) (by simp [IsAscii])

/-- A byte is an ASCII capital. -/
def IsCapital (byte : UInt8) : Prop := 0x41 ≤ byte ∧ byte ≤ 0x5a

instance (byte : UInt8) : Decidable (IsCapital byte) := inferInstanceAs (Decidable (_ ∧ _))

/-! ### Bytes -/

/-- A capital lowers to the letter that is 32 places on. -/
theorem lowerByte_of_capital {byte : UInt8} (capital : IsCapital byte) :
    lowerByte byte = byte + 0x20 := by
  obtain ⟨from_a, to_z⟩ := capital
  simp [lowerByte, from_a, to_z]

/-- Every other byte stays as it is. -/
theorem lowerByte_of_not_capital {byte : UInt8} (other : ¬IsCapital byte) :
    lowerByte byte = byte := by
  rw [lowerByte, if_neg]
  simpa [IsCapital] using other

/-- What a byte lowers to, as a number. -/
theorem toNat_lowerByte (byte : UInt8) : (lowerByte byte).toNat =
    if 0x41 ≤ byte.toNat ∧ byte.toNat ≤ 0x5a then byte.toNat + 0x20 else byte.toNat := by
  by_cases capital : IsCapital byte
  · have bounds : 0x41 ≤ byte.toNat ∧ byte.toNat ≤ 0x5a := capital
    rw [lowerByte_of_capital capital, if_pos bounds, UInt8.toNat_add]
    exact Nat.mod_eq_of_lt (show byte.toNat + 0x20 < 256 by omega)
  · rw [lowerByte_of_not_capital capital]
    exact (if_neg capital).symm

/-- A byte that was lowered is no capital. -/
theorem not_isCapital_lowerByte (byte : UInt8) : ¬IsCapital (lowerByte byte) := by
  change ¬(0x41 ≤ (lowerByte byte).toNat ∧ (lowerByte byte).toNat ≤ 0x5a)
  rw [toNat_lowerByte]
  split <;> omega

/-- Lowering a byte again changes nothing. -/
theorem lowerByte_lowerByte (byte : UInt8) : lowerByte (lowerByte byte) = lowerByte byte :=
  lowerByte_of_not_capital (not_isCapital_lowerByte byte)

/-! ### Characters -/

/-- What an ASCII character lowers to, as a number. -/
theorem toNat_lowerAscii (c : Char) : (lowerAscii c).toNat =
    if 0x41 ≤ c.toNat ∧ c.toNat ≤ 0x5a then c.toNat + 0x20 else c.toNat := by
  by_cases capital : 'A' ≤ c ∧ c ≤ 'Z'
  · have bounds : 0x41 ≤ c.toNat ∧ c.toNat ≤ 0x5a := capital
    have valid : (c.toNat + 0x20).isValidChar := Or.inl (by omega)
    rw [lowerAscii, if_pos (by simpa using capital), if_pos bounds, Char.ofNat, dif_pos valid]
    rfl
  · rw [lowerAscii, if_neg (by simpa using capital)]
    exact (if_neg capital).symm

/-- An ASCII character stays one. -/
theorem lowerAscii_lt {c : Char} (ascii : c.toNat < 0x80) : (lowerAscii c).toNat < 0x80 := by
  rw [toNat_lowerAscii]
  split <;> omega

/-- An ASCII character lowers as its byte does. -/
theorem toUInt8_lowerAscii {c : Char} (ascii : c.toNat < 0x80) :
    (lowerAscii c).toUInt8 = lowerByte c.toUInt8 := by
  have byte_of {d : Char} (ascii : d.toNat < 0x80) : d.toUInt8.toNat = d.toNat :=
    Nat.mod_eq_of_lt (Nat.lt_trans ascii (by decide))
  rw [← UInt8.toNat_inj, toNat_lowerByte, byte_of ascii, byte_of (lowerAscii_lt ascii),
    toNat_lowerAscii]

/-- An ASCII character lowers by the ASCII rule. -/
theorem lowerChar_of_ascii {c : Char} (ascii : c.toNat < 0x80) : lowerChar c = [lowerAscii c] :=
  if_pos ascii

/-- The code of an ASCII character is its byte. -/
theorem utf8EncodeChar_of_ascii {c : Char} (ascii : c.toNat < 0x80) :
    String.utf8EncodeChar c = [c.toUInt8] := by
  have short : c.val.toNat ≤ 127 := Nat.le_of_lt_succ ascii
  rw [String.utf8EncodeChar]
  simp only [if_pos short]
  rfl

/-! ### Texts -/

/-- ASCII characters lower one by one, whatever stands before them: no capital sigma is among them
that would look for the end of its word. -/
theorem lowerAfter_of_ascii {before cs : List Char} (ascii : ∀ c ∈ cs, c.toNat < 0x80) :
    lowerAfter before cs = cs.flatMap lowerChar := by
  induction cs generalizing before with
  | nil => rfl
  | cons c rest ih =>
    obtain ⟨first, others⟩ := List.forall_mem_cons.mp ascii
    have no_sigma : c ≠ 'Σ' := by
      rintro rfl
      exact absurd first (by decide)
    rw [lowerAfter, if_neg no_sigma, ih others, List.flatMap_cons]

/-- The code of ASCII characters in lower case is their bytes in lower case. -/
theorem code_lower_of_ascii {cs : List Char} (ascii : ∀ c ∈ cs, c.toNat < 0x80) :
    (cs.flatMap lowerChar).flatMap String.utf8EncodeChar =
      (cs.flatMap String.utf8EncodeChar).map lowerByte := by
  induction cs with
  | nil => rfl
  | cons c rest ih =>
    obtain ⟨first, others⟩ := List.forall_mem_cons.mp ascii
    rw [List.flatMap_cons, List.flatMap_cons, List.flatMap_append, List.map_append, ih others,
      lowerChar_of_ascii first, List.flatMap_singleton,
      utf8EncodeChar_of_ascii (lowerAscii_lt first), utf8EncodeChar_of_ascii first,
      toUInt8_lowerAscii first, List.map_singleton]

end Text

/-- A buffer of some bytes lowers byte by byte, to a buffer of the same size in which a capital has
become the letter that is 32 places on and every other byte is as it was. Lowering that buffer again
changes nothing. -/
structure LowersEach {γ : Type} [LowercaseConvertible γ (Array UInt8)] (buffer : γ)
    (bytes : List UInt8) : Prop where
  /-- Each byte lowers by itself. -/
  each : LowercaseConvertible.lower buffer = (bytes.map LowercaseConvertible.lower).toArray
  /-- The size stays. -/
  size : (LowercaseConvertible.lower buffer).size = bytes.length
  /-- Capitals change. -/
  capital {i : Nat} {byte : UInt8} (place : bytes[i]? = some byte) (capital : Text.IsCapital byte) :
    (LowercaseConvertible.lower buffer)[i]? = some (byte + 0x20)
  /-- Other bytes stay. -/
  other {i : Nat} {byte : UInt8} (place : bytes[i]? = some byte) (other : ¬Text.IsCapital byte) :
    (LowercaseConvertible.lower buffer)[i]? = some byte
  /-- Nothing is left to lower. -/
  again : LowercaseConvertible.lower (LowercaseConvertible.lower buffer) =
    LowercaseConvertible.lower buffer

/-- What lowers each byte by itself changes the capitals and nothing else. -/
theorem LowersEach.of_each {γ : Type} [LowercaseConvertible γ (Array UInt8)] {buffer : γ}
    {bytes : List UInt8}
    (each : LowercaseConvertible.lower buffer = (bytes.map Text.lowerByte).toArray) :
    LowersEach buffer bytes where
  each := each
  size := by rw [each, List.size_toArray, List.length_map]
  capital place capital := by
    rw [each, List.getElem?_toArray, List.getElem?_map, place, Option.map_some,
      Text.lowerByte_of_capital capital]
  other place other := by
    rw [each, List.getElem?_toArray, List.getElem?_map, place, Option.map_some,
      Text.lowerByte_of_not_capital other]
  again := by
    have twice : Text.lowerByte ∘ Text.lowerByte = Text.lowerByte :=
      funext Text.lowerByte_lowerByte
    change (LowercaseConvertible.lower buffer).map Text.lowerByte = _
    rw [each, List.map_toArray, List.map_map, twice]

/-- What holds a text lowers to a text whose bytes are the bytes of the first in lower case, and
which is made of what its characters lower to. -/
structure LowersBytewise {γ : Type} [LowercaseConvertible γ String] (holder : γ) (text : String) :
    Prop where
  /-- The bytes lower. -/
  bytes : (LowercaseConvertible.lower holder).toUTF8.data =
    LowercaseConvertible.lower text.toUTF8.data
  /-- The characters lower one by one. -/
  chars : LowercaseConvertible.lower holder =
    String.join (text.toList.map LowercaseConvertible.lower)

/-- A text of ASCII characters lowers bytewise. -/
theorem LowersBytewise.of_ascii {text : String} (ascii : Text.IsAscii text) :
    LowersBytewise text text := by
  have chars : (Text.lower text).toList = text.toList.flatMap Text.lowerChar := by
    rw [Text.lower, String.toList_ofList, Text.lowerAfter_of_ascii ascii]
  constructor
  · change (Text.lower text).toUTF8.data = text.toUTF8.data.map Text.lowerByte
    apply Array.toList_inj.mp
    rw [Array.toList_map, Text.data_toUTF8, Text.data_toUTF8, chars,
      Text.code_lower_of_ascii ascii]
  · apply String.toList_inj.mp
    rw [String.toList_join, List.flatMap_map]
    exact chars.trans (List.flatMap_congr fun c _ => String.toList_ofList.symm)

/-- Bytes and ASCII texts lower alike. Bytes lower one by one, in a list as in an array: the result
is of the same size, only ASCII capitals change, and lowering it again changes nothing. A text of
ASCII characters lowers to the text whose bytes are its own bytes in lower case and which is made of
what its characters lower to, whether it is owned, shown by a slice, in a box, or lent. -/
theorem lower_agrees (bytes : List UInt8) (text : String) :
    LowersEach bytes bytes ∧ LowersEach bytes.toArray bytes ∧
      (Text.IsAscii text →
        LowersBytewise text text ∧
          (∀ slice : String.Slice, slice.copy = text → LowersBytewise slice text) ∧
          LowersBytewise (BoxedText.mk text) text ∧
          ∀ lent : LentText, lent.text = text → LowersBytewise lent text) := by
  have listed : bytes.toArray.map Text.lowerByte = (bytes.map Text.lowerByte).toArray :=
    List.map_toArray
  refine ⟨.of_each listed, .of_each listed, fun ascii => ?_⟩
  have owned := LowersBytewise.of_ascii ascii
  refine ⟨owned, ?_, ⟨owned.bytes, owned.chars⟩, ?_⟩
  · rintro slice rfl
    exact ⟨owned.bytes, owned.chars⟩
  · rintro lent rfl
    exact ⟨owned.bytes, owned.chars⟩

/-- A text with capitals at both ends of the alphabet and characters beside them, lent out; and
bytes of which some belong to a capital outside ASCII. -/
theorem lower_agrees_mixed :
    let text := "@AZ[ sAMPLE`z"
    let bytes : List UInt8 := [0x41, 0xc3, 0x80, 0x5a, 0x5b]
    Text.IsAscii text ∧
      LowercaseConvertible.lower (LentText.borrowed text.toSlice) =
        String.join (text.toList.map LowercaseConvertible.lower) ∧
      (LowercaseConvertible.lower (BoxedText.mk text)).toUTF8.data =
        LowercaseConvertible.lower text.toUTF8.data ∧
      bytes[1]? = some 0xc3 ∧ ¬Text.IsCapital 0xc3 ∧
      (LowercaseConvertible.lower bytes)[1]? = some 0xc3 ∧
      (LowercaseConvertible.lower bytes)[3]? = some 0x7a := by
  intro text bytes
  have ascii : Text.IsAscii text := by decide +kernel
  obtain ⟨each, -, holders⟩ := lower_agrees bytes text
  obtain ⟨-, -, boxed, lent⟩ := holders ascii
  have shows : (LentText.borrowed text.toSlice).text = text := String.copy_toSlice
  have fourth : bytes[3]? = some 0x5a := rfl
  exact ⟨ascii, (lent _ shows).chars, boxed.bytes, rfl, by decide, each.other rfl (by decide),
    each.capital fourth (by decide)⟩

end Covenant
