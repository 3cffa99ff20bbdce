import Covenant.Collection.Membership
import Covenant.Proofs.Text.CodeOrder
import Covenant.Reference
import Mathlib.Data.List.Infix

/-!
# Texts in texts

A text holds another one exactly if that one stands somewhere between two others
(`Text.contains_iff`). It makes no difference that texts are stored as bytes, with characters of
different lengths: bytes of one text in a row among those of another are whole characters
(`Text.contains_iff_bytes`), because the first byte of a character is told from its other bytes. All
forms that a text may come in answer alike (`AnswersAs`).
-/
namespace Covenant

namespace Text

variable {text part inner : String}

/-- Characters are found exactly if they are a stretch of the others. -/
theorem occursIn_iff_isInfix {part cs : List Char} : occursIn part cs = true ↔ part <:+: cs := by
  induction cs with
  | nil => rw [occursIn, List.isEmpty_iff, List.infix_nil]
  | cons c rest ih =>
    rw [occursIn, Bool.or_eq_true, ih, List.isPrefixOf_iff_prefix, List.infix_cons_iff]

/-- The characters of a text that is held are a stretch of the others. -/
theorem contains_iff_isInfix : contains text part = true ↔ part.toList <:+: text.toList :=
  occursIn_iff_isInfix

/-- A text is held exactly if it stands between two others. -/
theorem contains_iff :
    contains text part = true ↔ ∃ before after, text = before ++ part ++ after := by
  rw [contains_iff_isInfix]
  constructor
  · rintro ⟨before, after, whole⟩
    refine ⟨.ofList before, .ofList after, String.toList_inj.mp ?_⟩
    rw [String.toList_append, String.toList_append, String.toList_ofList, String.toList_ofList,
      whole]
  · rintro ⟨before, after, rfl⟩
    refine ⟨before.toList, after.toList, ?_⟩
    rw [String.toList_append, String.toList_append]

/-- The empty text is held by all texts. -/
theorem contains_empty (text : String) : contains text "" = true :=
  contains_iff_isInfix.mpr List.nil_infix

/-- What a text that is held holds is held. -/
theorem contains_trans (holds : contains text part = true) (holds' : contains part inner = true) :
    contains text inner = true :=
  contains_iff_isInfix.mpr ((contains_iff_isInfix.mp holds').trans (contains_iff_isInfix.mp holds))

/-- A text has no fewer characters than a text that it holds. -/
theorem size_le_size (holds : contains text part = true) : size part ≤ size text :=
  (contains_iff_isInfix.mp holds).length_le

/-- A character is held exactly if the text of it alone is. -/
theorem containsChar_eq (text : String) (c : Char) :
    containsChar text c = contains text (String.singleton c) := by
  rw [Bool.eq_iff_iff, contains_iff_isInfix, String.toList_singleton, List.singleton_infix_iff]
  exact List.contains_iff_mem

/-! ### Bytes -/

/-- Bytes begin with the code of one character only. -/
theorem eq_of_utf8EncodeChar_append {c d : Char} {rest rest' : List UInt8}
    (same : String.utf8EncodeChar c ++ rest = String.utf8EncodeChar d ++ rest') : c = d := by
  rcases lt_trichotomy c d with below | equal | above
  · exact absurd (same ▸ utf8EncodeChar_append_lt below rest rest') (List.lt_irrefl _)
  · exact equal
  · exact absurd (same ▸ utf8EncodeChar_append_lt above rest' rest) (List.lt_irrefl _)

/-- Characters whose bytes come first among the bytes of others come first among the others. -/
theorem isPrefix_of_bytes {part cs : List Char}
    (bytes : part.flatMap String.utf8EncodeChar <+: cs.flatMap String.utf8EncodeChar) :
    part <+: cs := by
  induction part generalizing cs with
  | nil => exact List.nil_prefix
  | cons c part ih =>
    obtain ⟨after, same⟩ := bytes
    rw [List.flatMap_cons, List.append_assoc] at same
    cases cs with
    | nil => exact absurd (List.append_eq_nil_iff.mp same).1 String.utf8EncodeChar_ne_nil
    | cons d cs =>
      rw [List.flatMap_cons] at same
      obtain rfl := eq_of_utf8EncodeChar_append same
      exact List.cons_prefix_cons.mpr ⟨rfl, ih ⟨after, List.append_cancel_left same⟩⟩

/-- The code of a character starts inside the code of another one only at its first byte. -/
theorem eq_nil_of_utf8EncodeChar_eq_append {c d : Char} {before inside after rest : List UInt8}
    (code : String.utf8EncodeChar d = before ++ inside) (some_inside : inside ≠ [])
    (same : String.utf8EncodeChar c ++ rest = inside ++ after) : before = [] := by
  obtain ⟨byte, inside, rfl⟩ := List.exists_cons_of_ne_nil some_inside
  have first : byte.IsUTF8FirstByte := by
    have start := UInt8.isUTF8FirstByte_getElem_zero_utf8EncodeChar (c := c)
    cases code' : String.utf8EncodeChar c with
    | nil => exact absurd code' String.utf8EncodeChar_ne_nil
    | cons byte' bytes =>
      rw [code', List.cons_append, List.cons_append] at same
      simp only [code', List.getElem_cons_zero] at start
      rwa [(List.cons.inj same).1] at start
  have place : before.length < (String.utf8EncodeChar d).length := by
    rw [code, List.length_append, List.length_cons]
    omega
  have found : (String.utf8EncodeChar d)[before.length] = byte := by
    simp only [code, List.getElem_append_right, Nat.le_refl, Nat.sub_self, List.getElem_cons_zero]
  rw [← found, UInt8.isUTF8FirstByte_getElem_utf8EncodeChar] at first
  exact List.eq_nil_of_length_eq_zero first

/-- Characters whose bytes are a stretch of the bytes of others are a stretch of the others. -/
theorem isInfix_of_bytes {part cs : List Char}
    (bytes : part.flatMap String.utf8EncodeChar <:+: cs.flatMap String.utf8EncodeChar) :
    part <:+: cs := by
  cases part with
  | nil => exact List.nil_infix
  | cons c part =>
    induction cs with
    | nil =>
      rw [List.flatMap_nil, List.infix_nil, List.flatMap_cons] at bytes
      exact absurd (List.append_eq_nil_iff.mp bytes).1 String.utf8EncodeChar_ne_nil
    | cons d cs ih =>
      obtain ⟨before, after, same⟩ := bytes
      rw [List.append_assoc, List.flatMap_cons (x := d)] at same
      rcases List.append_eq_append_iff.mp same with ⟨inside, code, rest⟩ | ⟨before', rfl, rest⟩
      · by_cases none_inside : inside = []
        · rw [none_inside, List.nil_append] at rest
          exact List.infix_cons (ih ⟨[], after, by rw [List.nil_append, rest]⟩)
        · -- The stretch starts inside the first character, so it starts with it.
          have start : before = [] :=
            eq_nil_of_utf8EncodeChar_eq_append code none_inside (by
              rw [← rest, List.flatMap_cons, List.append_assoc])
          rw [start, List.nil_append, ← List.flatMap_cons] at same
          exact (isPrefix_of_bytes ⟨after, same⟩).isInfix
      · exact List.infix_cons (ih ⟨before', after, by rw [List.append_assoc, rest]⟩)

/-- A text is held exactly if its bytes are a stretch of the other's bytes. -/
theorem contains_iff_bytes :
    contains text part = true ↔ part.toUTF8.data.toList <:+: text.toUTF8.data.toList := by
  rw [contains_iff_isInfix, data_toUTF8, data_toUTF8]
  refine ⟨?_, isInfix_of_bytes⟩
  rintro ⟨before, after, whole⟩
  refine ⟨before.flatMap String.utf8EncodeChar, after.flatMap String.utf8EncodeChar, ?_⟩
  rw [← whole, List.flatMap_append, List.flatMap_append]

end Text

/-- A holder answers as a text does, for what it holds and for its size. -/
structure AnswersAs {α : Type u} [ContainmentCheckable α String]
    [ContainmentCheckable α String.Slice] [ContainmentCheckable α Char] [SizeQueryable α]
    (holder : α) (text : String) : Prop where
  /-- It holds the texts that the text holds. -/
  holds_text (part : String) :
    ContainmentCheckable.holds holder part = ContainmentCheckable.holds text part
  /-- It holds the slices that the text holds. -/
  holds_slice (part : String.Slice) :
    ContainmentCheckable.holds holder part = ContainmentCheckable.holds text part.copy
  /-- It holds the characters that the text holds. -/
  holds_char (c : Char) :
    ContainmentCheckable.holds holder c = ContainmentCheckable.holds text c
  /-- It is of the size of the text. -/
  size : SizeQueryable.size holder = SizeQueryable.size text

namespace AnswersAs

/-- A text answers as itself. -/
theorem text (text : String) : AnswersAs text text :=
  ⟨fun _ => rfl, fun _ => rfl, fun _ => rfl, rfl⟩

/-- A slice answers as the text that it shows. -/
theorem slice (slice : String.Slice) : AnswersAs slice slice.copy :=
  ⟨fun _ => rfl, fun _ => rfl, fun _ => rfl, rfl⟩

/-- A reference answers as what it refers to. -/
theorem reference {α : Type u} [ContainmentCheckable α String]
    [ContainmentCheckable α String.Slice] [ContainmentCheckable α Char] [SizeQueryable α]
    {holder : α} {text : String} (answers : AnswersAs holder text) :
    AnswersAs (Reference.mk holder) text :=
  ⟨answers.holds_text, answers.holds_slice, answers.holds_char, answers.size⟩

end AnswersAs

/-- A text holds exactly the texts that stand between two others in it, whatever lengths the codes
of their characters have. So it holds the empty text and whatever a text that it holds holds, it has
no fewer characters than a text that it holds, and a character is as a text of its own. Slices and
references answer as the text. -/
theorem holds_iff_between (text part : String) (c : Char) :
    (ContainmentCheckable.holds text part = true ↔
        ∃ before after, text = before ++ part ++ after) ∧
      (ContainmentCheckable.holds text part = true ↔
        part.toUTF8.data.toList <:+: text.toUTF8.data.toList) ∧
      ContainmentCheckable.holds text "" = true ∧
      ContainmentCheckable.holds text c =
        ContainmentCheckable.holds text (String.singleton c) ∧
      SizeQueryable.size text = text.toList.length ∧
      (ContainmentCheckable.holds text part = true →
        SizeQueryable.size part ≤ SizeQueryable.size text) ∧
      (∀ inner : String, ContainmentCheckable.holds text part = true →
        ContainmentCheckable.holds part inner = true →
          ContainmentCheckable.holds text inner = true) ∧
      AnswersAs text text ∧
      (∀ slice : String.Slice, slice.copy = text → AnswersAs slice text) ∧
      ∀ {α : Type} [ContainmentCheckable α String] [ContainmentCheckable α String.Slice]
        [ContainmentCheckable α Char] [SizeQueryable α] (holder : α),
        AnswersAs holder text → AnswersAs (Reference.mk holder) text :=
  ⟨Text.contains_iff, Text.contains_iff_bytes, Text.contains_empty text,
    Text.containsChar_eq text c, rfl, Text.size_le_size, fun _ => Text.contains_trans, .text text,
    fun slice shows => shows ▸ .slice slice, fun _ => AnswersAs.reference⟩

/-- A text that stands in another one after stretches that only begin like it, among characters of
different lengths. -/
theorem holds_iff_between_overlapping :
    ContainmentCheckable.holds "éaéaéab" "éaéab" = true ∧
      ContainmentCheckable.holds "éaéab" "aéab" = true ∧
      ContainmentCheckable.holds "éaéaéab" "aéab" = true ∧
      SizeQueryable.size "éaéab" ≤ SizeQueryable.size "éaéaéab" ∧
      "éaéaéab".toSlice.copy = "éaéaéab" ∧
      AnswersAs (Reference.mk "éaéaéab".toSlice) "éaéaéab" := by
  obtain ⟨between, _, _, _, _, size, inside, _, slices, references⟩ :=
    holds_iff_between "éaéaéab" "éaéab" 'é'
  have found : ContainmentCheckable.holds "éaéaéab" "éaéab" = true :=
    between.mpr ⟨"éa", "", by decide⟩
  have found' : ContainmentCheckable.holds "éaéab" "aéab" = true := by decide +kernel
  have shows : "éaéaéab".toSlice.copy = "éaéaéab" := String.copy_toSlice
  exact ⟨found, found', inside _ found found', size found, shows, references _ (slices _ shows)⟩

end Covenant
