import Mathlib.Data.List.Basic
import Covenant.Yaml.Cursor

/-!
# Places before the same closing mark

Two texts may have the same characters up to a closing mark and go on differently after it. Moving
over the characters before the mark leads from alike places to alike places (`Cursor.Alike`),
whatever comes after it.
-/
namespace Covenant.Yaml

/-- The mark that closes a flow collection. -/
def IsClosing (close : Char) : Prop := close = ']' ∨ close = '\x7d'

instance (c : Char) : Decidable (IsClosing c) := inferInstanceAs (Decidable (_ ∨ _))

/-- A closing mark is no other character. -/
theorem IsClosing.ne {close c : Char} (closes : IsClosing close) (other : ¬IsClosing c) :
    close ≠ c :=
  fun same => other (same ▸ closes)

/-- A closing mark is in no gap. -/
theorem IsClosing.not_isGap {close : Char} (closes : IsClosing close) : isGap close = false := by
  rcases closes with rfl | rfl <;> rfl

/-- A closing mark is no blank and no break. -/
theorem IsClosing.not_isBlank_isBreak {close : Char} (closes : IsClosing close) :
    isBlank close = false ∧ isBreak close = false :=
  Bool.or_eq_false_iff.mp closes.not_isGap

/-- What comes first does not depend on what comes after the mark. -/
theorem head?_append_mark {close : Char} (body after after' : List Char) :
    (body ++ close :: after').head? = (body ++ close :: after).head? := by
  cases body <;> rfl

/-- A gap comes first in both texts or in neither. -/
theorem startsGap_append_mark {close : Char} (body after after' : List Char) :
    startsGap (body ++ close :: after') = startsGap (body ++ close :: after) := by
  cases body <;> rfl

/-- A blank starts a gap. -/
theorem startsGap_of_blank {cs : List Char} (blank : cs.head?.any isBlank = true) :
    startsGap cs = true := by
  cases cs with
  | nil => rfl
  | cons c rest => exact Bool.or_eq_true_iff.mpr (.inl blank)

namespace Cursor

/-- Two places have the same characters before them up to a closing mark. They are in one line, in
one column or neither at its start, and a fixed number of bytes apart. -/
structure Alike (shift : Nat) (close : Char) (after after' : List Char) (cursor cursor' : Cursor) :
    Prop where
  /-- The characters up to the mark are the same. -/
  rest : ∃ body, cursor.rest = body ++ close :: after ∧ cursor'.rest = body ++ close :: after'
  /-- The characters that are left are counted. -/
  left : cursor.left = cursor.rest.length
  /-- Those in the other text are counted, too. -/
  left' : cursor'.left = cursor'.rest.length
  /-- The lines are the same. -/
  line : cursor'.line = cursor.line
  /-- The columns are the same, or the start of the line was different. -/
  column : cursor'.column = cursor.column ∨ 0 < cursor.column ∧ 0 < cursor'.column
  /-- The other place is some bytes further on. -/
  offset : cursor'.offset = cursor.offset + shift

/-- What is left after a move. -/
@[simp] theorem rest_advance (cursor : Cursor) (count : Nat) :
    (cursor.advance count).rest = cursor.rest.drop count := rfl

/-- After a move the text goes on as before. -/
theorem advance_suffix (cursor : Cursor) (count : Nat) :
    (cursor.advance count).rest <:+ cursor.rest :=
  List.drop_suffix count cursor.rest

/-- A move does not add characters. -/
theorem length_rest_advance (cursor : Cursor) (count : Nat) :
    (cursor.advance count).rest.length = cursor.rest.length - count :=
  List.length_drop

/-- The character that comes next is the one that a place is at. -/
theorem isAt_of_rest {cursor : Cursor} {c : Char} {rest : List Char}
    (next : cursor.rest = c :: rest) (d : Char) : cursor.isAt d = (c == d) := by
  rw [isAt, peek, next]
  rfl

/-- A carriage return is crossed together with the line feed after it, any other break alone, and
nothing else is crossed. -/
theorem crossBreak_of_rest {cursor : Cursor} {c : Char} {rest : List Char}
    (next : cursor.rest = c :: rest) :
    cursor.crossBreak =
      if c = '\r' ∧ rest.head? = some '\n' then
        (['\n'], ⟨rest.tail, cursor.left - 2, cursor.offset + 2, cursor.line + 1, 0⟩)
      else if isBreak c then
        ([if c == '\u2028' || c == '\u2029' then c else '\n'],
          ⟨rest, cursor.left - 1, cursor.offset + c.utf8Size, cursor.line + 1, 0⟩)
      else ([], cursor) := by
  unfold crossBreak
  rw [next]
  by_cases joined : c = '\r' ∧ rest.head? = some '\n'
  · obtain ⟨rfl, feed⟩ := joined
    obtain ⟨more, rfl⟩ : ∃ more, rest = '\n' :: more := by
      cases rest with
      | nil => cases feed
      | cons d more => exact ⟨more, by rw [Option.some.inj feed]⟩
    rfl
  · rw [if_neg joined]
    split
    case h_1 together =>
      obtain ⟨rfl, rfl⟩ := List.cons.inj together
      exact absurd ⟨rfl, rfl⟩ joined
    case h_2 together =>
      obtain ⟨rfl, rfl⟩ := List.cons.inj together
      rfl
    case h_3 together => cases together

/-- After a break the text goes on as before. -/
theorem crossBreak_suffix (cursor : Cursor) : cursor.crossBreak.2.rest <:+ cursor.rest := by
  cases next : cursor.rest with
  | nil => simp [crossBreak, next]
  | cons c rest =>
    rw [crossBreak_of_rest next]
    split
    · exact (List.tail_suffix rest).trans (List.suffix_cons c rest)
    · split
      · exact List.suffix_cons c rest
      · exact next ▸ List.suffix_refl _

/-- Crossing a break does not add characters, and takes one at least if there is one. -/
theorem length_rest_crossBreak (cursor : Cursor) :
    cursor.crossBreak.2.rest.length ≤ cursor.rest.length ∧
      (cursor.atBreak = true → cursor.crossBreak.2.rest.length < cursor.rest.length) := by
  cases next : cursor.rest with
  | nil => simp [crossBreak, atBreak, peek, next]
  | cons c rest =>
    rw [crossBreak_of_rest next]
    split
    · simp only [List.length_tail, List.length_cons]
      omega
    · split
      · simp
      · simp [atBreak, peek, *]

/-- A break that is there is crossed. -/
theorem length_rest_crossBreak_lt {cursor : Cursor} {c : Char} {rest : List Char}
    (next : cursor.rest = c :: rest) (breaks : isBreak c = true) :
    cursor.crossBreak.2.rest.length < cursor.rest.length := by
  refine (length_rest_crossBreak cursor).2 ?_
  rw [atBreak, peek, next]
  exact breaks

/-- No move is no change. -/
theorem advance_zero (cursor : Cursor) : cursor.advance 0 = cursor := by
  simp [advance, byteCount]

namespace Alike

variable {shift : Nat} {close : Char} {after after' : List Char} {cursor cursor' : Cursor}
  {test : Char → Bool}

/-- The same characters come next. -/
theorem head? (alike : Alike shift close after after' cursor cursor') :
    cursor'.rest.head? = cursor.rest.head? := by
  obtain ⟨body, rest, rest'⟩ := alike.rest
  rw [rest, rest']
  exact head?_append_mark body after after'

/-- The character that comes next in one text comes next in the other. -/
theorem rest_eq_cons (alike : Alike shift close after after' cursor cursor') {c : Char}
    {rest : List Char} (next : cursor.rest = c :: rest) : ∃ rest', cursor'.rest = c :: rest' := by
  refine List.head?_eq_some_iff.mp ?_
  rw [alike.head?, next]
  rfl

theorem peek (alike : Alike shift close after after' cursor cursor') :
    cursor'.peek = cursor.peek := alike.head?

theorem isAt (alike : Alike shift close after after' cursor cursor') (c : Char) :
    cursor'.isAt c = cursor.isAt c := by
  rw [Cursor.isAt, Cursor.isAt, alike.peek]

theorem atBreak (alike : Alike shift close after after' cursor cursor') :
    cursor'.atBreak = cursor.atBreak := by
  rw [Cursor.atBreak, Cursor.atBreak, alike.peek]

/-- Neither text ends here. -/
theorem atEnd (alike : Alike shift close after after' cursor cursor') :
    cursor.atEnd = false ∧ cursor'.atEnd = false := by
  obtain ⟨body, rest, rest'⟩ := alike.rest
  rw [Cursor.atEnd, Cursor.atEnd, rest, rest']
  cases body <;> exact ⟨rfl, rfl⟩

/-- Both places start their lines or neither does. -/
theorem column_eq_zero (alike : Alike shift close after after' cursor cursor') :
    cursor'.column = 0 ↔ cursor.column = 0 := by
  rcases alike.column with same | ⟨_, _⟩ <;> omega

/-- The test for the start of a line gives the same in both texts. -/
theorem startsLine (alike : Alike shift close after after' cursor cursor') :
    (cursor'.column == 0) = (cursor.column == 0) := by
  rw [Bool.eq_iff_iff, beq_iff_eq, beq_iff_eq]
  exact alike.column_eq_zero

/-- A gap comes next in both texts or in neither. -/
theorem startsGap (alike : Alike shift close after after' cursor cursor') :
    Yaml.startsGap cursor'.rest = Yaml.startsGap cursor.rest := by
  obtain ⟨body, rest, rest'⟩ := alike.rest
  rw [rest, rest']
  exact startsGap_append_mark body after after'

/-- Moving over characters before the mark. -/
theorem advance (alike : Alike shift close after after' cursor cursor') {count : Nat}
    (within : after.length < (cursor.advance count).rest.length) :
    Alike shift close after after' (cursor.advance count) (cursor'.advance count) := by
  obtain ⟨body, rest, rest'⟩ := alike.rest
  rw [rest_advance, rest, List.length_drop, List.length_append, List.length_cons] at within
  have bound : count ≤ body.length := by omega
  refine ⟨⟨body.drop count, ?_, ?_⟩, ?_, ?_, alike.line, ?_, ?_⟩
  · rw [rest_advance, rest, List.drop_append_of_le_length bound]
  · rw [rest_advance, rest', List.drop_append_of_le_length bound]
  · rw [length_rest_advance, ← alike.left]
    rfl
  · rw [length_rest_advance, ← alike.left']
    rfl
  · rcases alike.column with same | ⟨positive, positive'⟩
    · exact .inl (congrArg (· + count) same)
    · exact .inr ⟨Nat.add_pos_left positive _, Nat.add_pos_left positive' _⟩
  · change cursor'.offset + byteCount (cursor'.rest.take count) =
      cursor.offset + byteCount (cursor.rest.take count) + shift
    rw [rest, rest', List.take_append_of_le_length bound, List.take_append_of_le_length bound,
      alike.offset]
    omega

/-- Moving over some of the characters before the mark. -/
theorem advance_of_le (alike : Alike shift close after after' cursor cursor') {body : List Char}
    (rest : cursor.rest = body ++ close :: after) {count : Nat} (bound : count ≤ body.length) :
    Alike shift close after after' (cursor.advance count) (cursor'.advance count) := by
  refine alike.advance ?_
  rw [length_rest_advance, rest, List.length_append, List.length_cons]
  omega

/-- Moving to a later place, given what comes after it in both texts. -/
theorem moveTo (alike : Alike shift close after after' cursor cursor') {before body : List Char}
    (rest : cursor.rest = before ++ (body ++ close :: after))
    (rest' : cursor'.rest = before ++ (body ++ close :: after')) :
    Alike shift close after after' (cursor.moveTo (body ++ close :: after))
      (cursor'.moveTo (body ++ close :: after')) := by
  have count : cursor.left - (body ++ close :: after).length = before.length := by
    rw [alike.left, rest, List.length_append]
    omega
  have count' : cursor'.left - (body ++ close :: after').length = before.length := by
    rw [alike.left', rest', List.length_append]
    omega
  rw [Cursor.moveTo, Cursor.moveTo, count, count']
  rw [← List.append_assoc] at rest
  refine alike.advance_of_le rest ?_
  rw [List.length_append]
  exact Nat.le_add_right _ _

/-- The characters that satisfy a test are the same if the mark is not among them. -/
theorem length_takeWhile {body : List Char}
    (within : ((body ++ close :: after).takeWhile test).length ≤ body.length) :
    ((body ++ close :: after').takeWhile test).length =
      ((body ++ close :: after).takeWhile test).length := by
  induction body with
  | nil =>
    rw [List.nil_append, List.takeWhile_cons] at within
    rw [List.nil_append, List.nil_append, List.takeWhile_cons, List.takeWhile_cons]
    split at within
    · simp at within
    · rename_i stops
      rw [if_neg stops, if_neg stops]
  | cons c body ih =>
    rw [List.cons_append, List.takeWhile_cons] at within
    rw [List.cons_append, List.cons_append, List.takeWhile_cons, List.takeWhile_cons]
    split
    · rename_i goes
      rw [if_pos goes] at within
      simp only [List.length_cons] at within ⊢
      rw [ih (by omega)]
    · rfl

/-- Moving over the characters that satisfy a test, up to the mark. -/
theorem skipWhile (alike : Alike shift close after after' cursor cursor')
    (within : after.length < (cursor.skipWhile test).rest.length) :
    Alike shift close after after' (cursor.skipWhile test) (cursor'.skipWhile test) := by
  obtain ⟨body, rest, rest'⟩ := alike.rest
  have bound : ((body ++ close :: after).takeWhile test).length ≤ body.length := by
    have room := within
    rw [Cursor.skipWhile, rest_advance, List.length_drop, rest, List.length_append,
      List.length_cons] at room
    omega
  unfold Cursor.skipWhile at within ⊢
  rw [rest', length_takeWhile bound, ← rest]
  exact alike.advance within

/-- The starts of the next lines are alike. -/
theorem nextLine (alike : Alike shift close after after' cursor cursor') (before : List Char)
    {body : List Char} (rest : cursor.rest = before ++ (body ++ close :: after))
    (rest' : cursor'.rest = before ++ (body ++ close :: after')) (bytes : Nat) :
    Alike shift close after after'
      ⟨body ++ close :: after, cursor.left - before.length, cursor.offset + bytes,
        cursor.line + 1, 0⟩
      ⟨body ++ close :: after', cursor'.left - before.length, cursor'.offset + bytes,
        cursor'.line + 1, 0⟩ where
  rest := ⟨body, rfl, rfl⟩
  left := by
    rw [alike.left, rest, List.length_append, Nat.add_sub_cancel_left]
  left' := by
    rw [alike.left', rest', List.length_append, Nat.add_sub_cancel_left]
  line := congrArg (· + 1) alike.line
  column := .inl rfl
  offset := by
    change cursor'.offset + bytes = cursor.offset + bytes + shift
    rw [alike.offset, Nat.add_right_comm]

/-- Crossing a break, if there is one. -/
theorem crossBreak (closes : IsClosing close)
    (alike : Alike shift close after after' cursor cursor') :
    cursor'.crossBreak.1 = cursor.crossBreak.1 ∧
      Alike shift close after after' cursor.crossBreak.2 cursor'.crossBreak.2 := by
  obtain ⟨-, notBreak⟩ := closes.not_isBlank_isBreak
  have notFeed : close ≠ '\n' := closes.ne (by decide)
  have notReturn : close ≠ '\r' := closes.ne (by decide)
  obtain ⟨_ | ⟨c, body⟩, rest, rest'⟩ := alike.rest
  · rw [crossBreak_of_rest rest, crossBreak_of_rest rest', notBreak]
    simp only [notReturn, false_and, if_false, Bool.false_eq_true]
    exact ⟨trivial, alike⟩
  · rw [List.cons_append] at rest rest'
    rw [crossBreak_of_rest rest, crossBreak_of_rest rest', head?_append_mark body after after']
    split
    · obtain _ | ⟨d, body⟩ := body
      · rename_i joined
        exact absurd (Option.some.inj joined.2) notFeed
      · exact ⟨rfl, alike.nextLine [c, d] rest rest' 2⟩
    · split
      · exact ⟨rfl, alike.nextLine [c] rest rest' c.utf8Size⟩
      · exact ⟨rfl, alike⟩

/-- Three marks of a document come next in both texts or in neither. -/
theorem atMarker (closes : IsClosing close)
    (alike : Alike shift close after after' cursor cursor') {c : Char} (other : c ≠ close) :
    cursor'.atMarker c = cursor.atMarker c := by
  have notGap := closes.not_isGap
  have different : (c == close) = false := beq_eq_false_iff_ne.mpr other
  obtain ⟨body, rest, rest'⟩ := alike.rest
  rw [Cursor.atMarker, Cursor.atMarker, alike.startsLine, rest, rest']
  match body with
  | [] | [_] | [_, _] => simp [List.isPrefixOf, different]
  | [_, _, _] => simp [List.isPrefixOf, Yaml.startsGap, notGap]
  | _ :: _ :: _ :: _ :: _ => simp [List.isPrefixOf, Yaml.startsGap]

/-- The marks of the start and of the end of a document come next in both texts or in neither. -/
theorem atMarker_document (closes : IsClosing close)
    (alike : Alike shift close after after' cursor cursor') :
    cursor'.atMarker '-' = cursor.atMarker '-' ∧ cursor'.atMarker '.' = cursor.atMarker '.' :=
  ⟨alike.atMarker closes (closes.ne (by decide)).symm,
    alike.atMarker closes (closes.ne (by decide)).symm⟩

theorem atDocumentMarker (closes : IsClosing close)
    (alike : Alike shift close after after' cursor cursor') :
    cursor'.atDocumentMarker = cursor.atDocumentMarker := by
  obtain ⟨starts, ends⟩ := alike.atMarker_document closes
  rw [Cursor.atDocumentMarker, Cursor.atDocumentMarker, starts, ends]

end Alike

end Cursor

end Covenant.Yaml
