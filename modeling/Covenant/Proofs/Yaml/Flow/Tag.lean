import Covenant.Proofs.Document.Reading
import Covenant.Proofs.Yaml.Flow.Cursor
import Covenant.Yaml.Token

/-!
# Tags before the same mark

A tag that ends before a blank or before the mark that closes the collection around it is read in
the same way whatever comes after that (`Tag.readChars_alike`, `Tag.read_alike`). Each part of it
leaves some of the characters before the mark.
-/
namespace Covenant.Yaml

/-- A character that ends a tag where it is none of it: a closing mark or a blank. -/
def Tag.Ends (close : Char) : Prop := close = ']' ∨ close = '\x7d' ∨ close = ' ' ∨ close = '\t'

instance (c : Char) : Decidable (Tag.Ends c) := inferInstanceAs (Decidable (_ ∨ _))

/-- A character that ends a tag is no other character. -/
theorem Tag.Ends.ne {close c : Char} (ends : Tag.Ends close) (other : ¬Tag.Ends c) : close ≠ c :=
  fun same => other (same ▸ ends)

/-- A closing mark may end a tag. -/
theorem IsClosing.endsTag {close : Char} (closes : IsClosing close) : Tag.Ends close :=
  closes.imp_right .inl

namespace Tag

variable {shift : Nat} {close : Char} {after after' : List Char} {cursor cursor' : Cursor}
  {fuel fuel' : Nat} {body rest : List Char} {bytes : TagBytes}

/-- An escaped byte has two digits after its percent sign. -/
theorem escapedByte?_eq_some_iff {cs : List Char} {byte : Nat} :
    escapedByte? cs = some (byte, rest) ↔ ∃ high low high' low',
      cs = '%' :: high :: low :: rest ∧ Quoted.hexDigit? high = some high' ∧
        Quoted.hexDigit? low = some low' ∧ byte = high' * 16 + low' := by
  constructor
  · intro known
    unfold escapedByte? at known
    split at known
    · rename_i high low rest
      obtain ⟨high', digit, known⟩ := Option.bind_eq_some_iff.mp known
      obtain ⟨low', digit', known⟩ := Option.bind_eq_some_iff.mp known
      cases known
      exact ⟨high, low, high', low', rfl, digit, digit', rfl⟩
    · cases known
  · rintro ⟨high, low, high', low', rfl, digit, digit', rfl⟩
    rw [escapedByte?, digit, digit']
    rfl

/-- An escaped byte ends before the mark. -/
theorem escapedByte?_alike (ends : Ends close) (after' : List Char) {byte : Nat}
    (known : escapedByte? (body ++ close :: after) = some (byte, rest)) :
    ∃ before last, before ≠ [] ∧ body = before ++ last ∧ rest = last ++ close :: after ∧
      escapedByte? (body ++ close :: after') = some (byte, last ++ close :: after') := by
  have notDigit : ∀ digit, Quoted.hexDigit? close ≠ some digit := by
    rcases ends with rfl | rfl | rfl | rfl <;> exact fun _ => nofun
  have notPercent : close ≠ '%' := ends.ne (by decide)
  obtain ⟨high, low, high', low', cs, digit, digit', rfl⟩ := escapedByte?_eq_some_iff.mp known
  match body with
  | [] => exact absurd (List.cons.inj cs).1 notPercent
  | [_] =>
    obtain ⟨-, cs⟩ := List.cons.inj cs
    exact absurd ((List.cons.inj cs).1 ▸ digit) (notDigit _)
  | [_, _] =>
    obtain ⟨-, cs⟩ := List.cons.inj cs
    obtain ⟨-, cs⟩ := List.cons.inj cs
    exact absurd ((List.cons.inj cs).1 ▸ digit') (notDigit _)
  | a :: b :: c :: last =>
    simp only [List.cons_append, List.cons.injEq] at cs
    obtain ⟨rfl, rfl, rfl, rfl⟩ := cs
    exact ⟨['%', b, c], last, List.cons_ne_nil _ _, rfl, rfl,
      escapedByte?_eq_some_iff.mpr ⟨b, c, _, _, rfl, digit, digit', rfl⟩⟩

/-- The further bytes of a character end before the mark. -/
theorem continuation?_alike (ends : Ends close) (after' : List Char) {count : Nat}
    (known : continuation? count (body ++ close :: after) = some (bytes, rest)) :
    ∃ before last, body = before ++ last ∧ rest = last ++ close :: after ∧
      continuation? count (body ++ close :: after') = some (bytes, last ++ close :: after') := by
  induction count generalizing body bytes with
  | zero =>
    cases known
    exact ⟨[], body, rfl, rfl, rfl⟩
  | succ count ih =>
    obtain ⟨⟨byte, next⟩, first, known⟩ := Option.bind_eq_some_iff.mp known
    obtain ⟨before, middle, -, rfl, rfl, first'⟩ :=
      escapedByte?_alike ends after' first
    rw [continuation?, first']
    dsimp only at known ⊢
    split at known
    · rename_i continues
      obtain ⟨⟨more, last⟩, others, known⟩ := Option.bind_eq_some_iff.mp known
      cases known
      obtain ⟨between, last, rfl, rfl, others'⟩ := ih others
      refine ⟨before ++ between, last, by rw [List.append_assoc], rfl, ?_⟩
      simp only [Option.bind_eq_bind, Option.bind_some, if_pos continues, others']
      rfl
    · cases known

/-- An escaped character ends before the mark. -/
theorem escaped?_alike (ends : Ends close) (after' : List Char)
    (known : escaped? (body ++ close :: after) = some (bytes, rest)) :
    ∃ before last, before ≠ [] ∧ body = before ++ last ∧ rest = last ++ close :: after ∧
      escaped? (body ++ close :: after') = some (bytes, last ++ close :: after') := by
  obtain ⟨⟨byte, next⟩, first, known⟩ := Option.bind_eq_some_iff.mp known
  obtain ⟨width, codeWidth, known⟩ := Option.bind_eq_some_iff.mp known
  obtain ⟨⟨more, last⟩, others, known⟩ := Option.bind_eq_some_iff.mp known
  cases known
  obtain ⟨before, middle, some_before, rfl, rfl, first'⟩ :=
    escapedByte?_alike ends after' first
  obtain ⟨between, last, rfl, rfl, others'⟩ :=
    continuation?_alike ends after' others
  refine ⟨before ++ between, last, ?_, by rw [List.append_assoc], rfl, ?_⟩
  · exact List.append_ne_nil_of_left_ne_nil some_before _
  · rw [escaped?, first']
    simp only [Option.bind_eq_bind, Option.bind_some, codeWidth, others']
    rfl

/-- What reading the characters of a tag does first: it takes an escaped character or one that may
stand for itself, and ends elsewhere. -/
theorem uri_eq_ok_iff {inFull : Bool} {c : Char} {cs : List Char} :
    uri inFull (fuel + 1) (c :: cs) = .ok (bytes, rest) ↔
      (c = '%' ∧ ∃ escape more left, escaped? (c :: cs) = some (escape, left) ∧
          uri inFull fuel left = .ok (more, rest) ∧ bytes = escape ++ more) ∨
        (c ≠ '%' ∧ isUri inFull c = true ∧ ∃ more, uri inFull fuel cs = .ok (more, rest) ∧
          bytes = c.toNat.toUInt8 :: more) ∨
        (c ≠ '%' ∧ isUri inFull c = false ∧ bytes = [] ∧ rest = c :: cs) := by
  by_cases percent : c = '%'
  · subst percent
    constructor
    · intro read
      rw [uri] at read
      split at read
      · rename_i escape left known
        obtain ⟨⟨more, _⟩, found, answer⟩ := Reading.bind_eq_ok_iff.mp read
        cases answer
        exact .inl ⟨rfl, escape, more, left, known, found, rfl⟩
      · cases read
    · rintro (⟨-, escape, more, left, known, found, rfl⟩ | ⟨other, -⟩ | ⟨other, -⟩)
      · rw [uri]
        simp only [known]
        exact Reading.bind_eq_ok_iff.mpr ⟨(more, rest), found, rfl⟩
      · exact absurd rfl other
      · exact absurd rfl other
  · have step : uri inFull (fuel + 1) (c :: cs) =
        if isUri inFull c then
          uri inFull fuel cs >>= fun found => .ok (c.toNat.toUInt8 :: found.1, found.2)
        else .ok ([], c :: cs) := by
      rw [uri]
      · rfl
      · exact percent
    rw [step]
    constructor
    · intro read
      split at read
      · rename_i goes
        obtain ⟨⟨more, _⟩, found, answer⟩ := Reading.bind_eq_ok_iff.mp read
        cases answer
        exact .inr (.inl ⟨percent, goes, more, found, rfl⟩)
      · rename_i stops
        cases read
        exact .inr (.inr ⟨percent, Bool.eq_false_iff.mpr stops, rfl, rfl⟩)
    · rintro (⟨same, -⟩ | ⟨-, goes, more, found, rfl⟩ | ⟨-, stops, rfl, rfl⟩)
      · exact absurd same percent
      · rw [if_pos goes]
        exact Reading.bind_eq_ok_iff.mpr ⟨(more, rest), found, rfl⟩
      · rw [if_neg (Bool.eq_false_iff.mp stops)]

/-- The further bytes of a character do not add characters. -/
theorem length_continuation?_le {count : Nat} {cs : List Char}
    (known : continuation? count cs = some (bytes, rest)) : rest.length ≤ cs.length := by
  induction count generalizing cs bytes with
  | zero =>
    cases known
    exact Nat.le_refl _
  | succ count ih =>
    obtain ⟨⟨byte, next⟩, first, later⟩ := Option.bind_eq_some_iff.mp known
    dsimp only at later
    obtain ⟨high, low, _, _, rfl, -⟩ := escapedByte?_eq_some_iff.mp first
    split at later
    · obtain ⟨⟨more, last⟩, others, answer⟩ := Option.bind_eq_some_iff.mp later
      cases answer
      have shorter : last.length ≤ next.length := ih others
      simp only [List.length_cons]
      omega
    · cases later

/-- An escaped character does not add characters. -/
theorem length_escaped?_le {cs : List Char} (known : escaped? cs = some (bytes, rest)) :
    rest.length ≤ cs.length := by
  obtain ⟨⟨byte, next⟩, first, known⟩ := Option.bind_eq_some_iff.mp known
  obtain ⟨width, -, known⟩ := Option.bind_eq_some_iff.mp known
  obtain ⟨⟨more, last⟩, others, known⟩ := Option.bind_eq_some_iff.mp known
  cases known
  obtain ⟨high, low, _, _, rfl, -⟩ := escapedByte?_eq_some_iff.mp first
  have shorter := length_continuation?_le others
  simp only [List.length_cons]
  omega

/-- Reading the characters of a tag does not add any. -/
theorem length_uri_le {inFull : Bool} {cs : List Char}
    (read : uri inFull fuel cs = .ok (bytes, rest)) : rest.length ≤ cs.length := by
  induction fuel generalizing cs bytes with
  | zero =>
    cases read
    exact Nat.le_refl _
  | succ fuel ih =>
    obtain _ | ⟨c, cs⟩ := cs
    · cases read
      exact Nat.le_refl _
    obtain ⟨-, escape, more, left, known, found, -⟩ | ⟨-, -, more, found, -⟩ | ⟨-, -, -, rfl⟩ :=
      uri_eq_ok_iff.mp read
    · exact Nat.le_trans (ih found) (length_escaped?_le known)
    · exact Nat.le_succ_of_le (ih found)
    · exact Nat.le_refl _

/-- The characters of a tag end before the mark, or after it where it may be one of them. -/
theorem uri_alike (ends : Ends close) (after' : List Char) {inFull : Bool}
    (enough : (body ++ close :: after).length ≤ fuel)
    (enough' : (body ++ close :: after').length ≤ fuel')
    (read : uri inFull fuel (body ++ close :: after) = .ok (bytes, rest))
    (within : after.length < rest.length) :
    ∃ before last, body = before ++ last ∧ rest = last ++ close :: after ∧
      uri inFull fuel' (body ++ close :: after') = .ok (bytes, last ++ close :: after') := by
  induction fuel generalizing body bytes fuel' with
  | zero => simp at enough
  | succ fuel ih =>
    obtain _ | fuel' := fuel'
    · simp at enough'
    obtain _ | ⟨c, body⟩ := body
    -- The mark is no percent sign, and it is not taken because more is left than what follows it.
    · obtain ⟨percent, -⟩ | ⟨-, -, more, found, -⟩ | ⟨other, stops, rfl, rfl⟩ :=
        uri_eq_ok_iff.mp read
      · exact absurd percent (ends.ne (by decide))
      · have shorter := length_uri_le found
        omega
      · exact ⟨[], [], rfl, rfl, uri_eq_ok_iff.mpr (.inr (.inr ⟨other, stops, rfl, rfl⟩))⟩
    rw [List.cons_append] at read ⊢
    rw [List.cons_append, List.length_cons] at enough enough'
    obtain ⟨percent, escape, more, left, known, found, rfl⟩ | ⟨other, goes, more, found, rfl⟩ |
      ⟨other, stops, rfl, rfl⟩ := uri_eq_ok_iff.mp read
    · rw [← List.cons_append] at known
      obtain ⟨before, middle, some_before, split_body, rfl, known'⟩ :=
        escaped?_alike ends after' known
      have lengths := congrArg List.length split_body
      have positive := List.length_pos_iff.mpr some_before
      simp only [List.length_append, List.length_cons] at enough enough' lengths
      have enough_left : (middle ++ close :: after).length ≤ fuel := by
        simp only [List.length_append, List.length_cons]
        omega
      have enough_left' : (middle ++ close :: after').length ≤ fuel' := by
        simp only [List.length_append, List.length_cons]
        omega
      obtain ⟨between, last, rfl, rfl, found'⟩ := ih enough_left enough_left' found
      refine ⟨before ++ between, last, by rw [split_body, List.append_assoc], rfl, ?_⟩
      rw [List.cons_append] at known'
      exact uri_eq_ok_iff.mpr (.inl ⟨percent, escape, more, _, known', found', rfl⟩)
    · obtain ⟨before, last, rfl, rfl, found'⟩ :=
        ih (Nat.le_of_succ_le_succ enough) (Nat.le_of_succ_le_succ enough') found
      exact ⟨c :: before, last, rfl, rfl,
        uri_eq_ok_iff.mpr (.inr (.inl ⟨other, goes, more, found', rfl⟩))⟩
    · exact ⟨[], c :: body, rfl, rfl, uri_eq_ok_iff.mpr (.inr (.inr ⟨other, stops, rfl, rfl⟩))⟩

/-- Reading the characters of a tag, of which there is one at least, does not add any. -/
theorem length_nonemptyUri_le {inFull : Bool} {cs : List Char}
    (read : nonemptyUri inFull cs = .ok (bytes, rest)) : rest.length ≤ cs.length := by
  obtain ⟨_, first, answer⟩ := Reading.bind_eq_ok_iff.mp read
  dsimp only at answer
  split at answer
  · cases answer
  · cases answer
    exact length_uri_le first

/-- The characters of a tag, of which there is one at least, end before the mark. -/
theorem nonemptyUri_alike (ends : Ends close) (after' : List Char) {inFull : Bool}
    (read : nonemptyUri inFull (body ++ close :: after) = .ok (bytes, rest))
    (within : after.length < rest.length) :
    ∃ before last, body = before ++ last ∧ rest = last ++ close :: after ∧
      nonemptyUri inFull (body ++ close :: after') = .ok (bytes, last ++ close :: after') := by
  obtain ⟨⟨found, last⟩, first, answer⟩ := Reading.bind_eq_ok_iff.mp read
  dsimp only at answer
  split at answer
  · cases answer
  rename_i some_taken
  cases answer
  obtain ⟨before, last, rfl, rfl, first'⟩ := uri_alike ends after'
    (Nat.le_refl _) (Nat.le_refl _) first within
  refine ⟨before, last, rfl, rfl, ?_⟩
  have taken' : ¬(last ++ close :: after').length = (before ++ last ++ close :: after').length := by
    simp only [List.length_append, List.length_cons] at some_taken ⊢
    omega
  rw [nonemptyUri, first']
  change (if _ then _ else _) = _
  rw [if_neg taken']
  rfl

/-- A word ends before the mark. -/
theorem takeWhile_isWord (ends : Ends close) (body after : List Char) :
    (body ++ close :: after).takeWhile isWord = body.takeWhile isWord := by
  have notWord : isWord close = false := by
    rcases ends with rfl | rfl | rfl | rfl <;> decide
  induction body with
  | nil => simp [notWord]
  | cons c body ih =>
    rw [List.cons_append, List.takeWhile_cons, List.takeWhile_cons, ih]

/-- A handle is a word after its mark, with a second mark if there is one. -/
theorem handle?_of_word (word rest : List Char)
    (isWord_taken : (word ++ rest).takeWhile isWord = word) :
    handle? ('!' :: (word ++ rest)) =
      if rest.head? = some '!' then some ('!' :: word ++ ['!'], rest.tail)
      else some ('!' :: word, rest) := by
  rw [handle?, isWord_taken, List.drop_left]
  cases rest with
  | nil => rfl
  | cons c rest =>
    by_cases second : c = '!'
    · subst second
      rfl
    · rw [List.head?_cons, if_neg fun same => second (Option.some.inj same)]
      split
      · rename_i joined
        exact absurd (List.cons.inj joined).1 second
      · rfl

/-- A handle ends before the mark. -/
theorem handle?_alike (ends : Ends close) (after' : List Char) {name : List Char}
    (known : handle? (body ++ close :: after) = some (name, rest)) :
    ∃ before last, body = before ++ last ∧ rest = last ++ close :: after ∧
      handle? (body ++ close :: after') = some (name, last ++ close :: after') := by
  have notMark : close ≠ '!' := ends.ne (by decide)
  obtain _ | ⟨c, body⟩ := body
  · rw [List.nil_append, handle?] at known
    · cases known
    · exact fun _ same => notMark (List.cons.inj same).1
  by_cases mark : c = '!'
  · subst mark
    have word := takeWhile_isWord ends body
    generalize split : body.takeWhile isWord = taken at word
    have joined : body = taken ++ body.dropWhile isWord := by
      rw [← split, List.takeWhile_append_dropWhile]
    generalize body.dropWhile isWord = left at joined
    subst joined
    simp only [List.append_assoc] at word
    rw [List.cons_append, List.append_assoc, handle?_of_word _ _ (word after)] at known
    rw [List.cons_append, List.append_assoc, handle?_of_word _ _ (word after')]
    obtain _ | ⟨d, left⟩ := left
    · have single : ¬some close = some '!' := fun same => notMark (Option.some.inj same)
      rw [List.nil_append, List.head?_cons, if_neg single] at known
      rw [List.nil_append, List.head?_cons, if_neg single]
      cases known
      exact ⟨'!' :: taken, [], by simp, rfl, rfl⟩
    · rw [List.cons_append, List.head?_cons] at known ⊢
      split at known
      · rename_i second
        cases known
        exact ⟨'!' :: taken ++ [d], left, by simp, rfl, by rw [if_pos second]; rfl⟩
      · rename_i single
        cases known
        exact ⟨'!' :: taken, d :: left, by simp, rfl, by rw [if_neg single]; rfl⟩
  · rw [List.cons_append, handle?] at known
    · cases known
    · exact fun _ same => mark (List.cons.inj same).1

/-- The rest of a tag behind its handle. -/
def readSuffix (name cs : List Char) : Except Error (Token × List Char) :=
  if name.length > 1 ∧ name.getLast? = some '!' then do
    let (bytes, rest) ← nonemptyUri false cs
    return (.tag name bytes, rest)
  else do
    let (bytes, rest) ← uri false cs.length cs
    let suffix := asciiBytes (name.drop 1) ++ bytes
    return (if suffix.isEmpty then .tag [] (asciiBytes ['!']) else .tag ['!'] suffix, rest)

/-- A tag in full, or behind a handle. -/
def readChars (cs : List Char) : Except Error (Token × List Char) :=
  match cs with
  | '!' :: '<' :: rest => do
    let (bytes, rest) ← nonemptyUri true rest
    match rest with
    | '>' :: rest => return (.tag [] bytes, rest)
    | _ => throw .badTag
  | cs =>
    match handle? cs with
    | none => .error .badTag
    | some (name, rest) => readSuffix name rest

/-- A tag that is not in full has a handle. -/
theorem readChars_of_other {cs : List Char} (other : ∀ rest, cs = '!' :: '<' :: rest → False) :
    readChars cs = match handle? cs with
      | none => .error .badTag
      | some (name, rest) => readSuffix name rest := by
  unfold readChars
  split
  · exact (other _ rfl).elim
  · rfl

/-- A tag is read from the characters of its text. -/
theorem read_eq (cursor : Cursor) : read cursor =
    readChars cursor.rest >>= fun found => .ok (found.1, cursor.moveTo found.2) := by
  unfold read
  generalize cursor.rest = cs
  split
  · rename_i rest
    change _ = (nonemptyUri true rest >>= fun found => _) >>= _
    rw [bind_assoc]
    refine congrArg (nonemptyUri true _ >>= ·) (funext fun found => ?_)
    obtain ⟨bytes, _ | ⟨c, more⟩⟩ := found
    · rfl
    by_cases ends : c = '>'
    · subst ends
      rfl
    · simp only [List.cons.injEq, ends, false_and, imp_self, implies_true]
      rfl
  · rename_i other
    rw [readChars_of_other other]
    cases handle? cs with
    | none => rfl
    | some found =>
      dsimp only [readSuffix]
      split <;> rw [bind_assoc] <;> rfl

/-- What stands behind a handle ends before the mark. -/
theorem readSuffix_alike (ends : Ends close) (after' : List Char) {name : List Char}
    {token : Token}
    (known : readSuffix name (body ++ close :: after) = .ok (token, rest))
    (within : after.length < rest.length) :
    ∃ before last, body = before ++ last ∧ rest = last ++ close :: after ∧
      readSuffix name (body ++ close :: after') = .ok (token, last ++ close :: after') := by
  unfold readSuffix at known ⊢
  split at known
  · rename_i declared
    obtain ⟨⟨bytes, left⟩, found, answer⟩ := Reading.bind_eq_ok_iff.mp known
    cases answer
    obtain ⟨before, last, splits, left, found'⟩ :=
      nonemptyUri_alike ends after' found within
    refine ⟨before, last, splits, left, ?_⟩
    rw [if_pos declared, found']
    rfl
  · rename_i undeclared
    obtain ⟨⟨bytes, left⟩, found, answer⟩ := Reading.bind_eq_ok_iff.mp known
    cases answer
    obtain ⟨before, last, splits, left, found'⟩ :=
      uri_alike ends after' (Nat.le_refl _) (Nat.le_refl _) found within
    refine ⟨before, last, splits, left, ?_⟩
    rw [if_neg undeclared, found']
    rfl

/-- A tag that does not start in full before the mark does not start so with it. -/
theorem append_mark_ne (ends : Ends close) (other : ¬∃ inner, body = '!' :: '<' :: inner)
    (after rest : List Char) : body ++ close :: after = '!' :: '<' :: rest → False := by
  intro same
  match body with
  | [] => exact ends.ne (by decide) (List.cons.inj same).1
  | [_] => exact ends.ne (by decide) (List.cons.inj (List.cons.inj same).2).1
  | _ :: _ :: inner =>
    obtain ⟨first, same⟩ := List.cons.inj same
    exact other ⟨inner, by rw [first, (List.cons.inj same).1]⟩

/-- A tag that ends before the mark. -/
theorem readChars_alike (ends : Ends close) (after' : List Char) {token : Token}
    (known : readChars (body ++ close :: after) = .ok (token, rest))
    (within : after.length < rest.length) :
    ∃ before last, body = before ++ last ∧ rest = last ++ close :: after ∧
      readChars (body ++ close :: after') = .ok (token, last ++ close :: after') := by
  by_cases inFull : ∃ inner, body = '!' :: '<' :: inner
  · obtain ⟨inner, rfl⟩ := inFull
    obtain ⟨⟨bytes, left⟩, found, answer⟩ := Reading.bind_eq_ok_iff.mp known
    dsimp only at answer
    split at answer
    · cases answer
      rename_i left
      obtain ⟨before, last, rfl, splits, found'⟩ := nonemptyUri_alike ends after'
        found (Nat.lt_succ_of_lt within)
      obtain _ | ⟨c, last⟩ := last
      · exact absurd (List.cons.inj splits).1.symm (ends.ne (by decide))
      · obtain ⟨rfl, rfl⟩ := List.cons.inj splits
        refine ⟨'!' :: '<' :: before ++ ['>'], last, by simp, rfl, ?_⟩
        change (nonemptyUri true (before ++ '>' :: last ++ close :: after') >>= _) = _
        rw [found']
        rfl
    · cases answer
  · rw [readChars_of_other (append_mark_ne ends inFull after)] at known
    rw [readChars_of_other (append_mark_ne ends inFull after')]
    split at known
    · cases known
    rename_i name left found
    obtain ⟨before, middle, rfl, rfl, found'⟩ := handle?_alike ends after' found
    obtain ⟨between, last, rfl, rfl, known'⟩ :=
      readSuffix_alike ends after' known within
    refine ⟨before ++ between, last, by rw [List.append_assoc], rfl, ?_⟩
    rw [found']
    exact known'

/-- A tag is read in the same way whatever comes after the mark. -/
theorem read_alike (closes : IsClosing close) {token : Token} {next : Cursor}
    (alike : Cursor.Alike shift close after after' cursor cursor')
    (known : read cursor = .ok (token, next)) (within : after.length < next.rest.length) :
    ∃ next', read cursor' = .ok (token, next') ∧
      Cursor.Alike shift close after after' next next' := by
  rw [read_eq] at known
  rw [read_eq]
  obtain ⟨⟨found, left⟩, chars, answer⟩ := Reading.bind_eq_ok_iff.mp known
  cases answer
  obtain ⟨body, rest, rest'⟩ := alike.rest
  have room : after.length < left.length := by
    rw [Cursor.moveTo, Cursor.length_rest_advance, alike.left] at within
    dsimp only at within
    omega
  rw [rest] at chars
  obtain ⟨before, last, rfl, rfl, chars'⟩ := readChars_alike closes.endsTag after' chars room
  rw [List.append_assoc] at rest rest'
  refine ⟨_, ?_, alike.moveTo rest rest'⟩
  rw [rest', ← List.append_assoc, chars']
  rfl

/-- A handle takes a character at least. -/
theorem length_handle?_lt {cs name : List Char} (known : handle? cs = some (name, rest)) :
    rest.length < cs.length := by
  unfold handle? at known
  split at known
  · rename_i more
    have dropped : (more.drop (more.takeWhile isWord).length).length ≤ more.length := by
      rw [List.length_drop]
      omega
    dsimp only at known
    split at known
    · rename_i second
      cases known
      rw [second, List.length_cons] at dropped
      simp only [List.length_cons]
      omega
    · cases known
      simp only [List.length_cons]
      omega
  · cases known

/-- What stands behind a handle does not add characters. -/
theorem length_readSuffix_le {cs name : List Char} {token : Token}
    (known : readSuffix name cs = .ok (token, rest)) : rest.length ≤ cs.length := by
  unfold readSuffix at known
  split at known
  · obtain ⟨_, found, answer⟩ := Reading.bind_eq_ok_iff.mp known
    cases answer
    exact length_nonemptyUri_le found
  · obtain ⟨_, found, answer⟩ := Reading.bind_eq_ok_iff.mp known
    cases answer
    exact length_uri_le found

/-- A tag takes a character at least. -/
theorem length_readChars_lt {cs : List Char} {token : Token}
    (known : readChars cs = .ok (token, rest)) : rest.length < cs.length := by
  unfold readChars at known
  split at known
  · obtain ⟨⟨bytes, left⟩, found, answer⟩ := Reading.bind_eq_ok_iff.mp known
    have shorter := length_nonemptyUri_le found
    dsimp only at answer
    split at answer
    · cases answer
      simp only [List.length_cons] at shorter ⊢
      omega
    · cases answer
  · split at known
    · cases known
    · rename_i found
      have shorter := length_handle?_lt found
      have shorter' := length_readSuffix_le known
      omega

/-- What is read from the characters of a tag is a tag. -/
theorem readChars_eq_tag {cs : List Char} {token : Token}
    (known : readChars cs = .ok (token, rest)) : ∃ handle suffix, token = .tag handle suffix := by
  unfold readChars at known
  split at known
  · obtain ⟨_, -, answer⟩ := Reading.bind_eq_ok_iff.mp known
    dsimp only at answer
    split at answer
    · cases answer
      exact ⟨_, _, rfl⟩
    · cases answer
  split at known
  · cases known
  unfold readSuffix at known
  split at known
  · obtain ⟨_, -, answer⟩ := Reading.bind_eq_ok_iff.mp known
    cases answer
    exact ⟨_, _, rfl⟩
  · obtain ⟨_, -, answer⟩ := Reading.bind_eq_ok_iff.mp known
    cases answer
    split
    · exact ⟨_, _, rfl⟩
    · exact ⟨_, _, rfl⟩

/-- What is read as a tag is a tag. -/
theorem read_eq_tag {token : Token} {next : Cursor} (known : read cursor = .ok (token, next)) :
    ∃ handle suffix, token = .tag handle suffix := by
  rw [read_eq] at known
  obtain ⟨_, chars, answer⟩ := Reading.bind_eq_ok_iff.mp known
  cases answer
  exact readChars_eq_tag chars

/-- After a tag the text goes on as before. -/
theorem read_suffix {token : Token} {next : Cursor} (known : read cursor = .ok (token, next)) :
    next.rest <:+ cursor.rest := by
  rw [read_eq] at known
  obtain ⟨_, -, answer⟩ := Reading.bind_eq_ok_iff.mp known
  cases answer
  exact Cursor.advance_suffix _ _

/-- A tag takes a character at least. -/
theorem length_read_lt {token : Token} {next : Cursor} (counted : cursor.left = cursor.rest.length)
    (known : read cursor = .ok (token, next)) : next.rest.length < cursor.rest.length := by
  rw [read_eq] at known
  obtain ⟨⟨found, left⟩, chars, answer⟩ := Reading.bind_eq_ok_iff.mp known
  cases answer
  have shorter := length_readChars_lt chars
  rw [Cursor.moveTo, Cursor.length_rest_advance, counted]
  dsimp only
  omega

end Tag

end Covenant.Yaml
