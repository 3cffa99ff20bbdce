import Covenant.Proofs.Document.Reading
import Covenant.Proofs.Yaml.Flow.Cursor
import Covenant.Yaml.Scalar

/-!
# Scalars before the same closing mark

A plain or quoted scalar that ends before the mark that closes the collection around it is read in
the same way whatever comes after the mark (`Plain.read_alike`, `Quoted.read_alike`).
-/
namespace Covenant.Yaml

variable {shift : Nat} {close : Char} {after after' : List Char} {cursor cursor' : Cursor}
  {fuel fuel' indent : Nat}

/-- Two scalars were read alike. -/
structure ScalarRead.Alike (shift : Nat) (close : Char) (after after' : List Char)
    (found found' : ScalarRead) : Prop where
  /-- The characters are the same. -/
  text : found'.text = found.text
  /-- A line ends after both or after neither. -/
  endsLine : found'.endsLine = found.endsLine
  /-- The places after them are alike. -/
  after : Cursor.Alike shift close after after' found.after found'.after

/-- A text that goes on up to a mark is not empty. -/
theorem Cursor.Alike.pos (alike : Cursor.Alike shift close after after' cursor cursor') :
    0 < cursor.rest.length ∧ 0 < cursor'.rest.length := by
  obtain ⟨body, rest, rest'⟩ := alike.rest
  rw [rest, rest', List.length_append, List.length_append, List.length_cons, List.length_cons]
  omega

namespace Gap

/-- Where no character is left, a gap ends. -/
theorem read_of_nil {gap : Gap} (ends : cursor.rest = []) :
    Gap.read indent fuel gap cursor = .ok (gap, cursor) := by
  cases fuel with
  | zero => rfl
  | succ fuel => rw [Gap.read, ends]

/-- What a gap does at a character: it takes a blank or a break, and ends before anything else. -/
theorem read_eq_ok_iff {gap gap₁ : Gap} {cursor₁ : Cursor} {c : Char} {rest : List Char}
    (next : cursor.rest = c :: rest) :
    Gap.read indent (fuel + 1) gap cursor = .ok (gap₁, cursor₁) ↔
      (isBlank c = true ∧ (gap.first.isSome && c == '\t' && cursor.column < indent) = false ∧
          Gap.read indent fuel (gap.addBlank c) (cursor.advance 1) = .ok (gap₁, cursor₁)) ∨
        (isBlank c = false ∧ isBreak c = true ∧
          Gap.read indent fuel (gap.addBreak cursor.crossBreak.1) cursor.crossBreak.2 =
            .ok (gap₁, cursor₁)) ∨
        (isGap c = false ∧ gap₁ = gap ∧ cursor₁ = cursor) := by
  have step : Gap.read indent (fuel + 1) gap cursor =
      if isBlank c then
        if gap.first.isSome && c == '\t' && cursor.column < indent then .error .tabIndentation
        else Gap.read indent fuel (gap.addBlank c) (cursor.advance 1)
      else if isBreak c then
        Gap.read indent fuel (gap.addBreak cursor.crossBreak.1) cursor.crossBreak.2
      else .ok (gap, cursor) := by
    rw [Gap.read, next]
  rw [step, isGap]
  cases isBlank c with
  | true => cases gap.first.isSome && c == '\t' && decide (cursor.column < indent) <;> simp
  | false =>
    cases isBreak c with
    | true => simp
    | false => simp [@eq_comm _ gap₁, @eq_comm _ cursor₁]

/-- After a gap the text goes on as before. -/
theorem read_suffix {gap gap₁ : Gap} {cursor₁ : Cursor}
    (read : Gap.read indent fuel gap cursor = .ok (gap₁, cursor₁)) :
    cursor₁.rest <:+ cursor.rest := by
  induction fuel generalizing gap cursor with
  | zero =>
    cases read
    exact List.suffix_refl _
  | succ fuel ih =>
    cases next : cursor.rest with
    | nil =>
      rw [read_of_nil next] at read
      cases read
      exact next ▸ List.suffix_refl _
    | cons c rest =>
      rw [← next]
      obtain ⟨-, -, read⟩ | ⟨-, -, read⟩ | ⟨-, -, rfl⟩ := (read_eq_ok_iff next).mp read
      · exact (ih read).trans (Cursor.advance_suffix cursor 1)
      · exact (ih read).trans (Cursor.crossBreak_suffix cursor)
      · exact List.suffix_refl _

/-- Reading a gap does not add characters. -/
theorem length_read_le {gap gap₁ : Gap} {cursor₁ : Cursor}
    (read : Gap.read indent fuel gap cursor = .ok (gap₁, cursor₁)) :
    cursor₁.rest.length ≤ cursor.rest.length :=
  (read_suffix read).length_le

/-- A gap that is there is read. -/
theorem length_read_lt {gap gap₁ : Gap} {cursor₁ : Cursor} {c : Char} {rest : List Char}
    (next : cursor.rest = c :: rest) (starts : isGap c = true)
    (read : Gap.read indent (fuel + 1) gap cursor = .ok (gap₁, cursor₁)) :
    cursor₁.rest.length < cursor.rest.length := by
  obtain ⟨-, -, read⟩ | ⟨-, breaks, read⟩ | ⟨other, -, -⟩ := (read_eq_ok_iff next).mp read
  · have shorter := length_read_le read
    rw [Cursor.length_rest_advance, next, List.length_cons] at shorter
    rw [next, List.length_cons]
    omega
  · exact Nat.lt_of_le_of_lt (length_read_le read) (Cursor.length_rest_crossBreak_lt next breaks)
  · exact absurd (starts.symm.trans other) nofun

/-- A gap ends before the mark at the latest. -/
theorem read_alike (closes : IsClosing close) {gap gap₁ : Gap} {cursor₁ : Cursor}
    (alike : Cursor.Alike shift close after after' cursor cursor')
    (indent_le : indent ≤ 1) (enough : cursor.rest.length ≤ fuel)
    (enough' : cursor'.rest.length ≤ fuel')
    (read : Gap.read indent fuel gap cursor = .ok (gap₁, cursor₁)) :
    ∃ cursor₁', Gap.read indent fuel' gap cursor' = .ok (gap₁, cursor₁') ∧
      Cursor.Alike shift close after after' cursor₁ cursor₁' := by
  induction fuel generalizing gap cursor cursor' fuel' with
  | zero => exact absurd alike.pos.1 (by omega)
  | succ fuel ih =>
    obtain _ | fuel' := fuel'
    · exact absurd alike.pos.2 (by omega)
    obtain ⟨_ | ⟨c, body⟩, rest, rest'⟩ := alike.rest
    -- The mark itself is in no gap.
    · obtain ⟨blank, -⟩ | ⟨-, breaks, -⟩ | ⟨stops, rfl, rfl⟩ := (read_eq_ok_iff rest).mp read
      · exact absurd (blank.symm.trans closes.not_isBlank_isBreak.1) nofun
      · exact absurd (breaks.symm.trans closes.not_isBlank_isBreak.2) nofun
      · exact ⟨cursor', (read_eq_ok_iff rest').mpr (.inr (.inr ⟨stops, rfl, rfl⟩)), alike⟩
    obtain ⟨blank, inside, read⟩ | ⟨unblank, breaks, read⟩ | ⟨stops, rfl, rfl⟩ :=
      (read_eq_ok_iff rest).mp read
    · have inside' : (gap.first.isSome && c == '\t' && cursor'.column < indent) = false := by
        have columns : cursor'.column < indent ↔ cursor.column < indent := by
          have := alike.column_eq_zero
          omega
        simp only [columns]
        exact inside
      have moved := alike.advance_of_le rest (show 1 ≤ (c :: body).length from Nat.succ_pos _)
      have shorter := Cursor.length_rest_advance cursor 1
      have shorter' := Cursor.length_rest_advance cursor' 1
      obtain ⟨cursor₁', read', alike₁⟩ :=
        ih moved (by omega) (show (cursor'.advance 1).rest.length ≤ fuel' by omega) read
      exact ⟨cursor₁', (read_eq_ok_iff rest').mpr (.inl ⟨blank, inside', read'⟩), alike₁⟩
    · obtain ⟨meaning, crossed⟩ := alike.crossBreak closes
      have shorter := Cursor.length_rest_crossBreak_lt rest breaks
      have shorter' := Cursor.length_rest_crossBreak_lt rest' breaks
      obtain ⟨cursor₁', read', alike₁⟩ :=
        ih crossed (by omega) (show cursor'.crossBreak.2.rest.length ≤ fuel' by omega) read
      rw [← meaning] at read'
      exact ⟨cursor₁', (read_eq_ok_iff rest').mpr (.inr (.inl ⟨unblank, breaks, read'⟩)), alike₁⟩
    · exact ⟨cursor', (read_eq_ok_iff rest').mpr (.inr (.inr ⟨stops, rfl, rfl⟩)), alike⟩

end Gap

namespace Plain

/-- A run of a plain scalar ends before the mark at the latest. -/
theorem run_alike (closes : IsClosing close) (body after after' : List Char) :
    run true (body ++ close :: after') = run true (body ++ close :: after) ∧
      ∀ taken, run true (body ++ close :: after) = .ok taken → taken.length ≤ body.length := by
  induction body with
  | nil =>
    have stops : ∀ rest, run true (close :: rest) = .ok [] := by
      intro rest
      rcases closes with rfl | rfl <;> rfl
    rw [List.nil_append, List.nil_append, stops, stops]
    exact ⟨rfl, fun taken read => by cases read; exact Nat.le_refl _⟩
  | cons c body ih =>
    rw [List.cons_append, List.cons_append, run, run, head?_append_mark body after after',
      startsGap_append_mark body after after', ih.1]
    refine ⟨rfl, fun taken read => ?_⟩
    split at read
    · cases read
      exact Nat.zero_le _
    split at read
    · cases read
    split at read
    · cases read
      exact Nat.zero_le _
    · obtain ⟨more, found, answer⟩ := Reading.bind_eq_ok_iff.mp read
      cases answer
      exact Nat.succ_le_succ (ih.2 more found)

/-- What reading a plain scalar does first: it ends, or takes a run with the gap after it. -/
theorem readFrom_eq_ok_iff {gap : Gap} {found : ScalarRead} :
    readFrom true indent (fuel + 1) gap cursor = .ok found ↔
      (((cursor.atDocumentMarker || cursor.isAt '#') = true ∨ run true cursor.rest = .ok []) ∧
          found = ⟨[], gap.first.isSome, cursor⟩) ∨
        ((cursor.atDocumentMarker || cursor.isAt '#') = false ∧
          ∃ taken nextGap next further, run true cursor.rest = .ok taken ∧ taken ≠ [] ∧
            Gap.read indent (cursor.advance taken.length).left {} (cursor.advance taken.length) =
              .ok (nextGap, next) ∧
            readFrom true indent fuel nextGap next = .ok further ∧
            found = { further with text := gap.fold ++ taken ++ further.text }) := by
  have step : readFrom true indent (fuel + 1) gap cursor =
      if cursor.atDocumentMarker || cursor.isAt '#' then .ok ⟨[], gap.first.isSome, cursor⟩
      else run true cursor.rest >>= fun taken =>
        if taken.isEmpty then .ok ⟨[], gap.first.isSome, cursor⟩
        else Gap.read indent (cursor.advance taken.length).left {} (cursor.advance taken.length) >>=
          fun next => readFrom true indent fuel next.1 next.2 >>= fun further =>
            .ok { further with text := gap.fold ++ taken ++ further.text } := by
    rw [readFrom]
    rfl
  rw [step]
  constructor
  · intro read
    split at read
    · rename_i ends
      cases read
      exact .inl ⟨.inl ends, rfl⟩
    rename_i goes
    obtain ⟨taken, taken_run, read⟩ := Reading.bind_eq_ok_iff.mp read
    split at read
    · rename_i nothing
      cases read
      exact .inl ⟨.inr (List.isEmpty_iff.mp nothing ▸ taken_run), rfl⟩
    · rename_i something
      obtain ⟨⟨nextGap, next⟩, gap_read, read⟩ := Reading.bind_eq_ok_iff.mp read
      obtain ⟨further, further_read, answer⟩ := Reading.bind_eq_ok_iff.mp read
      exact .inr ⟨Bool.eq_false_iff.mpr goes, taken, nextGap, next, further, taken_run,
        fun none => something (List.isEmpty_iff.mpr none), gap_read, further_read,
        (Except.ok.inj answer).symm⟩
  · rintro (⟨ends, rfl⟩ | ⟨goes, taken, nextGap, next, further, taken_run, something, gap_read,
      further_read, rfl⟩)
    · split
      · rfl
      · rename_i goes
        rw [ends.resolve_left goes]
        rfl
    · have filled : taken.isEmpty = false := List.isEmpty_eq_false_iff.mpr something
      rw [goes, taken_run]
      change (if taken.isEmpty then _ else _) = _
      rw [filled, gap_read]
      change (readFrom true indent fuel nextGap next >>= _) = _
      rw [further_read]
      rfl

/-- A plain scalar ends before the mark at the latest. -/
theorem readFrom_alike (closes : IsClosing close) {gap : Gap} {found : ScalarRead}
    (alike : Cursor.Alike shift close after after' cursor cursor') (indent_le : indent ≤ 1)
    (enough : cursor.rest.length < fuel) (enough' : cursor'.rest.length < fuel')
    (read : readFrom true indent fuel gap cursor = .ok found) :
    ∃ found', readFrom true indent fuel' gap cursor' = .ok found' ∧
      ScalarRead.Alike shift close after after' found found' := by
  induction fuel generalizing gap cursor cursor' fuel' found with
  | zero => omega
  | succ fuel ih =>
    obtain _ | fuel' := fuel'
    · omega
    obtain ⟨body, rest, rest'⟩ := alike.rest
    have runs : run true cursor'.rest = run true cursor.rest := by
      rw [rest, rest']
      exact (run_alike closes body after after').1
    have stops : (cursor'.atDocumentMarker || cursor'.isAt '#') =
        (cursor.atDocumentMarker || cursor.isAt '#') := by
      rw [alike.atDocumentMarker closes, alike.isAt]
    obtain ⟨ends, rfl⟩ | ⟨goes, taken, nextGap, next, further, taken_run, something, gap_read,
      further_read, rfl⟩ := readFrom_eq_ok_iff.mp read
    · rw [← stops, ← runs] at ends
      exact ⟨_, readFrom_eq_ok_iff.mpr (.inl ⟨ends, rfl⟩), rfl, rfl, alike⟩
    have bound : taken.length ≤ body.length :=
      (run_alike closes body after after').2 taken (rest ▸ taken_run)
    have moved := alike.advance_of_le rest bound
    obtain ⟨next', gap_read', next_alike⟩ := Gap.read_alike closes moved indent_le
      (Nat.le_of_eq moved.left.symm) (Nat.le_of_eq moved.left'.symm) gap_read
    -- A run that is not empty leaves fewer characters, so the fuel lasts.
    have positive : 0 < taken.length := List.length_pos_iff.mpr something
    have filled := alike.pos
    have shorter := Gap.length_read_le gap_read
    have shorter' := Gap.length_read_le gap_read'
    rw [Cursor.length_rest_advance] at shorter shorter'
    obtain ⟨further', further_read', further_alike⟩ :=
      ih next_alike (by omega) (show next'.rest.length < fuel' by omega) further_read
    rw [← stops] at goes
    rw [← runs] at taken_run
    exact ⟨_, readFrom_eq_ok_iff.mpr (.inr ⟨goes, taken, nextGap, next', further', taken_run,
        something, gap_read', further_read', rfl⟩),
      congrArg (gap.fold ++ taken ++ ·) further_alike.text, further_alike.endsLine,
      further_alike.after⟩

/-- After a plain scalar the text goes on as before. -/
theorem readFrom_suffix {gap : Gap} {found : ScalarRead}
    (read : readFrom true indent fuel gap cursor = .ok found) :
    found.after.rest <:+ cursor.rest := by
  induction fuel generalizing gap cursor found with
  | zero =>
    cases read
    exact List.suffix_refl _
  | succ fuel ih =>
    obtain ⟨-, rfl⟩ | ⟨-, taken, nextGap, next, further, -, -, gap_read, further_read, rfl⟩ :=
      readFrom_eq_ok_iff.mp read
    · exact List.suffix_refl _
    · exact (ih further_read).trans ((Gap.read_suffix gap_read).trans (Cursor.advance_suffix _ _))

/-- A character that a plain scalar holds wherever it stands in it. -/
def isOrdinary (c : Char) : Bool := !isGap c && c != ':' && !isFlowIndicator c

/-- A plain scalar that starts with an ordinary character takes it. -/
theorem length_readFrom_lt {gap : Gap} {found : ScalarRead} {c : Char} {rest : List Char}
    (next : cursor.rest = c :: rest) (ordinary : isOrdinary c = true) (uncommented : c ≠ '#')
    (unmarked : cursor.atDocumentMarker = false)
    (read : readFrom true indent (fuel + 1) gap cursor = .ok found) :
    found.after.rest.length < cursor.rest.length := by
  have notAt : cursor.isAt '#' = false := by
    rw [Cursor.isAt_of_rest next, beq_eq_false_iff_ne]
    exact uncommented
  simp only [isOrdinary, Bool.and_eq_true, Bool.not_eq_true', bne_iff_ne, ne_eq] at ordinary
  obtain ⟨⟨notGap, notColon⟩, notIndicator⟩ := ordinary
  have some_taken : ∀ taken, run true cursor.rest = .ok taken → 0 < taken.length := by
    intro taken taken_run
    rw [next, run] at taken_run
    simp only [notGap, notIndicator, beq_eq_false_iff_ne.mpr notColon, Bool.false_and,
      Bool.and_false, Bool.or_self, Bool.false_eq_true, if_false] at taken_run
    obtain ⟨more, -, answer⟩ := Reading.bind_eq_ok_iff.mp taken_run
    cases answer
    exact Nat.succ_pos _
  obtain ⟨ends | nothing, -⟩ | ⟨-, taken, nextGap, after, further, taken_run, -, gap_read,
    further_read, rfl⟩ := readFrom_eq_ok_iff.mp read
  · rw [unmarked, notAt] at ends
    cases ends
  · exact absurd (some_taken [] nothing) (Nat.lt_irrefl 0)
  · have positive := some_taken taken taken_run
    have shorter := Gap.length_read_le gap_read
    have shortest : further.after.rest.length ≤ after.rest.length :=
      (readFrom_suffix further_read).length_le
    rw [Cursor.length_rest_advance] at shorter
    have filled : 0 < cursor.rest.length := by
      rw [next]
      exact Nat.succ_pos _
    change further.after.rest.length < _
    omega

end Plain

namespace Quoted

/-- One step into a run between single quotes. -/
theorem singleRun_cons (c : Char) (rest : List Char) :
    singleRun (c :: rest) =
      if c = '\'' then
        if rest.head? = some '\'' then
          ('\'' :: (singleRun rest.tail).1, (singleRun rest.tail).2 + 2)
        else ([], 0)
      else if isGap c then ([], 0) else (c :: (singleRun rest).1, (singleRun rest).2 + 1) := by
  by_cases quote : c = '\''
  · subst quote
    rw [if_pos rfl]
    cases rest with
    | nil => rfl
    | cons d rest =>
      by_cases twice : d = '\''
      · subst twice
        rfl
      · rw [List.head?_cons, if_neg fun same => twice (Option.some.inj same), singleRun]
        exact fun _ same => twice (List.cons.inj same).1
  · rw [if_neg quote, singleRun]
    · exact fun _ same => absurd same quote
    · exact quote

/-- A run between single quotes that ends before the mark. -/
theorem singleRun_alike (closes : IsClosing close) : ∀ body : List Char,
    (singleRun (body ++ close :: after)).2 ≤ body.length →
      singleRun (body ++ close :: after') = singleRun (body ++ close :: after)
  | [], within => by
    have taken : (singleRun (close :: after)).2 = (singleRun after).2 + 1 := by
      rcases closes with rfl | rfl <;> rfl
    rw [List.nil_append, taken] at within
    exact absurd within (Nat.not_succ_le_zero _)
  | c :: body, within => by
    rw [List.cons_append, singleRun_cons] at within
    rw [List.cons_append, List.cons_append, singleRun_cons, singleRun_cons,
      head?_append_mark body after after']
    split at within
    · rename_i quote
      rw [if_pos quote, if_pos quote]
      split at within
      · rename_i twice
        rw [if_pos twice, if_pos twice]
        match body with
        | [] =>
          exact absurd (Option.some.inj twice) (closes.ne (by decide))
        | _ :: body =>
          have shorter : (singleRun (body ++ close :: after)).2 + 2 ≤ body.length + 2 := within
          have same := singleRun_alike closes body (by omega)
          simp only [List.cons_append, List.tail_cons, same]
      · rename_i once
        rw [if_neg once, if_neg once]
    · rename_i notQuote
      rw [if_neg notQuote, if_neg notQuote]
      split
      · rfl
      · rename_i notGap
        rw [if_neg notGap] at within
        rw [singleRun_alike closes body (Nat.le_of_succ_le_succ within)]

/-- A code has hexadecimal digits only. -/
theorem isSome_hexDigit?_of_charOfHex? {digits : List Char} {c digit : Char}
    (code : charOfHex? digits = some c) (member : digit ∈ digits) :
    (hexDigit? digit).isSome = true := by
  unfold charOfHex? at code
  obtain ⟨found, folded, -⟩ := Option.bind_eq_some_iff.mp code
  clear code
  generalize (0 : Nat) = start at folded
  induction digits generalizing start with
  | nil => cases member
  | cons head rest ih =>
    rw [List.foldlM_cons] at folded
    obtain ⟨next, first, others⟩ := Option.bind_eq_some_iff.mp folded
    rcases List.mem_cons.mp member with rfl | later
    · cases known : hexDigit? digit with
      | none =>
        rw [known] at first
        cases first
      | some _ => rfl
    · exact ih later next others

/-- An escape has a letter at least. -/
theorem pos_of_escaped? {letter c : Char} {rest : List Char} {width : Nat}
    (known : escaped? letter rest = some (c, width)) : 0 < width := by
  unfold escaped? at known
  split at known
  · dsimp only at known
    split at known
    · cases known
    · obtain ⟨_, -, pair⟩ := Option.map_eq_some_iff.mp known
      cases pair
      exact Nat.succ_pos _
  · obtain ⟨_, -, pair⟩ := Option.map_eq_some_iff.mp known
    cases pair
    exact Nat.one_pos

/-- The digits of a character's code are before the mark. -/
theorem escaped?_alike (closes : IsClosing close) (after' : List Char) {letter c : Char}
    {width : Nat} {body : List Char}
    (known : escaped? letter (body ++ close :: after) = some (c, width)) :
    width - 1 ≤ body.length ∧ escaped? letter (body ++ close :: after') = some (c, width) := by
  have notHex : (hexDigit? close).isSome = false := by
    rcases closes with rfl | rfl <;> decide
  unfold escaped? at known ⊢
  cases length : codeLength? letter with
  | none =>
    simp only [length] at known ⊢
    obtain ⟨_, -, pair⟩ := Option.map_eq_some_iff.mp known
    cases pair
    exact ⟨Nat.zero_le _, known⟩
  | some count =>
    simp only [length] at known ⊢
    split at known
    · cases known
    obtain ⟨code, found, pair⟩ := Option.map_eq_some_iff.mp known
    cases pair
    have within : count ≤ body.length := by
      by_contra beyond
      have member : close ∈ (body ++ close :: after).take count := by
        rw [List.take_append]
        apply List.mem_append_right
        obtain ⟨more, rest⟩ : ∃ more, count - body.length = more + 1 :=
          ⟨count - body.length - 1, by omega⟩
        rw [rest]
        exact List.mem_cons_self
      rw [isSome_hexDigit?_of_charOfHex? found member] at notHex
      cases notHex
    refine ⟨within, ?_⟩
    rw [List.take_append_of_le_length within] at known ⊢
    rename_i enough
    rw [List.take_append_of_le_length within] at enough
    rw [if_neg enough, known]

/-- What a run between double quotes does at a backslash: it ends if a break is escaped, and goes on
behind any other escape. -/
theorem doubleRun_backslash_iff {rest taken : List Char} {count : Nat} :
    doubleRun (fuel + 1) ('\\' :: rest) = .ok (taken, count) ↔ ∃ letter others,
      rest = letter :: others ∧ ((isBreak letter = true ∧ taken = [] ∧ count = 0) ∨
        (isBreak letter = false ∧ ∃ c width more inner, escaped? letter others = some (c, width) ∧
          doubleRun fuel (others.drop (width - 1)) = .ok (more, inner) ∧
          taken = c :: more ∧ count = inner + width + 1)) := by
  obtain _ | ⟨letter, others⟩ := rest
  · exact ⟨nofun, nofun⟩
  constructor
  · intro read
    refine ⟨letter, others, rfl, ?_⟩
    rw [doubleRun] at read
    split at read
    · rename_i breaks
      cases read
      exact .inl ⟨breaks, rfl, rfl⟩
    rename_i goes
    split at read
    · rename_i c width known
      obtain ⟨⟨more, inner⟩, found, answer⟩ := Reading.bind_eq_ok_iff.mp read
      cases answer
      exact .inr ⟨Bool.eq_false_iff.mpr goes, c, width, more, inner, known, found, rfl, rfl⟩
    · cases read
  · rintro ⟨_, _, ⟨⟩, ⟨breaks, rfl, rfl⟩ | ⟨goes, c, width, more, inner, known, found, rfl, rfl⟩⟩
    · rw [doubleRun, if_pos breaks]
    · rw [doubleRun, goes]
      simp only [known, found, Bool.false_eq_true, if_false]
      rfl

/-- What a run between double quotes does at any other character: it ends at a quote and before a
gap, and takes the character elsewhere. -/
theorem doubleRun_cons_iff {rest taken : List Char} {count : Nat} {c : Char} (other : c ≠ '\\') :
    doubleRun (fuel + 1) (c :: rest) = .ok (taken, count) ↔
      ((c = '"' ∨ isGap c = true) ∧ taken = [] ∧ count = 0) ∨
        (c ≠ '"' ∧ isGap c = false ∧ ∃ more inner, doubleRun fuel rest = .ok (more, inner) ∧
          taken = c :: more ∧ count = inner + 1) := by
  have step : doubleRun (fuel + 1) (c :: rest) =
      if c = '"' then .ok ([], 0)
      else if isGap c then .ok ([], 0)
      else doubleRun fuel rest >>= fun found => .ok (c :: found.1, found.2 + 1) := by
    by_cases quote : c = '"'
    · subst quote
      rfl
    · rw [if_neg quote, doubleRun]
      · rfl
      · exact quote
      · exact fun same _ => other same
      · exact fun _ _ same _ => other same
  rw [step]
  constructor
  · intro read
    split at read
    · rename_i quote
      cases read
      exact .inl ⟨.inl quote, rfl, rfl⟩
    rename_i notQuote
    split at read
    · rename_i gap
      cases read
      exact .inl ⟨.inr gap, rfl, rfl⟩
    · rename_i notGap
      obtain ⟨⟨more, inner⟩, found, answer⟩ := Reading.bind_eq_ok_iff.mp read
      cases answer
      exact .inr ⟨notQuote, Bool.eq_false_iff.mpr notGap, more, inner, found, rfl, rfl⟩
  · rintro (⟨quote | gap, rfl, rfl⟩ | ⟨notQuote, notGap, more, inner, found, rfl, rfl⟩)
    · rw [if_pos quote]
    · rw [if_pos gap, ite_self]
    · rw [if_neg notQuote, notGap, found]
      rfl

/-- A run between double quotes that starts with the mark takes it. -/
theorem pos_of_doubleRun_mark (closes : IsClosing close) {taken : List Char} {count : Nat}
    (read : doubleRun (fuel + 1) (close :: after) = .ok (taken, count)) : 0 < count := by
  have notBackslash : close ≠ '\\' := closes.ne (by decide)
  obtain ⟨quote | gap, -, -⟩ | ⟨-, -, more, inner, -, -, rfl⟩ :=
    (doubleRun_cons_iff notBackslash).mp read
  · exact absurd quote (closes.ne (by decide))
  · exact absurd (gap.symm.trans closes.not_isGap) nofun
  · exact Nat.succ_pos inner

/-- The mark is no letter of an escape. -/
theorem doubleRun_backslash_mark (closes : IsClosing close) (after : List Char) :
    doubleRun (fuel + 1) ('\\' :: close :: after) = .error .badEscape := by
  rcases closes with rfl | rfl <;> rfl

/-- A run between double quotes that ends before the mark. -/
theorem doubleRun_alike (closes : IsClosing close) {body taken : List Char} {count : Nat}
    (enough : (body ++ close :: after).length ≤ fuel)
    (enough' : (body ++ close :: after').length ≤ fuel') (within : count ≤ body.length)
    (read : doubleRun fuel (body ++ close :: after) = .ok (taken, count)) :
    doubleRun fuel' (body ++ close :: after') = .ok (taken, count) := by
  induction fuel generalizing body taken count fuel' with
  | zero => simp at enough
  | succ fuel ih =>
    obtain _ | fuel' := fuel'
    · simp at enough'
    obtain _ | ⟨c, body⟩ := body
    · have positive := pos_of_doubleRun_mark closes read
      exact absurd within (Nat.not_le_of_lt positive)
    simp only [List.cons_append, List.length_cons, List.length_append] at enough enough' within
    rw [List.cons_append] at read ⊢
    by_cases backslash : c = '\\'
    · subst backslash
      obtain _ | ⟨_, body⟩ := body
      · rw [List.nil_append, doubleRun_backslash_mark closes] at read
        cases read
      obtain ⟨letter, others, split, step⟩ := doubleRun_backslash_iff.mp read
      rw [List.cons_append] at split
      obtain ⟨rfl, rfl⟩ := List.cons.inj split
      refine doubleRun_backslash_iff.mpr ⟨_, body ++ close :: after', rfl, ?_⟩
      obtain ended | ⟨goes, c, width, more, inner, known, found, rfl, rfl⟩ := step
      · exact .inl ended
      obtain ⟨bound, known'⟩ := escaped?_alike closes after' known
      have positive := pos_of_escaped? known
      have dropped : (body.drop (width - 1)).length = body.length - (width - 1) :=
        List.length_drop
      rw [List.drop_append_of_le_length bound] at found
      simp only [List.length_cons] at enough enough' within
      have found' : doubleRun fuel' (body.drop (width - 1) ++ close :: after') =
          .ok (more, inner) := by
        refine ih ?_ ?_ ?_ found
        all_goals
          simp only [List.length_append, List.length_cons, dropped]
          omega
      rw [← List.drop_append_of_le_length bound] at found'
      exact .inr ⟨goes, c, width, more, inner, known', found', rfl, rfl⟩
    · refine (doubleRun_cons_iff backslash).mpr ?_
      obtain ended | ⟨notQuote, notGap, more, inner, found, rfl, rfl⟩ :=
        (doubleRun_cons_iff backslash).mp read
      · exact .inl ended
      have found' : doubleRun fuel' (body ++ close :: after') = .ok (more, inner) := by
        refine ih ?_ ?_ (Nat.le_of_succ_le_succ within) found
        all_goals
          simp only [List.length_append, List.length_cons]
          omega
      exact .inr ⟨notQuote, notGap, more, inner, found', rfl, rfl⟩

/-- A run between single quotes ends at a quote or a gap. -/
theorem singleRun_stops : ∀ (cs : List Char) {c : Char} {rest : List Char},
    cs.drop (singleRun cs).2 = c :: rest → c = '\'' ∨ isGap c = true
  | [], _, _, left => by cases left
  | d :: cs, c, rest, left => by
    rw [singleRun_cons] at left
    split at left
    · rename_i quote
      split at left
      · obtain _ | ⟨_, cs⟩ := cs
        · cases left
        · exact singleRun_stops cs left
      · exact .inl ((List.cons.inj left).1 ▸ quote)
    · split at left
      · rename_i gap
        exact .inr ((List.cons.inj left).1 ▸ gap)
      · exact singleRun_stops cs left

/-- A run between double quotes ends at a quote, a gap or a backslash. -/
theorem doubleRun_stops {cs taken rest : List Char} {count : Nat} {c : Char}
    (enough : cs.length ≤ fuel) (read : doubleRun fuel cs = .ok (taken, count))
    (left : cs.drop count = c :: rest) : c = '"' ∨ isGap c = true ∨ c = '\\' := by
  induction fuel generalizing cs taken count with
  | zero =>
    rw [List.length_eq_zero_iff.mp (Nat.le_zero.mp enough), List.drop_nil] at left
    cases left
  | succ fuel ih =>
    obtain _ | ⟨d, cs⟩ := cs
    · rw [List.drop_nil] at left
      cases left
    rw [List.length_cons] at enough
    by_cases backslash : d = '\\'
    · subst backslash
      obtain ⟨letter, cs, rfl, ⟨-, -, rfl⟩ | ⟨-, _, width, more, inner, known, found, -, rfl⟩⟩ :=
        doubleRun_backslash_iff.mp read
      · exact .inr (.inr (List.cons.inj left).1.symm)
      have positive := pos_of_escaped? known
      rw [List.length_cons] at enough
      refine ih ?_ found ?_
      · rw [List.length_drop]
        omega
      · have total : inner + width + 1 = (width - 1 + inner) + 1 + 1 := by omega
        rw [total, List.drop_succ_cons, List.drop_succ_cons, ← List.drop_drop] at left
        exact left
    · obtain ⟨ends, -, rfl⟩ | ⟨-, -, more, inner, found, -, rfl⟩ :=
        (doubleRun_cons_iff backslash).mp read
      · rw [← (List.cons.inj left).1]
        exact ends.imp_right .inl
      · exact ih (Nat.le_of_succ_le_succ enough) found left

/-- A run ends at its quote, at a gap or, between double quotes, at a backslash. -/
theorem run_stops {style : Style} {taken : List Char} {count : Nat} {c : Char} {rest : List Char}
    (counted : cursor.left = cursor.rest.length) (read : run style cursor = .ok (taken, count))
    (next : (cursor.advance count).rest = c :: rest) :
    c = mark style ∨ isGap c = true ∨ (style ≠ .singleQuoted ∧ c = '\\') := by
  by_cases single : style = .singleQuoted
  · subst single
    have same : (singleRun cursor.rest).2 = count := congrArg Prod.snd (Except.ok.inj read)
    rw [Cursor.rest_advance, ← same] at next
    exact (singleRun_stops _ next).imp_right .inl
  · have double : doubleRun cursor.left cursor.rest = .ok (taken, count) := by
      rw [← read]
      cases style <;> first | rfl | exact absurd rfl single
    have quote : mark style = '"' := by
      cases style <;> first | rfl | exact absurd rfl single
    rw [quote]
    exact (doubleRun_stops (Nat.le_of_eq counted.symm) double next).imp_right
      (.imp_right fun backslash => ⟨single, backslash⟩)

/-- A run that ends before the mark. -/
theorem run_alike (closes : IsClosing close) {style : Style} {taken : List Char} {count : Nat}
    (alike : Cursor.Alike shift close after after' cursor cursor')
    (read : run style cursor = .ok (taken, count))
    (within : after.length < (cursor.advance count).rest.length) :
    run style cursor' = .ok (taken, count) := by
  obtain ⟨body, rest, rest'⟩ := alike.rest
  have bound : count ≤ body.length := by
    rw [Cursor.length_rest_advance, rest, List.length_append, List.length_cons] at within
    omega
  by_cases single : style = .singleQuoted
  · subst single
    have same : singleRun cursor.rest = (taken, count) := Except.ok.inj read
    rw [rest] at same
    change Except.ok (singleRun cursor'.rest) = _
    rw [rest', singleRun_alike closes body (by rw [same]; exact bound), same]
  · have double : doubleRun cursor.left cursor.rest = .ok (taken, count) := by
      rw [← read]
      cases style <;> first | rfl | exact absurd rfl single
    have double' : run style cursor' = doubleRun cursor'.left cursor'.rest := by
      cases style <;> first | rfl | exact absurd rfl single
    have left := alike.left
    have left' := alike.left'
    rw [rest] at double left
    rw [rest'] at left'
    rw [double', rest']
    exact doubleRun_alike closes (Nat.le_of_eq left.symm) (Nat.le_of_eq left'.symm) bound double

/-- The place after a run, with an escaped break after it crossed, and whether there was one. -/
def afterRun (style : Style) (cursor : Cursor) (count : Nat) : Bool × Cursor :=
  let cursor := cursor.advance count
  let escaped := style != .singleQuoted && cursor.isAt '\\'
  (escaped, if escaped then (cursor.advance 1).crossBreak.2 else cursor)

/-- What reading a quoted scalar does first: it takes a run, and ends if the quote comes next, or
goes on behind the gap after the run. -/
theorem readFrom_eq_ok_iff {style : Style} {found : ScalarRead} :
    readFrom style (fuel + 1) cursor = .ok found ↔
      (cursor.atDocumentMarker || cursor.atEnd) = false ∧
        ∃ taken count, run style cursor = .ok (taken, count) ∧
          (((afterRun style cursor count).2.isAt (mark style) = true ∧
              found = ⟨taken, false, (afterRun style cursor count).2.advance 1⟩) ∨
            ((afterRun style cursor count).2.isAt (mark style) = false ∧ ∃ gap next further,
              Gap.read 0 (afterRun style cursor count).2.left
                (if (afterRun style cursor count).1 then { first := some [] } else {})
                (afterRun style cursor count).2 = .ok (gap, next) ∧
              readFrom style fuel next = .ok further ∧
              found = { further with text := taken ++ gap.fold ++ further.text })) := by
  have step : readFrom style (fuel + 1) cursor =
      if cursor.atDocumentMarker || cursor.atEnd then .error .unclosedQuote
      else run style cursor >>= fun taken =>
        if (afterRun style cursor taken.2).2.isAt (mark style) then
          .ok ⟨taken.1, false, (afterRun style cursor taken.2).2.advance 1⟩
        else Gap.read 0 (afterRun style cursor taken.2).2.left
            (if (afterRun style cursor taken.2).1 then { first := some [] } else {})
            (afterRun style cursor taken.2).2 >>= fun next =>
          readFrom style fuel next.2 >>= fun further =>
            .ok { further with text := taken.1 ++ next.1.fold ++ further.text } := by
    rw [readFrom]
    rfl
  rw [step]
  constructor
  · intro read
    split at read
    · cases read
    rename_i goes
    obtain ⟨⟨taken, count⟩, taken_run, read⟩ := Reading.bind_eq_ok_iff.mp read
    refine ⟨Bool.eq_false_iff.mpr goes, taken, count, taken_run, ?_⟩
    split at read
    · rename_i ends
      cases read
      exact .inl ⟨ends, rfl⟩
    · rename_i inside
      obtain ⟨⟨gap, next⟩, gap_read, read⟩ := Reading.bind_eq_ok_iff.mp read
      obtain ⟨further, further_read, answer⟩ := Reading.bind_eq_ok_iff.mp read
      exact .inr ⟨Bool.eq_false_iff.mpr inside, gap, next, further, gap_read, further_read,
        (Except.ok.inj answer).symm⟩
  · rintro ⟨goes, taken, count, taken_run, ⟨ends, rfl⟩ |
      ⟨inside, gap, next, further, gap_read, further_read, rfl⟩⟩
    · rw [goes, taken_run]
      exact if_pos ends
    · rw [goes, taken_run]
      refine (if_neg (Bool.eq_false_iff.mp inside)).trans ?_
      rw [gap_read]
      change (readFrom style fuel next >>= _) = _
      rw [further_read]
      rfl

/-- After a run the text goes on as before. -/
theorem afterRun_suffix (style : Style) (cursor : Cursor) (count : Nat) :
    (afterRun style cursor count).2.rest <:+ (cursor.advance count).rest := by
  unfold afterRun
  dsimp only
  split
  · exact (Cursor.crossBreak_suffix _).trans (Cursor.advance_suffix _ 1)
  · exact List.suffix_refl _

/-- An escaped break is before the mark. -/
theorem afterRun_alike (closes : IsClosing close) (count : Nat) (style : Style)
    (alike : Cursor.Alike shift close after after' cursor cursor')
    (within : after.length < (cursor.advance count).rest.length) :
    (afterRun style cursor' count).1 = (afterRun style cursor count).1 ∧
      Cursor.Alike shift close after after' (afterRun style cursor count).2
        (afterRun style cursor' count).2 := by
  have moved := alike.advance within
  unfold afterRun
  dsimp only
  rw [moved.isAt]
  refine ⟨rfl, ?_⟩
  split
  · rename_i escaped
    refine (Cursor.Alike.crossBreak closes (moved.advance ?_)).2
    have backslash : (cursor.advance count).isAt '\\' = true :=
      (Bool.and_eq_true_iff.mp escaped).2
    obtain ⟨body, rest, -⟩ := moved.rest
    rw [Cursor.length_rest_advance, rest]
    obtain _ | ⟨c, body⟩ := body
    · rw [Cursor.isAt_of_rest rest, beq_iff_eq] at backslash
      exact absurd backslash (closes.ne (by decide))
    · simp only [List.length_append, List.length_cons]
      omega
  · exact moved

/-- After a quoted scalar the text goes on as before. -/
theorem readFrom_suffix {style : Style} {found : ScalarRead}
    (read : readFrom style fuel cursor = .ok found) : found.after.rest <:+ cursor.rest := by
  induction fuel generalizing cursor found with
  | zero => cases read
  | succ fuel ih =>
    obtain ⟨-, taken, count, -, step⟩ := readFrom_eq_ok_iff.mp read
    have passed := (afterRun_suffix style cursor count).trans (Cursor.advance_suffix cursor count)
    obtain ⟨-, rfl⟩ | ⟨-, gap, next, further, gap_read, further_read, rfl⟩ := step
    · exact (Cursor.advance_suffix _ 1).trans passed
    · exact (ih further_read).trans ((Gap.read_suffix gap_read).trans passed)

/-- Where a run does not end at its quote, it takes characters with the gap after it. -/
theorem length_gap_lt {style : Style} {taken : List Char} {count : Nat} {gap gap₁ : Gap}
    {next : Cursor} (counted : cursor.left = cursor.rest.length) (filled : 0 < cursor.rest.length)
    (taken_run : run style cursor = .ok (taken, count))
    (inside : (afterRun style cursor count).2.isAt (mark style) = false)
    (gap_read : Gap.read 0 (afterRun style cursor count).2.left gap
      (afterRun style cursor count).2 = .ok (gap₁, next)) :
    next.rest.length < cursor.rest.length := by
  have shorter := Gap.length_read_le gap_read
  have moved := Cursor.length_rest_advance cursor count
  unfold afterRun at inside gap_read shorter
  dsimp only at inside gap_read shorter
  cases stop : (cursor.advance count).rest with
  | nil =>
    have passed := (afterRun_suffix style cursor count).length_le
    unfold afterRun at passed
    dsimp only at passed
    rw [stop, List.length_nil] at passed
    omega
  | cons c rest =>
    rw [stop, List.length_cons] at moved
    split at shorter
    · have crossed := (Cursor.length_rest_crossBreak ((cursor.advance count).advance 1)).1
      have moved_past := Cursor.length_rest_advance (cursor.advance count) 1
      rw [stop, List.length_cons] at moved_past
      omega
    · rename_i unescaped
      rw [if_neg unescaped] at inside gap_read
      have isGap : isGap c = true := by
        rcases run_stops counted taken_run stop with rfl | gap | ⟨double, rfl⟩
        · rw [Cursor.isAt_of_rest stop, beq_self_eq_true] at inside
          cases inside
        · exact gap
        · exact absurd (by simp [Cursor.isAt_of_rest stop, double]) unescaped
      have left : (cursor.advance count).left = rest.length + 1 := by
        change cursor.left - count = _
        omega
      rw [left] at gap_read
      have lost := Gap.length_read_lt stop isGap gap_read
      rw [stop, List.length_cons] at lost
      omega

/-- Where a quoted scalar ends before the mark, its first run with an escaped break does. -/
theorem length_afterRun_lt {style : Style} {found : ScalarRead} {taken : List Char} {count : Nat}
    (taken_run : run style cursor = .ok (taken, count))
    (read : readFrom style (fuel + 1) cursor = .ok found) :
    found.after.rest.length ≤ (afterRun style cursor count).2.rest.length := by
  obtain ⟨-, _, _, same, step⟩ := readFrom_eq_ok_iff.mp read
  cases taken_run.symm.trans same
  obtain ⟨-, rfl⟩ | ⟨-, gap, next, further, gap_read, further_read, rfl⟩ := step
  · exact (Cursor.advance_suffix _ 1).length_le
  · exact Nat.le_trans (readFrom_suffix further_read).length_le (Gap.length_read_le gap_read)

/-- A quoted scalar that ends before the mark. -/
theorem readFrom_alike (closes : IsClosing close) {style : Style} {found : ScalarRead}
    (alike : Cursor.Alike shift close after after' cursor cursor')
    (enough : cursor.rest.length ≤ fuel) (enough' : cursor'.rest.length ≤ fuel')
    (read : readFrom style fuel cursor = .ok found)
    (within : after.length < found.after.rest.length) :
    ∃ found', readFrom style fuel' cursor' = .ok found' ∧
      ScalarRead.Alike shift close after after' found found' := by
  induction fuel generalizing cursor cursor' fuel' found with
  | zero => cases read
  | succ fuel ih =>
    have filled := alike.pos
    obtain _ | fuel' := fuel'
    · omega
    obtain ⟨goes, taken, count, taken_run, step⟩ := readFrom_eq_ok_iff.mp read
    have room := Nat.lt_of_lt_of_le within (length_afterRun_lt taken_run read)
    have passed := (afterRun_suffix style cursor count).length_le
    have taken_run' := run_alike closes alike taken_run (Nat.lt_of_lt_of_le room passed)
    obtain ⟨escaped, past⟩ :=
      afterRun_alike closes count style alike (Nat.lt_of_lt_of_le room passed)
    have goes' : (cursor'.atDocumentMarker || cursor'.atEnd) = false := by
      rw [Bool.or_eq_false_iff] at goes ⊢
      exact ⟨(alike.atDocumentMarker closes).trans goes.1, alike.atEnd.2⟩
    obtain ⟨ends, rfl⟩ | ⟨inside, gap, next, further, gap_read, further_read, rfl⟩ := step
    · rw [← past.isAt] at ends
      exact ⟨_, readFrom_eq_ok_iff.mpr ⟨goes', taken, count, taken_run', .inl ⟨ends, rfl⟩⟩,
        rfl, rfl, past.advance within⟩
    obtain ⟨next', gap_read', next_alike⟩ := Gap.read_alike closes past (Nat.zero_le _)
      (Nat.le_of_eq past.left.symm) (Nat.le_of_eq past.left'.symm) gap_read
    have inside' := (past.isAt (mark style)).trans inside
    have lost := length_gap_lt alike.left filled.1 taken_run inside gap_read
    have lost' := length_gap_lt alike.left' filled.2 taken_run' inside' gap_read'
    obtain ⟨further', further_read', further_alike⟩ :=
      ih next_alike (by omega) (show next'.rest.length ≤ fuel' by omega) further_read within
    rw [← escaped] at gap_read'
    exact ⟨_, readFrom_eq_ok_iff.mpr ⟨goes', taken, count, taken_run',
        .inr ⟨inside', gap, next', further', gap_read', further_read', rfl⟩⟩,
      congrArg (taken ++ gap.fold ++ ·) further_alike.text, further_alike.endsLine,
      further_alike.after⟩

/-- A quoted scalar that ends before the mark. -/
theorem read_alike (closes : IsClosing close) {style : Style} {found : ScalarRead}
    (alike : Cursor.Alike shift close after after' cursor cursor')
    (read : Quoted.read style cursor = .ok found)
    (within : after.length < found.after.rest.length) :
    ∃ found', Quoted.read style cursor' = .ok found' ∧
      ScalarRead.Alike shift close after after' found found' := by
  unfold Quoted.read at read ⊢
  have shorter := (readFrom_suffix read).length_le
  have moved : Cursor.Alike shift close after after' (cursor.advance 1) (cursor'.advance 1) :=
    alike.advance (by omega)
  refine readFrom_alike closes moved ?_ ?_ read within
  · rw [← moved.left]
    exact Nat.le_succ_of_le (Nat.sub_le _ _)
  · rw [← moved.left']
    exact Nat.le_succ_of_le (Nat.sub_le _ _)

/-- A quoted scalar takes its opening quote at least. -/
theorem length_read_lt {style : Style} {found : ScalarRead} (filled : 0 < cursor.rest.length)
    (read : Quoted.read style cursor = .ok found) :
    found.after.rest.length < cursor.rest.length := by
  have shorter := (readFrom_suffix read).length_le
  have moved := Cursor.length_rest_advance cursor 1
  omega

end Quoted

namespace Plain

/-- A plain scalar ends before the mark at the latest. -/
theorem read_alike (closes : IsClosing close) {found : ScalarRead} (indent_le : indent ≤ 1)
    (alike : Cursor.Alike shift close after after' cursor cursor')
    (read : Plain.read true indent cursor = .ok found) :
    ∃ found', Plain.read true indent cursor' = .ok found' ∧
      ScalarRead.Alike shift close after after' found found' :=
  readFrom_alike closes alike indent_le (Nat.lt_succ_of_le (Nat.le_of_eq alike.left.symm))
    (Nat.lt_succ_of_le (Nat.le_of_eq alike.left'.symm)) read

end Plain

end Covenant.Yaml
