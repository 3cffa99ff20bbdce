import Covenant.Proofs.Yaml.Flow.Step

/-!
# Tokens before the same closing mark

Two lexers in flow collections, at alike places, read the same tokens up to the mark that closes the
collections (`Lexer.Alike`). They may have read different tokens before, and one of them may be in
more collections than the other.
-/
namespace Covenant.Yaml

variable {shift extra : Nat} {close : Char} {after after' : List Char} {base : List Slot}

/-- Two values that may turn out to be keys, at alike places, or none. Nothing in a flow collection
has to be a key. -/
inductive PendingKey.Alike (shift base : Nat) : Option PendingKey → Option PendingKey → Prop
  /-- There is none. -/
  | neither : Alike shift base none none
  /-- The other one is some tokens and bytes further on. -/
  | both {pending pending' : PendingKey} (optional : pending.required = false)
      (optional' : pending'.required = false)
      (position : pending'.position = pending.position + base)
      (line : pending'.start.line = pending.start.line)
      (offset : pending'.start.offset = pending.start.offset + shift) :
      Alike shift base (some pending) (some pending')

namespace Cursor

variable {cursor cursor' : Cursor}

namespace Alike

theorem skipMark (alike : Alike shift close after after' cursor cursor')
    (within : after.length < cursor.skipMark.rest.length) :
    Alike shift close after after' cursor.skipMark cursor'.skipMark := by
  unfold Cursor.skipMark at within ⊢
  rw [alike.startsLine, alike.isAt]
  split
  · rename_i marked
    rw [if_pos marked] at within
    exact alike.advance within
  · exact alike

theorem skipComment (alike : Alike shift close after after' cursor cursor')
    (within : after.length < cursor.skipComment.rest.length) :
    Alike shift close after after' cursor.skipComment cursor'.skipComment := by
  unfold Cursor.skipComment at within ⊢
  rw [alike.isAt]
  split
  · rename_i marked
    rw [if_pos marked] at within
    exact alike.skipWhile within
  · exact alike

/-- Skipping within a line leads to alike places. -/
theorem skipLine (alike : Alike shift close after after' cursor cursor')
    (within : after.length < cursor.skipLine.rest.length) :
    Alike shift close after after' cursor.skipLine cursor'.skipLine := by
  have blanks := Nat.lt_of_lt_of_le within (skipComment_suffix _).length_le
  have start := Nat.lt_of_lt_of_le blanks (skipWhile_suffix _ _).length_le
  exact ((alike.skipMark start).skipWhile blanks).skipComment within

end Alike

end Cursor

namespace Lexer

variable {lexer lexer' : Lexer}

/-- Two lexers at alike places. The tokens that the first has read are the last that the other has
read, and are tokens of flow notation. -/
structure Beside (shift : Nat) (base : List Slot) (close : Char) (after after' : List Char)
    (lexer lexer' : Lexer) : Prop where
  /-- The places are alike. -/
  cursor : Cursor.Alike shift close after after' lexer.cursor lexer'.cursor
  /-- One block mapping is open around the first. -/
  indents : lexer.indents = [0]
  /-- One block mapping is open around the other. -/
  indents' : lexer'.indents = [0]
  /-- The other has read some tokens before. -/
  slots : lexer'.slots = lexer.slots ++ base
  /-- The tokens are counted. -/
  count : lexer.count = lexer.slots.length
  /-- Those of the other are counted, too. -/
  count' : lexer'.count = lexer'.slots.length
  /-- The tokens are of flow notation, and some of them start keys. -/
  isFlow : ∀ slot ∈ lexer.slots, slot.token.isFlow = true ∧ ∀ token ∈ slot.before, token = .key

/-- The places and tokens do not depend on the values that may turn out to be keys. -/
theorem Beside.withKeys (beside : Beside shift base close after after' lexer lexer')
    (keys keys' : List (Option PendingKey)) :
    Beside shift base close after after' { lexer with keys } { lexer' with keys := keys' } :=
  { beside with }

/-- Two lexers at alike places in the same flow collections. The first may be in some more around
them. -/
structure Alike (shift extra : Nat) (base : List Slot) (close : Char) (after after' : List Char)
    (lexer lexer' : Lexer) : Prop extends Beside shift base close after after' lexer lexer' where
  /-- A key may start next in both or in neither. -/
  keyAllowed : lexer'.keyAllowed = lexer.keyAllowed
  /-- In each of the collections the same value may turn out to be a key. -/
  keys : ∃ inner inner' outer, lexer.keys = inner ++ outer ∧ lexer'.keys = inner' ++ [none] ∧
    List.Forall₂ (PendingKey.Alike shift base.length) inner inner' ∧ inner ≠ [] ∧
      lexer.flowDepth = inner.length + extra ∧ lexer'.flowDepth = inner.length

namespace Alike

/-- Both are in flow collections. -/
theorem inFlow (alike : Alike shift extra base close after after' lexer lexer') :
    lexer.inFlow = true ∧ lexer'.inFlow = true := by
  obtain ⟨inner, inner', outer, -, -, -, filled, depth, depth'⟩ := alike.keys
  have positive := List.length_pos_iff.mpr filled
  exact ⟨decide_eq_true (by omega), decide_eq_true (by omega)⟩

/-- The first is in more collections than those around both. -/
theorem depth (alike : Alike shift extra base close after after' lexer lexer') :
    extra < lexer.flowDepth := by
  obtain ⟨inner, inner', outer, -, -, -, filled, depth, -⟩ := alike.keys
  have positive := List.length_pos_iff.mpr filled
  omega

/-- Both move to alike places. -/
theorem place (alike : Alike shift extra base close after after' lexer lexer')
    {cursor cursor' : Cursor} (places : Cursor.Alike shift close after after' cursor cursor')
    (keyAllowed : Bool) :
    Alike shift extra base close after after' { lexer with cursor, keyAllowed }
      { lexer' with cursor := cursor', keyAllowed } :=
  ⟨{ alike.toBeside with cursor := places }, rfl, alike.keys⟩

/-- Both read a token. -/
theorem emit (alike : Alike shift extra base close after after' lexer lexer') {token : Token}
    (isFlow : token.isFlow = true) :
    Alike shift extra base close after after' (lexer.emit token) (lexer'.emit token) where
  cursor := alike.cursor
  indents := alike.indents
  indents' := alike.indents'
  slots := congrArg _ alike.slots
  count := congrArg (· + 1) alike.count
  count' := congrArg (· + 1) alike.count'
  isFlow := List.forall_mem_cons.mpr ⟨⟨isFlow, nofun⟩, alike.isFlow⟩
  keyAllowed := alike.keyAllowed
  keys := alike.keys

end Alike

/-- Skipping separators in a flow collection leads to alike places. -/
theorem skipSeparators_alike (closes : IsClosing close) {fuel fuel' : Nat}
    (inFlow : lexer.inFlow = true) (inFlow' : lexer'.inFlow = true)
    (alike : Cursor.Alike shift close after after' lexer.cursor lexer'.cursor)
    (enough : lexer.cursor.rest.length < fuel) (enough' : lexer'.cursor.rest.length < fuel')
    (within : after.length < (skipSeparators fuel lexer).cursor.rest.length) :
    Cursor.Alike shift close after after' (skipSeparators fuel lexer).cursor
      (skipSeparators fuel' lexer').cursor := by
  induction fuel generalizing fuel' lexer lexer' with
  | zero => simp at enough
  | succ fuel ih =>
    obtain _ | fuel' := fuel'
    · simp at enough'
    rw [skipSeparators_succ (by rw [inFlow]; rfl)] at within ⊢
    rw [skipSeparators_succ (by rw [inFlow']; rfl)]
    have line := (Cursor.skipLine_suffix lexer.cursor).length_le
    have line' := (Cursor.skipLine_suffix lexer'.cursor).length_le
    have crossed := Cursor.length_rest_crossBreak lexer.cursor.skipLine
    have crossed' := Cursor.length_rest_crossBreak lexer'.cursor.skipLine
    split at within
    · rename_i atBreak
      have later : after.length < lexer.cursor.skipLine.rest.length :=
        Nat.lt_of_lt_of_le within
          (Nat.le_trans (skipSeparators_suffix _ (by exact inFlow)).length_le crossed.1)
      have places := alike.skipLine later
      have atBreak' := places.atBreak.trans atBreak
      rw [if_pos atBreak, if_pos atBreak']
      have shorter := crossed.2 atBreak
      have shorter' := crossed'.2 atBreak'
      refine ih inFlow inFlow' (places.crossBreak closes).2 ?_ ?_ within <;> dsimp only <;> omega
    · rename_i inLine
      have places := alike.skipLine within
      rw [if_neg inLine, if_neg (by rwa [places.atBreak])]
      exact places

/-- Alike values are both kept or both forgotten at alike places. -/
theorem keep_alike {place place' : Cursor} {key key' kept : Option PendingKey} {base : Nat}
    (places : Cursor.Alike shift close after after' place place')
    (alike : PendingKey.Alike shift base key key') (known : keep place key = .ok kept) :
    ∃ kept', keep place' key' = .ok kept' ∧ PendingKey.Alike shift base kept kept' := by
  cases alike with
  | neither =>
    cases known
    exact ⟨none, rfl, .neither⟩
  | @both pending pending' optional optional' position line offset =>
    have stale : PendingKey.isStale pending' place' = PendingKey.isStale pending place := by
      rw [PendingKey.isStale, PendingKey.isStale, line, offset, places.line, places.offset]
      congr 1
      rw [decide_eq_decide]
      omega
    unfold keep at known ⊢
    dsimp only at known ⊢
    rw [stale]
    split at known
    · rename_i fresh
      cases known
      exact ⟨_, if_pos fresh, .both optional optional' position line offset⟩
    · rename_i old
      rw [optional] at known
      cases known
      refine ⟨none, ?_, .neither⟩
      rw [if_neg old, optional']
      rfl

/-- Alike values are kept or forgotten in both lexers, whatever else is kept in the first. -/
theorem keeps_alike {place place' : Cursor} {inner inner' outer keys : List (Option PendingKey)}
    {base : Nat} (places : Cursor.Alike shift close after after' place place')
    (alike : List.Forall₂ (PendingKey.Alike shift base) inner inner')
    (known : List.Forall₂ (fun key kept => keep place key = .ok kept) (inner ++ outer) keys) :
    ∃ kept kept' others, keys = kept ++ others ∧
      List.Forall₂ (fun key kept => keep place' key = .ok kept) inner' kept' ∧
        List.Forall₂ (PendingKey.Alike shift base) kept kept' := by
  induction alike generalizing keys with
  | nil => exact ⟨[], [], keys, rfl, .nil, .nil⟩
  | cons first _ ih =>
    obtain ⟨kept, keys, found, others, rfl⟩ := List.forall₂_cons_left_iff.mp known
    obtain ⟨kept', found', alike⟩ := keep_alike places first found
    obtain ⟨more, more', rest, rfl, each', alikes⟩ := ih others
    exact ⟨kept :: more, kept' :: more', rest, rfl, .cons found' each', .cons alike alikes⟩

/-- Both go to the next token. -/
theorem Alike.ready (closes : IsClosing close)
    (alike : Alike shift extra base close after after' lexer lexer') {lexer₁ : Lexer}
    (known : lexer.ready = .ok lexer₁) (within : after.length < lexer₁.cursor.rest.length) :
    ∃ lexer₁', lexer'.ready = .ok lexer₁' ∧
      Alike shift extra base close after after' lexer₁ lexer₁' := by
  obtain ⟨inFlow, inFlow'⟩ := alike.inFlow
  rw [ready_of_inFlow inFlow] at known
  rw [ready_of_inFlow inFlow']
  obtain ⟨keys, kept, rfl⟩ := dropStale_eq_ok_iff.mp known
  have places : Cursor.Alike shift close after after'
      (skipSeparators (lexer.cursor.left + 1) lexer).cursor
      (skipSeparators (lexer'.cursor.left + 1) lexer').cursor :=
    skipSeparators_alike closes inFlow inFlow' alike.cursor (by rw [alike.cursor.left]; omega)
      (by rw [alike.cursor.left']; omega) within
  rw [skipSeparators_eq inFlow] at kept ⊢
  rw [skipSeparators_eq inFlow']
  obtain ⟨inner, inner', outer, keys_eq, keys_eq', alikes, filled, depth, depth'⟩ := alike.keys
  rw [keys_eq] at kept
  obtain ⟨more, more', others, rfl, kept', alikes'⟩ := keeps_alike places alikes kept
  have length : more.length = inner.length := by
    rw [alikes'.length_eq, ← kept'.length_eq, alikes.length_eq]
  refine ⟨_, dropStale_eq_ok_iff.mpr ⟨more' ++ [none], ?_, rfl⟩, ?_⟩
  · dsimp only
    rw [keys_eq']
    exact List.rel_append kept' (.cons rfl .nil)
  · refine ⟨{ alike.toBeside with cursor := places }, alike.keyAllowed, more, more', others, rfl,
      rfl, alikes', ?_, length ▸ depth, length ▸ depth'⟩
    rintro rfl
    exact filled (List.length_eq_zero_iff.mp length.symm)

/-- Alike lexers are at tokens that start alike. -/
theorem Alike.start (closes : IsClosing close)
    (alike : Alike shift extra base close after after' lexer lexer') {c : Char}
    {rest rest' : List Char} (next : lexer.cursor.rest = c :: rest)
    (next' : lexer'.cursor.rest = c :: rest') : lexer'.start c rest' = lexer.start c rest := by
  obtain ⟨starts, ends⟩ := alike.cursor.atMarker_document closes
  obtain ⟨inFlow, inFlow'⟩ := alike.inFlow
  unfold Lexer.start startsPlain
  rw [alike.cursor.startsLine, starts, ends, inFlow, inFlow']
  obtain ⟨_ | ⟨d, body⟩, split, split'⟩ := alike.cursor.rest
  -- The mark is a token of its own, whatever comes after it.
  · obtain ⟨rfl, -⟩ := List.cons.inj (next.symm.trans split)
    rcases closes with rfl | rfl <;> rfl
  · rw [List.cons_append] at split split'
    obtain ⟨rfl, rfl⟩ := List.cons.inj (next.symm.trans split)
    obtain ⟨-, rfl⟩ := List.cons.inj (next'.symm.trans split')
    rw [startsGap_append_mark body after after', head?_append_mark body after after']

namespace Alike

variable {lexer₁ : Lexer} {token : Token}

/-- Both forget the value that may turn out to be a key. -/
theorem dropKey (alike : Alike shift extra base close after after' lexer lexer')
    (known : lexer.dropKey = .ok lexer₁) :
    ∃ lexer₁', lexer'.dropKey = .ok lexer₁' ∧
      Alike shift extra base close after after' lexer₁ lexer₁' := by
  obtain ⟨inner, inner', outer, keys, keys', alikes, filled, depth, depth'⟩ := alike.keys
  obtain _ | ⟨first, others⟩ := alikes
  · exact absurd rfl filled
  rw [List.cons_append] at keys keys'
  cases first with
  | neither =>
    rw [Lexer.dropKey, keys] at known
    cases known
    exact ⟨lexer', by rw [Lexer.dropKey, keys'], alike⟩
  | both optional optional' =>
    rw [Lexer.dropKey, keys] at known
    dsimp only at known
    rw [optional] at known
    cases known
    refine ⟨{ lexer' with keys := none :: _ }, ?_, alike.toBeside.withKeys _ _, alike.keyAllowed,
      none :: _, none :: _, outer, rfl, rfl, .cons .neither others, nofun, depth, depth'⟩
    rw [Lexer.dropKey, keys']
    dsimp only
    rw [optional']
    rfl

/-- Both remember the next token as a value that may turn out to be a key, or neither does. -/
theorem saveKey (alike : Alike shift extra base close after after' lexer lexer')
    (known : lexer.saveKey = .ok lexer₁) :
    ∃ lexer₁', lexer'.saveKey = .ok lexer₁' ∧
      Alike shift extra base close after after' lexer₁ lexer₁' := by
  unfold Lexer.saveKey at known ⊢
  rw [alike.keyAllowed]
  split at known
  · rename_i allowed
    rw [if_pos allowed]
    rw [alike.inFlow.1] at known
    rw [alike.inFlow.2]
    obtain ⟨lexer₂, dropped, answer⟩ := Reading.bind_eq_ok_iff.mp known
    obtain ⟨lexer₂', dropped', alike⟩ := alike.dropKey dropped
    cases answer
    obtain ⟨inner, inner', outer, keys, keys', alikes, filled, depth, depth'⟩ := alike.keys
    have count : lexer₂'.count = lexer₂.count + base.length := by
      rw [alike.count, alike.count', alike.slots, List.length_append]
    obtain _ | ⟨first, others⟩ := alikes
    · exact absurd rfl filled
    rename_i inner inner'
    let pending : PendingKey := ⟨false, lexer₂.count, lexer₂.cursor⟩
    let pending' : PendingKey := ⟨false, lexer₂'.count, lexer₂'.cursor⟩
    refine ⟨{ lexer₂' with keys := some pending' :: lexer₂'.keys.drop 1 }, ?_,
      alike.toBeside.withKeys _ _, alike.keyAllowed, some pending :: inner, some pending' :: inner',
      outer, ?_, ?_, .cons (.both rfl rfl count alike.cursor.line alike.cursor.offset) others,
      nofun, depth, depth'⟩
    · rw [dropped']
      rfl
    · dsimp only
      rw [keys]
      rfl
    · dsimp only
      rw [keys']
      rfl
  · rename_i forbidden
    cases known
    exact ⟨lexer', if_neg forbidden, alike⟩

/-- Both open a flow collection. -/
theorem flowStart (alike : Alike shift extra base close after after' lexer lexer')
    (known : lexer.flowStart token = .ok lexer₁) (isFlow : token.isFlow = true)
    (within : after.length < lexer₁.cursor.rest.length) :
    ∃ lexer₁', lexer'.flowStart token = .ok lexer₁' ∧
      Alike shift extra base close after after' lexer₁ lexer₁' := by
  obtain ⟨lexer₂, saved, answer⟩ := Reading.bind_eq_ok_iff.mp known
  obtain ⟨lexer₂', saved', alike⟩ := alike.saveKey saved
  cases answer
  refine ⟨_, Reading.bind_eq_ok_iff.mpr ⟨lexer₂', saved', rfl⟩, ?_⟩
  obtain ⟨inner, inner', outer, keys, keys', alikes, filled, depth, depth'⟩ := alike.keys
  have deeper : Alike shift extra base close after after'
      { lexer₂ with
        flowDepth := lexer₂.flowDepth + 1
        keys := none :: lexer₂.keys }
      { lexer₂' with
        flowDepth := lexer₂'.flowDepth + 1
        keys := none :: lexer₂'.keys } :=
    ⟨{ alike.toBeside with }, alike.keyAllowed, none :: inner, none :: inner', outer,
      congrArg _ keys, congrArg _ keys', .cons .neither alikes, nofun,
      by simp only [List.length_cons]; omega, by simp only [List.length_cons]; omega⟩
  exact (deeper.place (deeper.cursor.advance within) true).emit isFlow

/-- Both close a flow collection that is not the outermost. -/
theorem flowEnd (alike : Alike shift extra base close after after' lexer lexer')
    (known : lexer.flowEnd token = .ok lexer₁) (isFlow : token.isFlow = true)
    (within : after.length < lexer₁.cursor.rest.length) (inner_left : extra < lexer₁.flowDepth) :
    ∃ lexer₁', lexer'.flowEnd token = .ok lexer₁' ∧
      Alike shift extra base close after after' lexer₁ lexer₁' := by
  obtain ⟨lexer₂, dropped, answer⟩ := Reading.bind_eq_ok_iff.mp known
  obtain ⟨lexer₂', dropped', alike⟩ := alike.dropKey dropped
  cases answer
  refine ⟨_, Reading.bind_eq_ok_iff.mpr ⟨lexer₂', dropped', rfl⟩, ?_⟩
  rw [alike.inFlow.1, alike.inFlow.2]
  obtain ⟨inner, inner', outer, keys, keys', alikes, filled, depth, depth'⟩ := alike.keys
  change extra < lexer₂.flowDepth - 1 at inner_left
  obtain _ | ⟨first, others⟩ := alikes
  · exact absurd rfl filled
  rename_i inner inner'
  rw [List.length_cons] at depth depth'
  have shallower : Alike shift extra base close after after'
      { lexer₂ with
        flowDepth := lexer₂.flowDepth - 1
        keys := lexer₂.keys.drop 1 }
      { lexer₂' with
        flowDepth := lexer₂'.flowDepth - 1
        keys := lexer₂'.keys.drop 1 } :=
    ⟨{ alike.toBeside with }, alike.keyAllowed, inner, inner', outer,
      by rw [keys]; rfl, by rw [keys']; rfl, others,
      by rintro rfl; rw [List.length_nil] at depth; omega, by dsimp only; omega,
      by dsimp only; omega⟩
  exact (shallower.place (shallower.cursor.advance within) false).emit isFlow

/-- Both read a mark. -/
theorem mark (alike : Alike shift extra base close after after' lexer lexer') {length : Nat}
    {keyAllowed : Bool} (known : lexer.mark length keyAllowed token = .ok lexer₁)
    (isFlow : token.isFlow = true) (within : after.length < lexer₁.cursor.rest.length) :
    ∃ lexer₁', lexer'.mark length keyAllowed token = .ok lexer₁' ∧
      Alike shift extra base close after after' lexer₁ lexer₁' := by
  obtain ⟨lexer₂, dropped, answer⟩ := Reading.bind_eq_ok_iff.mp known
  obtain ⟨lexer₂', dropped', alike⟩ := alike.dropKey dropped
  cases answer
  exact ⟨_, Reading.bind_eq_ok_iff.mpr ⟨lexer₂', dropped', rfl⟩,
    (alike.place (alike.cursor.advance within) keyAllowed).emit isFlow⟩

/-- Both find that a token that was read starts a key. -/
theorem emitBefore (alike : Alike shift extra base close after after' lexer lexer')
    (started : lexer.slots ≠ []) {position position' : Nat}
    (further : position' = position + base.length) :
    Alike shift extra base close after after' (lexer.emitBefore position .key)
      (lexer'.emitBefore position' .key) := by
  have some_read : 0 < lexer.slots.length := List.length_pos_iff.mpr started
  have index : lexer'.count - 1 - position' = lexer.count - 1 - position := by
    rw [alike.count', alike.count, alike.slots, List.length_append]
    omega
  have within : lexer.count - 1 - position < lexer.slots.length := by
    rw [alike.count]
    omega
  refine ⟨{ alike.toBeside with slots := ?_, count := ?_, count' := ?_, isFlow := ?_ },
    alike.keyAllowed, alike.keys⟩
  · change List.modify _ _ _ = List.modify _ _ _ ++ base
    rw [index, alike.slots, List.modify_eq_take_cons_drop within,
      List.modify_eq_take_cons_drop (by rw [List.length_append]; omega),
      List.getElem_append_left within, List.take_append_of_le_length (Nat.le_of_lt within),
      List.drop_append_of_le_length (by omega), List.append_assoc, List.cons_append]
  · change lexer.count = (List.modify _ _ _).length
    rw [List.length_modify, alike.count]
  · change lexer'.count = (List.modify _ _ _).length
    rw [List.length_modify, alike.count']
  · change ∀ slot ∈ List.modify _ _ _, _
    rw [List.modify_eq_take_cons_drop within, List.forall_mem_append, List.forall_mem_cons]
    have here := alike.isFlow _ (List.getElem_mem within)
    exact ⟨fun slot member => alike.isFlow slot (List.mem_of_mem_take member),
      ⟨here.1, List.forall_mem_cons.mpr ⟨rfl, here.2⟩⟩,
      fun slot member => alike.isFlow slot (List.mem_of_mem_drop member)⟩

/-- Both read the question mark of a key. -/
theorem explicitKey (alike : Alike shift extra base close after after' lexer lexer')
    (known : lexer.explicitKey = .ok lexer₁) (within : after.length < lexer₁.cursor.rest.length) :
    ∃ lexer₁', lexer'.explicitKey = .ok lexer₁' ∧
      Alike shift extra base close after after' lexer₁ lexer₁' := by
  rw [explicitKey_of_inFlow alike.inFlow.1] at known
  rw [explicitKey_of_inFlow alike.inFlow.2]
  exact alike.mark known rfl within

/-- Both read the colon of a value. -/
theorem value (alike : Alike shift extra base close after after' lexer lexer')
    (started : lexer.slots = [] → lexer.keys.head? = some none)
    (known : lexer.value = .ok lexer₁) (within : after.length < lexer₁.cursor.rest.length) :
    ∃ lexer₁', lexer'.value = .ok lexer₁' ∧
      Alike shift extra base close after after' lexer₁ lexer₁' := by
  obtain ⟨inner, inner', outer, keys, keys', alikes, filled, depth, depth'⟩ := alike.keys
  obtain _ | ⟨first, others⟩ := alikes
  · exact absurd rfl filled
  rename_i inner inner'
  rw [List.cons_append] at keys keys'
  cases first with
  | neither =>
    rw [value_of_none alike.inFlow.1 (by simp [keys])] at known
    cases known
    rw [value_of_none alike.inFlow.2 (by simp [keys'])]
    exact ⟨_, rfl, (alike.place (alike.cursor.advance within) false).emit rfl⟩
  | @both pending pending' _ _ position =>
    rw [value_of_pending alike.inFlow.1 keys] at known
    cases known
    rw [value_of_pending alike.inFlow.2 keys']
    -- A pending value was read, so there is a token that the key can be put before.
    have nonempty : lexer.slots ≠ [] := by
      intro none
      rw [keys] at started
      cases started none
    have marked := alike.emitBefore nonempty position
    have unkeyed : Alike shift extra base close after after'
        { lexer.emitBefore pending.position .key with keys := none :: (inner ++ outer) }
        { lexer'.emitBefore pending'.position .key with keys := none :: (inner' ++ [none]) } :=
      ⟨marked.toBeside.withKeys _ _, marked.keyAllowed, none :: inner, none :: inner', outer, rfl,
        rfl, .cons .neither others, nofun, depth, depth'⟩
    exact ⟨_, rfl, (unkeyed.place (unkeyed.cursor.advance within) false).emit rfl⟩

/-- Both read a tag. -/
theorem tag (closes : IsClosing close)
    (alike : Alike shift extra base close after after' lexer lexer')
    (known : lexer.tag = .ok lexer₁) (isFlow : lexer₁.newest Token.isFlow = true)
    (within : after.length < lexer₁.cursor.rest.length) :
    ∃ lexer₁', lexer'.tag = .ok lexer₁' ∧
      Alike shift extra base close after after' lexer₁ lexer₁' := by
  obtain ⟨lexer₂, saved, known⟩ := Reading.bind_eq_ok_iff.mp known
  obtain ⟨lexer₂', saved', alike⟩ := alike.saveKey saved
  obtain ⟨⟨token, next⟩, read, answer⟩ := Reading.bind_eq_ok_iff.mp known
  dsimp only at answer
  split at answer
  · cases answer
  rename_i apart
  cases answer
  obtain ⟨next', read', places⟩ := Tag.read_alike closes alike.cursor read within
  refine ⟨_, ?_, (alike.place places false).emit isFlow⟩
  have apart' : ¬(!startsGap next'.rest && !(lexer₂'.inFlow && next'.isAt ',')) = true := by
    rw [places.startsGap, places.isAt, alike.inFlow.2]
    rw [alike.inFlow.1] at apart
    exact apart
  refine Reading.bind_eq_ok_iff.mpr ⟨lexer₂', saved', ?_⟩
  refine Reading.bind_eq_ok_iff.mpr ⟨_, read', ?_⟩
  dsimp only
  rw [if_neg apart']
  rfl

/-- Both read a quoted scalar. -/
theorem quoted (closes : IsClosing close) {style : Style}
    (alike : Alike shift extra base close after after' lexer lexer')
    (known : lexer.quoted style = .ok lexer₁) (within : after.length < lexer₁.cursor.rest.length) :
    ∃ lexer₁', lexer'.quoted style = .ok lexer₁' ∧
      Alike shift extra base close after after' lexer₁ lexer₁' := by
  obtain ⟨lexer₂, saved, known⟩ := Reading.bind_eq_ok_iff.mp known
  obtain ⟨lexer₂', saved', alike⟩ := alike.saveKey saved
  obtain ⟨found, read, answer⟩ := Reading.bind_eq_ok_iff.mp known
  cases answer
  obtain ⟨found', read', same⟩ := Quoted.read_alike closes alike.cursor read within
  refine ⟨_, Reading.bind_eq_ok_iff.mpr ⟨lexer₂', saved',
    Reading.bind_eq_ok_iff.mpr ⟨found', read', rfl⟩⟩, ?_⟩
  rw [same.text]
  exact (alike.place same.after false).emit rfl

/-- Both read a plain scalar. -/
theorem plain (closes : IsClosing close)
    (alike : Alike shift extra base close after after' lexer lexer')
    (known : lexer.plain = .ok lexer₁) :
    ∃ lexer₁', lexer'.plain = .ok lexer₁' ∧
      Alike shift extra base close after after' lexer₁ lexer₁' := by
  obtain ⟨lexer₂, saved, known⟩ := Reading.bind_eq_ok_iff.mp known
  obtain ⟨lexer₂', saved', alike⟩ := alike.saveKey saved
  obtain ⟨found, read, answer⟩ := Reading.bind_eq_ok_iff.mp known
  cases answer
  rw [alike.inFlow.1, alike.indents] at read
  obtain ⟨found', found_eq, same⟩ := Plain.read_alike closes (Nat.le_refl 1) alike.cursor read
  have read' : Plain.read lexer₂'.inFlow (lexer₂'.indents.head?.elim 0 (· + 1)) lexer₂'.cursor =
      .ok found' := by
    rw [alike.inFlow.2, alike.indents']
    exact found_eq
  refine ⟨_, Reading.bind_eq_ok_iff.mpr ⟨lexer₂', saved',
    Reading.bind_eq_ok_iff.mpr ⟨found', read', rfl⟩⟩, ?_⟩
  rw [same.text, same.endsLine]
  exact (alike.place same.after found.endsLine).emit rfl

end Alike

/-- Both read a token of flow notation that does not close the outermost collection. -/
theorem Alike.token (closes : IsClosing close)
    (alike : Alike shift extra base close after after' lexer lexer')
    (started : lexer.slots = [] → lexer.keys.head? = some none) {lexer₁ : Lexer} {c : Char}
    {rest rest' : List Char} (next : lexer.cursor.rest = c :: rest)
    (next' : lexer'.cursor.rest = c :: rest') (known : lexer.token c rest = .ok lexer₁)
    (isFlow : lexer₁.newest Token.isFlow = true)
    (within : after.length < lexer₁.cursor.rest.length) (inner_left : extra < lexer₁.flowDepth) :
    ∃ lexer₁', lexer'.token c rest' = .ok lexer₁' ∧
      Alike shift extra base close after after' lexer₁ lexer₁' := by
  rw [token_eq] at known
  rw [token_eq, alike.start closes next next']
  have native := not_isForeign alike.inFlow.1 known isFlow
  cases kind : lexer.start c rest
  all_goals rw [kind] at known native
  all_goals try cases native
  case sequenceStart => exact alike.flowStart known rfl within
  case mappingStart => exact alike.flowStart known rfl within
  case sequenceEnd => exact alike.flowEnd known rfl within inner_left
  case mappingEnd => exact alike.flowEnd known rfl within inner_left
  case comma => exact alike.mark known rfl within
  case question => exact alike.explicitKey known within
  case colon => exact alike.value started known within
  case tag => exact alike.tag closes known isFlow within
  case singleQuote => exact alike.quoted closes known within
  case doubleQuote => exact alike.quoted closes known within
  case plain => exact alike.plain closes known

end Lexer

end Covenant.Yaml
