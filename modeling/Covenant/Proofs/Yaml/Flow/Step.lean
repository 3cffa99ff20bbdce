import Covenant.Proofs.Yaml.Flow.Basic
import Covenant.Proofs.Yaml.Flow.Scalar
import Covenant.Proofs.Yaml.Flow.Tag

/-!
# Steps of a lexer inside a flow collection

Inside a flow collection no indentation counts. A step of a lexer skips separators, forgets the
values that can no longer turn out to be keys, and reads a token by what it starts with
(`Lexer.token_eq`). Every token takes a character at least, and a closing mark alone closes a
collection (`Lexer.token_progress`).
-/
namespace Covenant.Yaml

namespace Cursor

/-- Skip a mark of byte order at the start of a line. -/
def skipMark (cursor : Cursor) : Cursor :=
  if cursor.column == 0 && cursor.isAt '\ufeff' then cursor.advance 1 else cursor

/-- Skip a comment. -/
def skipComment (cursor : Cursor) : Cursor :=
  if cursor.isAt '#' then cursor.skipWhile (!isBreak ·) else cursor

/-- Skip a mark of byte order, blanks and a comment. -/
def skipLine (cursor : Cursor) : Cursor :=
  (cursor.skipMark.skipWhile fun c => c == ' ' || c == '\t').skipComment

/-- After skipping the text goes on as before. -/
theorem skipWhile_suffix (cursor : Cursor) (test : Char → Bool) :
    (cursor.skipWhile test).rest <:+ cursor.rest :=
  advance_suffix _ _

theorem skipMark_suffix (cursor : Cursor) : cursor.skipMark.rest <:+ cursor.rest := by
  unfold skipMark
  split
  · exact advance_suffix _ 1
  · exact List.suffix_refl _

theorem skipComment_suffix (cursor : Cursor) : cursor.skipComment.rest <:+ cursor.rest := by
  unfold skipComment
  split
  · exact skipWhile_suffix _ _
  · exact List.suffix_refl _

theorem skipLine_suffix (cursor : Cursor) : cursor.skipLine.rest <:+ cursor.rest :=
  (skipComment_suffix _).trans ((skipWhile_suffix _ _).trans (skipMark_suffix _))

/-- A move keeps the count of the characters that are left. -/
theorem left_advance {cursor : Cursor} (counted : cursor.left = cursor.rest.length) (count : Nat) :
    (cursor.advance count).left = (cursor.advance count).rest.length := by
  rw [length_rest_advance, ← counted]
  rfl

/-- Crossing a break keeps it. -/
theorem left_crossBreak {cursor : Cursor} (counted : cursor.left = cursor.rest.length) :
    cursor.crossBreak.2.left = cursor.crossBreak.2.rest.length := by
  cases next : cursor.rest with
  | nil =>
    have stays : cursor.crossBreak = ([], cursor) := by rw [crossBreak, next]
    rw [stays]
    exact counted
  | cons c rest =>
    rw [next, List.length_cons] at counted
    rw [crossBreak_of_rest next]
    split
    · rw [List.length_tail]
      dsimp only
      omega
    · split
      · dsimp only
        omega
      · rw [next, List.length_cons]
        exact counted

/-- Skipping within a line keeps it. -/
theorem left_skipLine {cursor : Cursor} (counted : cursor.left = cursor.rest.length) :
    cursor.skipLine.left = cursor.skipLine.rest.length := by
  have start : cursor.skipMark.left = cursor.skipMark.rest.length := by
    unfold skipMark
    split
    · exact left_advance counted 1
    · exact counted
  have blanks := left_advance start
    (cursor.skipMark.rest.takeWhile fun c => c == ' ' || c == '\t').length
  unfold skipLine skipComment
  split
  · exact left_advance blanks _
  · exact blanks

end Cursor

namespace Lexer

variable {lexer lexer₁ : Lexer}

/-- Where no tab can be an indentation, the separators of a line are skipped as a whole. -/
theorem skipSeparators_succ {fuel : Nat} (tabs : (lexer.inFlow || !lexer.keyAllowed) = true) :
    skipSeparators (fuel + 1) lexer =
      if lexer.cursor.skipLine.atBreak then
        skipSeparators fuel { lexer with
          cursor := lexer.cursor.skipLine.crossBreak.2
          keyAllowed := lexer.keyAllowed || !lexer.inFlow }
      else { lexer with cursor := lexer.cursor.skipLine } := by
  rw [skipSeparators, tabs]
  simp only [Bool.true_and]
  rfl

/-- After separators the text goes on as before. -/
theorem skipSeparators_suffix (fuel : Nat) (inFlow : lexer.inFlow = true) :
    (skipSeparators fuel lexer).cursor.rest <:+ lexer.cursor.rest := by
  induction fuel generalizing lexer with
  | zero => exact List.suffix_refl _
  | succ fuel ih =>
    rw [skipSeparators_succ (by rw [inFlow]; rfl)]
    have line := Cursor.skipLine_suffix lexer.cursor
    split
    · exact List.IsSuffix.trans (ih (by exact inFlow)) ((Cursor.crossBreak_suffix _).trans line)
    · exact line

/-- Skipping separators in a flow collection changes the place alone. -/
theorem skipSeparators_eq {fuel : Nat} (inFlow : lexer.inFlow = true) :
    skipSeparators fuel lexer = { lexer with cursor := (skipSeparators fuel lexer).cursor } := by
  induction fuel generalizing lexer with
  | zero => rfl
  | succ fuel ih =>
    rw [skipSeparators_succ (by rw [inFlow]; rfl)]
    split
    · rw [inFlow, Bool.not_true, Bool.or_false]
      exact ih inFlow
    · rfl

/-- Skipping separators keeps the count of the characters that are left. -/
theorem left_skipSeparators (fuel : Nat) (inFlow : lexer.inFlow = true)
    (counted : lexer.cursor.left = lexer.cursor.rest.length) :
    (skipSeparators fuel lexer).cursor.left = (skipSeparators fuel lexer).cursor.rest.length := by
  induction fuel generalizing lexer with
  | zero => exact counted
  | succ fuel ih =>
    rw [skipSeparators_succ (by rw [inFlow]; rfl)]
    split
    · exact ih inFlow (Cursor.left_crossBreak (Cursor.left_skipLine counted))
    · exact Cursor.left_skipLine counted

/-- What is left of the values that may turn out to be keys at a place. -/
def keep (place : Cursor) (key : Option PendingKey) : Except Error (Option PendingKey) :=
  match key with
  | none => .ok none
  | some pending =>
    if !PendingKey.isStale pending place then .ok key
    else if pending.required then throw Error.missingColon
    else .ok none

/-- Each value is forgotten or kept. -/
theorem dropStale_eq_ok_iff : lexer.dropStale = .ok lexer₁ ↔
    ∃ keys, List.Forall₂ (fun key kept => keep lexer.cursor key = .ok kept) lexer.keys keys ∧
      lexer₁ = { lexer with keys } := by
  have keeps : lexer.dropStale = lexer.keys.mapM (keep lexer.cursor) >>= fun keys =>
      .ok { lexer with keys } := by
    unfold dropStale
    congr 2
  rw [keeps, Reading.bind_eq_ok_iff]
  simp only [Reading.mapM_eq_ok_iff, Except.ok.injEq, @eq_comm _ lexer₁]

/-- In a flow collection nothing ends by its indentation. -/
theorem closeBlocks_of_inFlow (inFlow : lexer.inFlow = true) (column : Option Nat) :
    lexer.closeBlocks column = lexer :=
  if_pos inFlow

/-- Going to the next token in a flow collection. -/
theorem ready_of_inFlow (inFlow : lexer.inFlow = true) :
    lexer.ready = (skipSeparators (lexer.cursor.left + 1) lexer).dropStale := by
  have stays : ∀ {lexer₁}, (skipSeparators (lexer.cursor.left + 1) lexer).dropStale = .ok lexer₁ →
      lexer₁.inFlow = true := by
    intro lexer₁ known
    obtain ⟨keys, -, rfl⟩ := dropStale_eq_ok_iff.mp known
    rw [skipSeparators_eq inFlow]
    exact inFlow
  unfold ready
  cases known : (skipSeparators (lexer.cursor.left + 1) lexer).dropStale with
  | error _ => rfl
  | ok lexer₁ => exact congrArg Except.ok (closeBlocks_of_inFlow (stays known) _)

/-- Going to the next token changes the place and forgets keys. -/
theorem ready_eq_ok (inFlow : lexer.inFlow = true) (known : lexer.ready = .ok lexer₁) :
    ∃ cursor keys, lexer₁ = { lexer with cursor, keys } ∧
      cursor.rest <:+ lexer.cursor.rest ∧
      (lexer.cursor.left = lexer.cursor.rest.length → cursor.left = cursor.rest.length) ∧
      (lexer.keys.head? = some none → keys.head? = some none) := by
  rw [ready_of_inFlow inFlow] at known
  obtain ⟨keys, kept, rfl⟩ := dropStale_eq_ok_iff.mp known
  have onwards := skipSeparators_suffix (lexer.cursor.left + 1) inFlow
  have counted := left_skipSeparators (lexer.cursor.left + 1) inFlow
  rw [skipSeparators_eq inFlow] at kept ⊢
  refine ⟨_, keys, rfl, onwards, counted, fun unkeyed => ?_⟩
  obtain ⟨outer, unkeyed⟩ := List.head?_eq_some_iff.mp unkeyed
  dsimp only at kept
  rw [unkeyed] at kept
  obtain _ | ⟨first, others⟩ := kept
  cases first
  rfl

/-- What a token starts with. -/
inductive Start
  /-- The percent sign of a directive. -/
  | directive
  /-- The dashes of the start of a document. -/
  | documentStart
  /-- The dots of the end of a document. -/
  | documentEnd
  /-- An opening bracket. -/
  | sequenceStart
  /-- An opening brace. -/
  | mappingStart
  /-- A closing bracket. -/
  | sequenceEnd
  /-- A closing brace. -/
  | mappingEnd
  /-- A comma. -/
  | comma
  /-- The dash of an item. -/
  | entry
  /-- The question mark of a key. -/
  | question
  /-- The colon of a value. -/
  | colon
  /-- The mark of a reference. -/
  | reference
  /-- The mark of an anchor. -/
  | anchor
  /-- The mark of a tag. -/
  | tag
  /-- The bar of a block of lines. -/
  | literal
  /-- The angle of a block of lines that fold. -/
  | folded
  /-- A single quote. -/
  | singleQuote
  /-- A double quote. -/
  | doubleQuote
  /-- A character of a plain scalar. -/
  | plain
  /-- Anything else. -/
  | stray

/-- What the token at a place starts with. -/
def start (lexer : Lexer) (c : Char) (rest : List Char) : Start :=
  if c == '%' && lexer.cursor.column == 0 then .directive
  else if lexer.cursor.atMarker '-' then .documentStart
  else if lexer.cursor.atMarker '.' then .documentEnd
  else if c == '[' then .sequenceStart
  else if c == '\x7b' then .mappingStart
  else if c == ']' then .sequenceEnd
  else if c == '\x7d' then .mappingEnd
  else if c == ',' then .comma
  else if c == '-' && startsGap rest then .entry
  else if c == '?' && (lexer.inFlow || startsGap rest) then .question
  else if c == ':' && (lexer.inFlow || startsGap rest) then .colon
  else if c == '*' then .reference
  else if c == '&' then .anchor
  else if c == '!' then .tag
  else if c == '|' && !lexer.inFlow then .literal
  else if c == '>' && !lexer.inFlow then .folded
  else if c == '\'' then .singleQuote
  else if c == '"' then .doubleQuote
  else if lexer.startsPlain c rest then .plain
  else .stray

/-- Read a token by what it starts with. -/
def Start.read (lexer : Lexer) : Start → Except Error Lexer
  | directive => lexer.directive
  | documentStart => lexer.documentMark .documentStart
  | documentEnd => lexer.documentMark .documentEnd
  | sequenceStart => lexer.flowStart .flowSequenceStart
  | mappingStart => lexer.flowStart .flowMappingStart
  | sequenceEnd => lexer.flowEnd .flowSequenceEnd
  | mappingEnd => lexer.flowEnd .flowMappingEnd
  | comma => lexer.mark 1 true .flowEntry
  | entry => lexer.blockEntry
  | question => lexer.explicitKey
  | colon => lexer.value
  | reference => lexer.name .reference
  | anchor => lexer.name .anchor
  | tag => lexer.tag
  | literal => lexer.block .literal
  | folded => lexer.block .folded
  | singleQuote => lexer.quoted .singleQuoted
  | doubleQuote => lexer.quoted .doubleQuoted
  | plain => lexer.plain
  | stray => .error .strayCharacter

/-- A token is read by what it starts with. -/
theorem token_eq (lexer : Lexer) (c : Char) (rest : List Char) :
    lexer.token c rest = (lexer.start c rest).read lexer := by
  simp only [start, apply_ite (Start.read lexer)]
  rfl

/-- In a flow collection no block collection starts. -/
theorem isDeeper_of_inFlow (inFlow : lexer.inFlow = true) (column : Nat) :
    lexer.isDeeper column = false := by
  rw [isDeeper, inFlow]
  rfl

/-- The question mark of a key in a flow collection. -/
theorem explicitKey_of_inFlow (inFlow : lexer.inFlow = true) :
    lexer.explicitKey = lexer.mark 1 false .key := by
  rw [explicitKey, openBlock, isDeeper_of_inFlow inFlow, inFlow]
  rfl

/-- The colon of a value in a flow collection, where the value before it becomes a key. -/
theorem value_of_pending (inFlow : lexer.inFlow = true) {pending : PendingKey}
    {outer : List (Option PendingKey)} (keys : lexer.keys = some pending :: outer) :
    lexer.value = .ok (({ lexer.emitBefore pending.position .key with
      keys := none :: outer, keyAllowed := false }.skip 1).emit .value) := by
  have notDeeper : (lexer.emitBefore pending.position .key).isDeeper pending.start.column = false :=
    isDeeper_of_inFlow inFlow _
  rw [value, keys]
  simp only [notDeeper, Bool.false_eq_true, if_false]

/-- The colon of a value in a flow collection, where the key is left out or has a mark. -/
theorem value_of_none (inFlow : lexer.inFlow = true)
    (keys : ∀ pending outer, lexer.keys ≠ some pending :: outer) :
    lexer.value = .ok (({ lexer with keyAllowed := false }.skip 1).emit .value) := by
  unfold value
  split
  · rename_i pending
    exact absurd pending (keys _ _)
  · rw [openBlock, isDeeper_of_inFlow inFlow]
    simp only [inFlow, Bool.not_true, Bool.false_and, Bool.false_eq_true, if_false]

/-- Starts that no token of flow notation has inside a flow collection. -/
def Start.isForeign : Start → Bool
  | directive | documentStart | documentEnd | entry | reference | anchor | literal | folded => true
  | stray => true
  | _ => false

/-- What a directive says is no token of flow notation. -/
theorem not_isFlow_of_parts {name cs : List Char} {found : Token × List Char}
    (known : Directive.parts name cs = .ok found) : found.1.isFlow = false := by
  unfold Directive.parts at known
  split at known
  · split at known
    · rename_i version
      cases known
      obtain ⟨⟨_, _⟩, -, version⟩ := Option.bind_eq_some_iff.mp version
      dsimp only at version
      split at version
      · obtain ⟨_, -, version⟩ := Option.bind_eq_some_iff.mp version
        cases version
        rfl
      · cases version
    · cases known
  split at known
  · unfold Directive.handle at known
    split at known
    · cases known
    split at known
    · cases known
    obtain ⟨_, -, known⟩ := Reading.bind_eq_ok_iff.mp known
    dsimp only at known
    split at known
    · cases known
    · cases known
      rfl
  · cases known

/-- A directive is no token of flow notation. -/
theorem not_isFlow_of_read {cursor next : Cursor} {token : Token}
    (known : Directive.read cursor = .ok (token, next)) : token.isFlow = false := by
  unfold Directive.read at known
  dsimp only at known
  split at known
  · cases known
  obtain ⟨found, parts, known⟩ := Reading.bind_eq_ok_iff.mp known
  have token_eq : found.1 = token := by
    split at known <;> split at known
    all_goals cases known
    all_goals rfl
  exact token_eq ▸ not_isFlow_of_parts parts

theorem ite_ne {α : Type} {p : Prop} [Decidable p] {a b x : α} (h : a ≠ x) (h' : b ≠ x) :
    (if p then a else b) ≠ x := by
  split <;> assumption

/-- In a flow collection no block of lines starts. -/
theorem not_block_of_inFlow (inFlow : lexer.inFlow = true) (c : Char) (rest : List Char) :
    lexer.start c rest ≠ .literal ∧ lexer.start c rest ≠ .folded := by
  have never : ∀ test : Bool, ¬(test && !true) = true := by decide
  unfold start
  rw [inFlow, if_neg (never _), if_neg (never _)]
  constructor <;> repeat' first | refine ite_ne ?_ ?_ | exact nofun

/-- The mark of the start or the end of a document is no token of flow notation. -/
theorem newest_of_documentMark {token : Token} (foreign : token.isFlow = false)
    (known : lexer.documentMark token = .ok lexer₁) : lexer₁.newest Token.isFlow = false := by
  obtain ⟨_, -, answer⟩ := Reading.bind_eq_ok_iff.mp known
  cases answer
  exact foreign

/-- A name is no token of flow notation. -/
theorem newest_of_name {token : List Char → Token} (foreign : ∀ name, (token name).isFlow = false)
    (known : lexer.name token = .ok lexer₁) : lexer₁.newest Token.isFlow = false := by
  obtain ⟨_, -, known⟩ := Reading.bind_eq_ok_iff.mp known
  obtain ⟨_, -, answer⟩ := Reading.bind_eq_ok_iff.mp known
  cases answer
  exact foreign _

/-- What starts in another way is no token of flow notation in a flow collection. -/
theorem newest_of_isForeign {start : Start} (inFlow : lexer.inFlow = true)
    (foreign : start.isForeign = true) (literal : start ≠ .literal) (folded : start ≠ .folded)
    (known : start.read lexer = .ok lexer₁) : lexer₁.newest Token.isFlow = false := by
  cases start
  case directive =>
    obtain ⟨_, -, known⟩ := Reading.bind_eq_ok_iff.mp known
    obtain ⟨⟨token, cursor⟩, read, answer⟩ := Reading.bind_eq_ok_iff.mp known
    cases answer
    exact not_isFlow_of_read read
  case documentStart => exact newest_of_documentMark rfl known
  case documentEnd => exact newest_of_documentMark rfl known
  case entry =>
    rw [Start.read, blockEntry, inFlow] at known
    obtain ⟨_, -, answer⟩ := Reading.bind_eq_ok_iff.mp known
    cases answer
    rfl
  case reference => exact newest_of_name (fun _ => rfl) known
  case anchor => exact newest_of_name (fun _ => rfl) known
  case literal => exact absurd rfl literal
  case folded => exact absurd rfl folded
  case stray => cases known
  all_goals cases foreign

/-- In a flow collection a token of flow notation starts as one. -/
theorem not_isForeign {c : Char} {rest : List Char} (inFlow : lexer.inFlow = true)
    (known : (lexer.start c rest).read lexer = .ok lexer₁)
    (isFlow : lexer₁.newest Token.isFlow = true) : (lexer.start c rest).isForeign = false := by
  obtain ⟨literal, folded⟩ := not_block_of_inFlow inFlow c rest
  by_contra foreign
  have notFlow := newest_of_isForeign inFlow (by simpa using foreign) literal folded known
  exact Bool.noConfusion (notFlow.symm.trans isFlow)

/-- A plain scalar starts where one may. -/
theorem startsPlain_of_start {c : Char} {rest : List Char} (kind : lexer.start c rest = .plain) :
    lexer.startsPlain c rest = true := by
  by_contra not
  refine absurd kind ?_
  unfold start
  rw [if_neg not]
  repeat' first | refine ite_ne ?_ ?_ | exact nofun

/-- A plain scalar starts with an ordinary character. -/
theorem isOrdinary_of_start {c : Char} {rest : List Char} (inFlow : lexer.inFlow = true)
    (kind : lexer.start c rest = .plain) :
    Plain.isOrdinary c = true ∧ c ≠ '#' ∧ lexer.cursor.atDocumentMarker = false := by
  have starts := startsPlain_of_start kind
  have unmarked : lexer.cursor.atMarker '-' = false ∧ lexer.cursor.atMarker '.' = false := by
    constructor <;> refine Bool.eq_false_iff.mpr fun marked => absurd kind ?_ <;> unfold start <;>
      rw [if_pos marked] <;> repeat' first | refine ite_ne ?_ ?_ | exact nofun
  rw [startsPlain, inFlow] at starts
  refine ⟨?_, ?_, by rw [Cursor.atDocumentMarker, unmarked.1, unmarked.2]; rfl⟩
  · by_cases dash : c = '-'
    · subst dash
      decide
    · simp [dash, indicators] at starts
      simp [Plain.isOrdinary, Plain.isFlowIndicator, starts]
  · rintro rfl
    simp [indicators] at starts

/-- The token of a closing mark. -/
def Start.closing? : Start → Option Token
  | sequenceEnd => some .flowSequenceEnd
  | mappingEnd => some .flowMappingEnd
  | _ => none

/-- The token of a closing mark ends a collection. -/
theorem read_of_closing (lexer : Lexer) {start : Start} {token : Token}
    (kind : start.closing? = some token) :
    token.isFlow = true ∧ token.isTag = false ∧ start.read lexer = lexer.flowEnd token := by
  cases start <;> cases kind <;> exact ⟨rfl, rfl, rfl⟩

/-- The mark of a token that has one of its own. -/
def Start.mark? : Start → Option Char
  | sequenceStart => some '['
  | mappingStart => some '\x7b'
  | sequenceEnd => some ']'
  | mappingEnd => some '\x7d'
  | tag => some '!'
  | singleQuote => some '\''
  | doubleQuote => some '"'
  | _ => none

/-- A token that has a mark of its own starts with it. -/
theorem eq_of_start {c d : Char} {rest : List Char}
    (kind : (lexer.start c rest).mark? = some d) : c = d := by
  let marked (start : Start) : Prop := start.mark? = some d → c = d
  have all : marked (lexer.start c rest) := by
    unfold start
    repeat' refine iteInduction (motive := marked) (fun test => ?_) fun _ => ?_
    all_goals
      intro kind
      cases kind <;> exact beq_iff_eq.mp test
  exact all kind

/-- The token of a closing mark starts with the mark. -/
theorem isClosing_of_start {c : Char} {rest : List Char} {token : Token}
    (kind : (lexer.start c rest).closing? = some token) : IsClosing c := by
  cases start : lexer.start c rest
  case sequenceEnd => exact .inl (eq_of_start (congrArg Start.mark? start))
  case mappingEnd => exact .inr (eq_of_start (congrArg Start.mark? start))
  all_goals
    rw [start] at kind
    cases kind

/-- Forgetting a key changes nothing else. -/
theorem dropKey_eq_ok (known : lexer.dropKey = .ok lexer₁) :
    ∃ keys, lexer₁ = { lexer with keys } := by
  unfold dropKey at known
  split at known
  · split at known
    · cases known
    · cases known
      exact ⟨_, rfl⟩
  · cases known
    exact ⟨_, rfl⟩

/-- Remembering a key changes nothing else. -/
theorem saveKey_eq_ok (known : lexer.saveKey = .ok lexer₁) :
    ∃ keys, lexer₁ = { lexer with keys } := by
  unfold saveKey at known
  split at known
  · obtain ⟨lexer₂, dropped, answer⟩ := Reading.bind_eq_ok_iff.mp known
    obtain ⟨keys, rfl⟩ := dropKey_eq_ok dropped
    cases answer
    exact ⟨_, rfl⟩
  · cases known
    exact ⟨_, rfl⟩

/-- A token takes a part of the text and closes no collection. It takes a character at least; for a
tag this is said where the characters are counted. -/
structure Progress (lexer lexer₁ : Lexer) : Prop where
  /-- The text goes on as before. -/
  suffix : lexer₁.cursor.rest <:+ lexer.cursor.rest
  /-- Fewer characters are left. -/
  strictly : lexer.cursor.left = lexer.cursor.rest.length ∨ lexer₁.newest Token.isTag = false →
    lexer₁.cursor.rest.length < lexer.cursor.rest.length
  /-- As many collections are open, or more. -/
  depth : lexer.flowDepth ≤ lexer₁.flowDepth
  /-- The token is no closing mark. -/
  notClosing : lexer₁.newest Token.isClosing = false

/-- Taking a character is progress. -/
theorem Progress.of_lt (suffix : lexer₁.cursor.rest <:+ lexer.cursor.rest)
    (shorter : lexer₁.cursor.rest.length < lexer.cursor.rest.length)
    (depth : lexer.flowDepth ≤ lexer₁.flowDepth)
    (notClosing : lexer₁.newest Token.isClosing = false) : Progress lexer lexer₁ :=
  ⟨suffix, fun _ => shorter, depth, notClosing⟩

/-- A move by one character is progress if there is one. -/
theorem Progress.of_advance (filled : 0 < lexer.cursor.rest.length)
    (moved : lexer₁.cursor = lexer.cursor.advance 1)
    (depth : lexer.flowDepth ≤ lexer₁.flowDepth)
    (notClosing : lexer₁.newest Token.isClosing = false) : Progress lexer lexer₁ := by
  refine .of_lt ?_ ?_ depth notClosing
  · rw [moved]
    exact Cursor.advance_suffix _ 1
  · rw [moved, Cursor.length_rest_advance]
    omega

theorem flowStart_progress {token : Token} (filled : 0 < lexer.cursor.rest.length)
    (notClosing : token.isClosing = false) (known : lexer.flowStart token = .ok lexer₁) :
    Progress lexer lexer₁ := by
  obtain ⟨lexer₂, saved, answer⟩ := Reading.bind_eq_ok_iff.mp known
  obtain ⟨keys, rfl⟩ := saveKey_eq_ok saved
  cases answer
  exact .of_advance filled rfl (Nat.le_succ _) notClosing

theorem mark_progress {keyAllowed : Bool} {token : Token}
    (filled : 0 < lexer.cursor.rest.length) (notClosing : token.isClosing = false)
    (known : lexer.mark 1 keyAllowed token = .ok lexer₁) : Progress lexer lexer₁ := by
  obtain ⟨lexer₂, dropped, answer⟩ := Reading.bind_eq_ok_iff.mp known
  obtain ⟨keys, rfl⟩ := dropKey_eq_ok dropped
  cases answer
  exact .of_advance filled rfl (Nat.le_refl _) notClosing

theorem value_progress (inFlow : lexer.inFlow = true)
    (filled : 0 < lexer.cursor.rest.length) (known : lexer.value = .ok lexer₁) :
    Progress lexer lexer₁ := by
  by_cases pending : ∃ key outer, lexer.keys = some key :: outer
  · obtain ⟨key, outer, keys⟩ := pending
    rw [value_of_pending inFlow keys] at known
    cases known
    exact .of_advance filled rfl (Nat.le_refl _) rfl
  · rw [value_of_none inFlow fun key outer keys => pending ⟨key, outer, keys⟩] at known
    cases known
    exact .of_advance filled rfl (Nat.le_refl _) rfl

theorem tag_progress (known : lexer.tag = .ok lexer₁) : Progress lexer lexer₁ := by
  obtain ⟨lexer₂, saved, known⟩ := Reading.bind_eq_ok_iff.mp known
  obtain ⟨keys, rfl⟩ := saveKey_eq_ok saved
  obtain ⟨⟨token, after⟩, read, answer⟩ := Reading.bind_eq_ok_iff.mp known
  obtain ⟨handle, suffix, rfl⟩ := Tag.read_eq_tag read
  dsimp only at answer
  split at answer
  · cases answer
  · cases answer
    refine ⟨Tag.read_suffix read, ?_, Nat.le_refl _, rfl⟩
    rintro (counted | untagged)
    · exact Tag.length_read_lt counted read
    · cases untagged

/-- A tag opens no collection. -/
theorem flowDepth_of_tag (known : lexer.tag = .ok lexer₁) : lexer₁.flowDepth = lexer.flowDepth := by
  obtain ⟨lexer₂, saved, known⟩ := Reading.bind_eq_ok_iff.mp known
  obtain ⟨keys, rfl⟩ := saveKey_eq_ok saved
  obtain ⟨_, -, answer⟩ := Reading.bind_eq_ok_iff.mp known
  dsimp only at answer
  split at answer
  · cases answer
  · cases answer
    rfl

theorem quoted_progress {style : Style} (filled : 0 < lexer.cursor.rest.length)
    (known : lexer.quoted style = .ok lexer₁) : Progress lexer lexer₁ := by
  obtain ⟨lexer₂, saved, known⟩ := Reading.bind_eq_ok_iff.mp known
  obtain ⟨keys, rfl⟩ := saveKey_eq_ok saved
  obtain ⟨found, read, answer⟩ := Reading.bind_eq_ok_iff.mp known
  cases answer
  exact .of_lt ((Quoted.readFrom_suffix read).trans (Cursor.advance_suffix _ 1))
    (Quoted.length_read_lt filled read) (Nat.le_refl _) rfl

theorem plain_progress {c : Char} {rest : List Char} (inFlow : lexer.inFlow = true)
    (next : lexer.cursor.rest = c :: rest) (kind : lexer.start c rest = .plain)
    (known : lexer.plain = .ok lexer₁) : Progress lexer lexer₁ := by
  obtain ⟨lexer₂, saved, known⟩ := Reading.bind_eq_ok_iff.mp known
  obtain ⟨keys, rfl⟩ := saveKey_eq_ok saved
  obtain ⟨found, read, answer⟩ := Reading.bind_eq_ok_iff.mp known
  cases answer
  change Plain.read lexer.inFlow _ lexer.cursor = _ at read
  rw [inFlow] at read
  obtain ⟨ordinary, uncommented, unmarked⟩ := isOrdinary_of_start inFlow kind
  exact .of_lt (Plain.readFrom_suffix read)
    (Plain.length_readFrom_lt next ordinary uncommented unmarked read) (Nat.le_refl _) rfl

/-- A closing mark takes itself and closes a collection. -/
theorem flowEnd_eq_ok {token : Token} (known : lexer.flowEnd token = .ok lexer₁) :
    lexer₁.cursor = lexer.cursor.advance 1 ∧ lexer₁.flowDepth = lexer.flowDepth - 1 ∧
      lexer₁.slots = { token } :: lexer.slots := by
  obtain ⟨lexer₂, dropped, answer⟩ := Reading.bind_eq_ok_iff.mp known
  obtain ⟨keys, rfl⟩ := dropKey_eq_ok dropped
  cases answer
  exact ⟨rfl, rfl, rfl⟩

/-- One token of flow notation is progress or closes a collection. -/
theorem token_progress {c : Char} {rest : List Char} (inFlow : lexer.inFlow = true)
    (next : lexer.cursor.rest = c :: rest) (known : lexer.token c rest = .ok lexer₁)
    (isFlow : lexer₁.newest Token.isFlow = true) :
    Progress lexer lexer₁ ∨
      ∃ token, (lexer.start c rest).closing? = some token ∧ lexer.flowEnd token = .ok lexer₁ := by
  have filled : 0 < lexer.cursor.rest.length := by
    rw [next]
    exact Nat.succ_pos _
  rw [token_eq] at known
  have native := not_isForeign inFlow known isFlow
  cases kind : lexer.start c rest
  all_goals rw [kind] at known native
  all_goals try cases native
  case sequenceStart => exact .inl (flowStart_progress filled rfl known)
  case mappingStart => exact .inl (flowStart_progress filled rfl known)
  case sequenceEnd => exact .inr ⟨_, rfl, known⟩
  case mappingEnd => exact .inr ⟨_, rfl, known⟩
  case comma => exact .inl (mark_progress filled rfl known)
  case question =>
    rw [Start.read, explicitKey_of_inFlow inFlow] at known
    exact .inl (mark_progress filled rfl known)
  case colon => exact .inl (value_progress inFlow filled known)
  case tag => exact .inl (tag_progress known)
  case singleQuote => exact .inl (quoted_progress filled known)
  case doubleQuote => exact .inl (quoted_progress filled known)
  case plain => exact .inl (plain_progress inFlow next kind known)

/-- Starts of tokens that neither open nor close a collection, and are no tags. -/
def Start.isFlat : Start → Bool
  | comma | question | colon | singleQuote | doubleQuote | plain => true
  | _ => false

/-- Starts of scalars in a flow collection. -/
def Start.isScalar : Start → Bool
  | singleQuote | doubleQuote | plain => true
  | _ => false

/-- A token that neither opens nor closes a collection, and is no tag. It ends a node if it is a
scalar. -/
theorem read_of_isFlat {start : Start} (inFlow : lexer.inFlow = true) (flat : start.isFlat = true)
    (known : start.read lexer = .ok lexer₁) :
    lexer₁.flowDepth = lexer.flowDepth ∧ lexer₁.newest Token.isTag = false ∧
      lexer₁.newest Token.endsNode = start.isScalar := by
  cases start
  all_goals try cases flat
  case comma =>
    obtain ⟨_, dropped, answer⟩ := Reading.bind_eq_ok_iff.mp known
    obtain ⟨keys, rfl⟩ := dropKey_eq_ok dropped
    cases answer
    exact ⟨rfl, rfl, rfl⟩
  case question =>
    rw [Start.read, explicitKey_of_inFlow inFlow] at known
    obtain ⟨_, dropped, answer⟩ := Reading.bind_eq_ok_iff.mp known
    obtain ⟨keys, rfl⟩ := dropKey_eq_ok dropped
    cases answer
    exact ⟨rfl, rfl, rfl⟩
  case colon =>
    by_cases pending : ∃ key outer, lexer.keys = some key :: outer
    · obtain ⟨key, outer, keys⟩ := pending
      rw [Start.read, value_of_pending inFlow keys] at known
      cases known
      exact ⟨rfl, rfl, rfl⟩
    · have unkeyed := fun key outer keys => pending ⟨key, outer, keys⟩
      rw [Start.read, value_of_none inFlow unkeyed] at known
      cases known
      exact ⟨rfl, rfl, rfl⟩
  all_goals
    obtain ⟨_, saved, known⟩ := Reading.bind_eq_ok_iff.mp known
    obtain ⟨keys, rfl⟩ := saveKey_eq_ok saved
    obtain ⟨found, -, answer⟩ := Reading.bind_eq_ok_iff.mp known
    cases answer
    exact ⟨rfl, rfl, rfl⟩

/-- In a flow collection a token that goes deeper and a tag start with their own marks. -/
theorem start_of_deeper {c : Char} {rest : List Char} (inFlow : lexer.inFlow = true)
    (known : (lexer.start c rest).read lexer = .ok lexer₁)
    (isFlow : lexer₁.newest Token.isFlow = true)
    (deeper : lexer.flowDepth < lexer₁.flowDepth ∨ lexer₁.newest Token.isTag = true) :
    lexer.start c rest = .sequenceStart ∨ lexer.start c rest = .mappingStart ∨
      lexer.start c rest = .tag := by
  have native := not_isForeign inFlow known isFlow
  have notFlat : (lexer.start c rest).isFlat = false := by
    by_contra flat
    obtain ⟨depth, untagged, -⟩ := read_of_isFlat inFlow (by simpa using flat) known
    rcases deeper with deeper | tagged
    · omega
    · exact Bool.noConfusion (tagged.symm.trans untagged)
  have notClosing : (lexer.start c rest).closing? = none := by
    by_contra closing
    obtain ⟨token, kind⟩ := Option.ne_none_iff_exists'.mp closing
    obtain ⟨-, untagged, ends⟩ := read_of_closing lexer kind
    obtain ⟨-, depth, slots⟩ := flowEnd_eq_ok (ends ▸ known)
    rcases deeper with deeper | tagged
    · omega
    · rw [newest, slots] at tagged
      exact Bool.noConfusion (tagged.symm.trans untagged)
  cases kind : lexer.start c rest
  case sequenceStart => exact .inl rfl
  case mappingStart => exact .inr (.inl rfl)
  case tag => exact .inr (.inr rfl)
  all_goals rw [kind] at native notFlat notClosing
  all_goals try cases native
  all_goals try cases notFlat
  all_goals cases notClosing

end Lexer

end Covenant.Yaml
