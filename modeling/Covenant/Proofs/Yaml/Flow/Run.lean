import Covenant.Proofs.Yaml.Flow.Lexer

/-!
# Runs of a lexer

A run is steps to the next token up to the end of the text (`Lexer.run_of_steps`). The tokens of a
node between brackets are read in as many steps wherever the node stands, up to its last token
(`Lexer.toNodeEnd_alike`).
-/
namespace Covenant.Yaml.Lexer

variable {shift extra count more fuel : Nat} {close : Char} {after after' : List Char}
  {base : List Slot} {lexer lexer' lexer₁ last final : Lexer}

/-- Some tokens are read one after the other. -/
inductive Steps : Nat → Lexer → Lexer → Prop
  /-- None is read. -/
  | done (lexer : Lexer) : Steps 0 lexer lexer
  /-- One is read, and then the others. -/
  | next {count : Nat} {lexer lexer₁ last : Lexer} (first : lexer.next = .ok lexer₁)
      (others : Steps count lexer₁ last) : Steps (count + 1) lexer last

/-- Steps after steps. -/
theorem Steps.trans (first : Steps count lexer lexer₁) (others : Steps more lexer₁ last) :
    Steps (more + count) lexer last := by
  induction first with
  | done => exact others
  | next first _ ih => exact .next first (ih others)

/-- A token is read at the next place that is not the end. -/
theorem next_eq_ok_iff : lexer.next = .ok lexer₁ ↔ ∃ ready c rest, lexer.ready = .ok ready ∧
    ready.cursor.rest = c :: rest ∧ ready.token c rest = .ok lexer₁ := by
  rw [next, Reading.bind_eq_ok_iff]
  constructor
  · rintro ⟨ready, known, answer⟩
    cases place : ready.cursor.rest with
    | nil =>
      rw [place] at answer
      cases answer
    | cons c rest =>
      rw [place] at answer
      exact ⟨ready, c, rest, known, place, answer⟩
  · rintro ⟨ready, c, rest, known, place, answer⟩
    refine ⟨ready, known, ?_⟩
    rw [place]
    exact answer

/-- A run goes to the next place and ends there or reads a token. -/
theorem run_succ (fuel : Nat) (lexer : Lexer) : run (fuel + 1) lexer =
    lexer.ready >>= fun lexer => match lexer.cursor.rest with
      | [] => (lexer.closeBlocks none).dropKey
      | c :: rest => lexer.token c rest >>= run fuel := by
  rw [ready]
  refine Eq.trans ?_ (bind_assoc _ _ _).symm
  rfl

/-- A run goes on after steps. -/
theorem run_of_steps (steps : Steps count lexer last) :
    run (fuel + count) lexer = run fuel last := by
  induction steps with
  | done => rfl
  | next first _ ih =>
    obtain ⟨ready, c, rest, known, place, answer⟩ := next_eq_ok_iff.mp first
    rw [← Nat.add_assoc, run_succ, known, ← ih]
    change (match ready.cursor.rest with
      | [] => (ready.closeBlocks none).dropKey
      | c :: rest => ready.token c rest >>= run _) = _
    rw [place]
    change ready.token c rest >>= run _ = _
    rw [answer]
    rfl

/-- Before the first token nothing may turn out to be a key. -/
def Started (lexer : Lexer) : Prop := lexer.slots = [] → lexer.keys.head? = some none

/-- After a token there is a first one. -/
theorem started_of_newest {test : Token → Bool} (read : lexer.newest test = true) :
    lexer.Started := by
  intro none
  rw [newest, none] at read
  cases read

/-- What going to the next token does in a flow collection. -/
structure Readies (lexer lexer₁ : Lexer) : Prop where
  /-- The text goes on as before. -/
  suffix : lexer₁.cursor.rest <:+ lexer.cursor.rest
  /-- The characters stay counted. -/
  counted : lexer.cursor.left = lexer.cursor.rest.length →
    lexer₁.cursor.left = lexer₁.cursor.rest.length
  /-- The same collections are open. -/
  depth : lexer₁.flowDepth = lexer.flowDepth
  /-- Nothing turns out to be a key. -/
  started : lexer.Started → lexer₁.Started

/-- The lexer is still in a flow collection. -/
theorem Readies.inFlow (readies : Readies lexer lexer₁) (inFlow : lexer.inFlow = true) :
    lexer₁.inFlow = true := by
  rw [Lexer.inFlow, readies.depth]
  exact inFlow

theorem readies_of_ready (inFlow : lexer.inFlow = true) (known : lexer.ready = .ok lexer₁) :
    Readies lexer lexer₁ := by
  obtain ⟨cursor, keys, rfl, suffix, counted, unkeyed⟩ := ready_eq_ok inFlow known
  exact ⟨suffix, counted, rfl, fun started none => unkeyed (started none)⟩

/-- A step that reads a token of flow notation goes to the token and takes it from the text. It
takes a character at least; for a tag this is said where the characters are counted. A tag closes no
collection. -/
theorem next_progress (inFlow : lexer.inFlow = true) (known : lexer.next = .ok lexer₁)
    (isFlow : lexer₁.newest Token.isFlow = true) :
    ∃ ready, lexer.ready = .ok ready ∧ Readies lexer ready ∧
      lexer₁.cursor.rest <:+ ready.cursor.rest ∧
      (ready.cursor.left = ready.cursor.rest.length ∨ lexer₁.newest Token.isTag = false →
        lexer₁.cursor.rest.length < ready.cursor.rest.length) ∧
      (lexer₁.newest Token.isTag = true → ready.flowDepth ≤ lexer₁.flowDepth) := by
  obtain ⟨ready, c, rest, known, place, reads⟩ := next_eq_ok_iff.mp known
  have readies := readies_of_ready inFlow known
  refine ⟨ready, known, readies, ?_⟩
  rcases token_progress (readies.inFlow inFlow) place reads isFlow with
    progress | ⟨token, kind, closes⟩
  · exact ⟨progress.suffix, progress.strictly, fun _ => progress.depth⟩
  · obtain ⟨moved, -, slots⟩ := flowEnd_eq_ok closes
    have untagged : lexer₁.newest Token.isTag = false := by
      rw [newest, slots]
      exact (read_of_closing ready kind).2.1
    have one : lexer₁.cursor.rest.length < ready.cursor.rest.length := by
      rw [moved, Cursor.length_rest_advance, place, List.length_cons]
      omega
    exact ⟨moved ▸ Cursor.advance_suffix _ 1, fun _ => one,
      fun tagged => Bool.noConfusion (tagged.symm.trans untagged)⟩

/-- Both read a token of flow notation that does not close the outermost collection. -/
theorem Alike.next (closes : IsClosing close)
    (alike : Alike shift extra base close after after' lexer lexer') (started : lexer.Started)
    (known : lexer.next = .ok lexer₁) (isFlow : lexer₁.newest Token.isFlow = true)
    (within : after.length < lexer₁.cursor.rest.length) (inner_left : extra < lexer₁.flowDepth) :
    ∃ lexer₁', lexer'.next = .ok lexer₁' ∧
      Alike shift extra base close after after' lexer₁ lexer₁' := by
  obtain ⟨ready, c, rest, known, place, reads⟩ := next_eq_ok_iff.mp known
  have readies := readies_of_ready alike.inFlow.1 known
  have inFlow := readies.inFlow alike.inFlow.1
  have shorter : lexer₁.cursor.rest.length ≤ ready.cursor.rest.length := by
    rcases token_progress inFlow place reads isFlow with progress | ⟨token, -, ends⟩
    · exact progress.suffix.length_le
    · rw [(flowEnd_eq_ok ends).1]
      exact (Cursor.advance_suffix _ 1).length_le
  obtain ⟨ready', readies', ready_alike⟩ :=
    alike.ready closes known (Nat.lt_of_lt_of_le within shorter)
  obtain ⟨rest', place'⟩ := ready_alike.cursor.rest_eq_cons place
  obtain ⟨lexer₁', reads', alike'⟩ :=
    ready_alike.token closes (readies.started started) place place' reads isFlow within inner_left
  exact ⟨lexer₁', next_eq_ok_iff.mpr ⟨ready', c, rest', readies', place', reads'⟩, alike'⟩

/-- Reading on to the end of a node, or being there. -/
theorem toNodeEnd_eq_ok (known : toNodeEnd (fuel + 1) lexer = .ok final) :
    ∃ lexer₁, lexer.next = .ok lexer₁ ∧ lexer₁.newest Token.isFlow = true ∧
      ((1 < lexer₁.flowDepth ∨ lexer₁.newest Token.isTag = true ∧ lexer₁.goesOn = true) ∧
          toNodeEnd fuel lexer₁ = .ok final ∨
        lexer₁.flowDepth ≤ 1 ∧ lexer₁.newest Token.endsNode = true ∧ final = lexer₁) := by
  obtain ⟨lexer₁, next, known⟩ := Reading.bind_eq_ok_iff.mp known
  refine ⟨lexer₁, next, ?_⟩
  dsimp only at known
  split at known
  · cases known
  rename_i isFlow
  refine ⟨by simpa using isFlow, ?_⟩
  change (if _ then _ else _) = _ at known
  split at known
  · rename_i inner
    exact .inl ⟨.inl inner, known⟩
  rename_i outermost
  split at known
  · rename_i ends
    cases known
    exact .inr ⟨Nat.le_of_not_lt outermost, ends, rfl⟩
  split at known
  · rename_i tagged
    exact .inl ⟨.inr (Bool.and_eq_true_iff.mp tagged), known⟩
  · cases known

/-- A scalar or closing mark is no tag. -/
theorem not_isTag_of_endsNode (ends : lexer.newest Token.endsNode = true) :
    lexer.newest Token.isTag = false := by
  unfold newest at ends ⊢
  match slots : lexer.slots with
  | [] => rfl
  | ⟨before, token⟩ :: others =>
    rw [slots] at ends
    cases token <;> first | rfl | cases ends

/-- After a token that does not end a node a flow collection is open. -/
theorem inFlow_of_inside (inFlow : lexer.inFlow = true) (known : lexer.next = .ok lexer₁)
    (isFlow : lexer₁.newest Token.isFlow = true)
    (inside : 1 < lexer₁.flowDepth ∨ lexer₁.newest Token.isTag = true ∧ lexer₁.goesOn = true) :
    lexer₁.inFlow = true := by
  obtain ⟨ready, -, readies, -, -, depth⟩ := next_progress inFlow known isFlow
  have positive : 0 < lexer.flowDepth := of_decide_eq_true inFlow
  have same := readies.depth
  rcases inside with inner | ⟨tagged, -⟩
  · exact decide_eq_true (by omega)
  · have stays := depth tagged
    exact decide_eq_true (by omega)

/-- The end of a node comes after a character of it at least. -/
theorem length_toNodeEnd_lt (inFlow : lexer.inFlow = true)
    (known : toNodeEnd fuel lexer = .ok final) :
    ∃ ready, lexer.ready = .ok ready ∧ Readies lexer ready ∧
      final.cursor.rest.length < ready.cursor.rest.length := by
  induction fuel generalizing lexer with
  | zero => cases known
  | succ fuel ih =>
    obtain ⟨lexer₁, next, isFlow, onwards⟩ := toNodeEnd_eq_ok known
    obtain ⟨ready, known_ready, readies, suffix, strictly, -⟩ := next_progress inFlow next isFlow
    have shorter := suffix.length_le
    refine ⟨ready, known_ready, readies, ?_⟩
    rcases onwards with ⟨inside, known⟩ | ⟨-, ends, rfl⟩
    · obtain ⟨ready₁, -, readies₁, less⟩ := ih (inFlow_of_inside inFlow next isFlow inside) known
      have shorter₁ := readies₁.suffix.length_le
      omega
    · exact strictly (.inr (not_isTag_of_endsNode ends))

/-- A node that ends with a closing mark does so in the text. -/
theorem closing_of_toNodeEnd (inFlow : lexer.inFlow = true)
    (known : toNodeEnd fuel lexer = .ok final) (closed : final.newest Token.isClosing = true) :
    ∃ c, IsClosing c ∧ c :: final.cursor.rest <:+ lexer.cursor.rest := by
  induction fuel generalizing lexer with
  | zero => cases known
  | succ fuel ih =>
    obtain ⟨lexer₁, next, isFlow, onwards⟩ := toNodeEnd_eq_ok known
    rcases onwards with ⟨inside, known⟩ | ⟨-, -, rfl⟩
    · obtain ⟨ready, -, readies, suffix, -⟩ := next_progress inFlow next isFlow
      obtain ⟨c, closes, ends⟩ := ih (inFlow_of_inside inFlow next isFlow inside) known
      exact ⟨c, closes, ends.trans (suffix.trans readies.suffix)⟩
    · obtain ⟨ready, c, rest, known, place, reads⟩ := next_eq_ok_iff.mp next
      have readies := readies_of_ready inFlow known
      rcases token_progress (readies.inFlow inFlow) place reads isFlow with
        progress | ⟨token, kind, ends⟩
      · exact absurd (closed.symm.trans progress.notClosing) nofun
      · have moved : final.cursor.rest = rest := by
          rw [(flowEnd_eq_ok ends).1, Cursor.rest_advance, place]
          rfl
        exact ⟨c, isClosing_of_start kind, by rw [moved, ← place]; exact readies.suffix⟩

/-- A node is read in as many steps in both texts, up to the place before its last token. -/
theorem toNodeEnd_alike (closes : IsClosing close) (short : after.length ≤ 1) (extra_le : extra ≤ 1)
    (alike : Alike shift extra base close after after' lexer lexer') (started : lexer.Started)
    (known : toNodeEnd fuel lexer = .ok final) (single : final.cursor.rest.length = 1) :
    ∃ count last last', Steps count lexer' last' ∧
      Alike shift extra base close after after' last last' ∧ last.Started ∧
      last.next = .ok final ∧ final.newest Token.isFlow = true ∧
      final.newest Token.endsNode = true ∧ final.flowDepth ≤ 1 ∧
      count + last.cursor.rest.length ≤ lexer.cursor.rest.length := by
  induction fuel generalizing lexer lexer' with
  | zero => cases known
  | succ fuel ih =>
    obtain ⟨inFlow, -⟩ := alike.inFlow
    obtain ⟨lexer₁, next, isFlow, onwards⟩ := toNodeEnd_eq_ok known
    obtain ⟨ready, -, readies, -, strictly, depth⟩ := next_progress inFlow next isFlow
    have shorter := Nat.lt_of_lt_of_le (strictly (.inl (readies.counted alike.cursor.left)))
      readies.suffix.length_le
    rcases onwards with ⟨inside, known⟩ | ⟨outermost, ends, rfl⟩
    -- The node goes on, so the token neither reaches the mark nor closes the outer collection.
    · have inner_left : extra < lexer₁.flowDepth := by
        rcases inside with inner | ⟨tagged, -⟩
        · exact Nat.lt_of_le_of_lt extra_le inner
        · exact Nat.lt_of_lt_of_le (readies.depth ▸ alike.depth) (depth tagged)
      have inFlow₁ := inFlow_of_inside inFlow next isFlow inside
      obtain ⟨_, -, readies₁, room⟩ := length_toNodeEnd_lt inFlow₁ known
      have within : after.length < lexer₁.cursor.rest.length :=
        Nat.lt_of_le_of_lt (single ▸ short) (Nat.lt_of_lt_of_le room readies₁.suffix.length_le)
      obtain ⟨lexer₁', next', alike₁⟩ := alike.next closes started next isFlow within inner_left
      obtain ⟨count, last, last', steps, last_alike, last_started, rest⟩ :=
        ih alike₁ (started_of_newest isFlow) known
      obtain ⟨last_next, last_flow, ends, outermost, counted⟩ := rest
      exact ⟨count + 1, last, last', .next next' steps, last_alike, last_started, last_next,
        last_flow, ends, outermost, by omega⟩
    · exact ⟨0, lexer, lexer', .done _, alike, started, next, isFlow, ends, outermost, by omega⟩

end Covenant.Yaml.Lexer
