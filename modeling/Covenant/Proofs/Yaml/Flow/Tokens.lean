import Covenant.Proofs.Yaml.Flow.Run

/-!
# The tokens of a node in a block mapping

A text may declare a node in flow notation as the value of a key, or as the one item of a list that
is the value of a key. Either way the tokens of the node are those that it has between brackets.
-/
namespace Covenant.Yaml.Lexer

variable {shift extra count more fuel : Nat} {close : Char} {after after' : List Char}
  {base slots : List Slot} {lexer lexer' lexer₁ last final : Lexer}

/-- A place where the text ends or a token starts. -/
def AtToken (cursor : Cursor) : Prop :=
  ∀ c ∈ cursor.rest.head?, isGap c = false ∧ c ≠ '#' ∧ (c = '\ufeff' → cursor.column ≠ 0)

/-- Where a token starts, there is no separator to skip. -/
theorem skipSeparators_of_atToken (atToken : AtToken lexer.cursor) :
    skipSeparators fuel lexer = lexer := by
  obtain _ | fuel := fuel
  · rfl
  have unmarked : ¬(lexer.cursor.column == 0 && lexer.cursor.isAt '\ufeff') = true := by
    rw [Bool.and_eq_true_iff, beq_iff_eq, Cursor.isAt, beq_iff_eq]
    rintro ⟨start, mark⟩
    exact (atToken _ mark).2.2 rfl start
  have stays : ∀ {test : Char → Bool}, (∀ c, test c = true → isGap c = true) →
      lexer.cursor.skipWhile test = lexer.cursor := by
    intro test gaps
    have none_taken : lexer.cursor.rest.takeWhile test = [] := by
      cases rest : lexer.cursor.rest with
      | nil => rfl
      | cons c others =>
        have notGap := (atToken c (by rw [rest]; rfl)).1
        exact List.takeWhile_cons_of_neg fun goes =>
          Bool.noConfusion ((gaps c goes).symm.trans notGap)
    rw [Cursor.skipWhile, none_taken, List.length_nil, Cursor.advance_zero]
  have blanks : ∀ {tabs : Bool} (c : Char), (c == ' ' || (tabs && c == '\t')) = true →
      isGap c = true := by
    intro tabs c
    rw [Bool.or_eq_true_iff, Bool.and_eq_true_iff, beq_iff_eq, beq_iff_eq]
    rintro (rfl | ⟨-, rfl⟩) <;> rfl
  have uncommented : ¬lexer.cursor.isAt '#' = true := by
    rw [Cursor.isAt, beq_iff_eq]
    exact fun mark => (atToken _ mark).2.1 rfl
  have inLine : ¬lexer.cursor.atBreak = true := by
    rw [Cursor.atBreak, Option.any_eq_true]
    rintro ⟨c, next, ends⟩
    have notGap := (atToken c next).1
    rw [isGap, ends, Bool.or_true] at notGap
    cases notGap
  unfold skipSeparators
  dsimp only
  rw [if_neg unmarked, stays blanks, if_neg uncommented, if_neg inLine]

/-- A text in a block mapping is at its end. -/
structure Ended (slots : List Slot) (lexer : Lexer) : Prop where
  /-- No characters are left. -/
  rest : lexer.cursor.rest = []
  /-- No flow collection is open. -/
  flowDepth : lexer.flowDepth = 0
  /-- One block mapping is open. -/
  indents : lexer.indents = [0]
  /-- Nothing may turn out to be a key. -/
  keys : lexer.keys = [none]
  /-- Some tokens were read. -/
  slots : lexer.slots = slots

/-- Where nothing may turn out to be a key, nothing is forgotten. -/
theorem dropStale_of_unkeyed (keys : lexer.keys = [none]) : lexer.dropStale = .ok lexer := by
  refine dropStale_eq_ok_iff.mpr ⟨[none], ?_, ?_⟩
  · rw [keys]
    exact .cons rfl .nil
  · rw [← keys]

/-- Where nothing may turn out to be a key, there is no key to forget. -/
theorem dropKey_of_unkeyed (keys : lexer.keys = [none]) : lexer.dropKey = .ok lexer := by
  rw [dropKey, keys]

/-- No column is left of the block mapping. -/
theorem closeBlocks_of_indents (indents : lexer.indents = [0]) (column : Nat) :
    lexer.closeBlocks (some column) = lexer := by
  unfold closeBlocks
  split
  · rfl
  · have none_closed :
        lexer.indents.takeWhile (fun indent => (some column).all (· < indent)) = [] := by
      rw [indents]
      rfl
    dsimp only
    rw [none_closed]
    rfl

/-- At the end of the text the block mapping ends. -/
theorem run_of_ended (ended : Ended slots lexer) (fuel : Nat) :
    ∃ lexer₁, run (fuel + 1) lexer = .ok lexer₁ ∧
      lexer₁.slots = { token := .blockEnd } :: slots := by
  have readies : lexer.ready = .ok lexer := by
    have stays : skipSeparators (lexer.cursor.left + 1) lexer = lexer :=
      skipSeparators_of_atToken (by simp [AtToken, ended.rest])
    rw [ready, stays, dropStale_of_unkeyed ended.keys]
    exact congrArg Except.ok (closeBlocks_of_indents ended.indents _)
  have closed : lexer.closeBlocks none = { lexer with indents := [] }.emit .blockEnd := by
    rw [closeBlocks, inFlow, ended.flowDepth, ended.indents]
    rfl
  have unkeyed : (lexer.closeBlocks none).dropKey = .ok (lexer.closeBlocks none) := by
    rw [closed]
    exact dropKey_of_unkeyed ended.keys
  refine ⟨lexer.closeBlocks none, ?_, ?_⟩
  · rw [run_succ]
    refine Reading.bind_eq_ok_iff.mpr ⟨lexer, readies, ?_⟩
    rw [ended.rest]
    exact unkeyed
  · rw [closed]
    exact congrArg _ ended.slots

/-- A closing mark that is the last character of the text ends it. -/
theorem ended_of_flowEnd (token : Token) {c : Char} {key : Option PendingKey}
    (flowDepth : lexer.flowDepth = 1) (indents : lexer.indents = [0])
    (keys : lexer.keys = [key, none]) (optional : ∀ pending ∈ key, pending.required = false)
    (rest : lexer.cursor.rest = [c]) :
    ∃ lexer₁, lexer.flowEnd token = .ok lexer₁ ∧ Ended ({ token } :: lexer.slots) lexer₁ := by
  have unkeyed : lexer.dropKey = .ok { lexer with keys := [none, none] } := by
    rw [dropKey, keys]
    cases key with
    | none => exact congrArg Except.ok (by rw [← keys])
    | some pending =>
      dsimp only
      rw [optional pending rfl]
      rfl
  refine ⟨_, Reading.bind_eq_ok_iff.mpr ⟨_, unkeyed, rfl⟩, ?_⟩
  refine ⟨?_, congrArg (· - 1) flowDepth, indents, ?_, rfl⟩
  · change lexer.cursor.rest.drop 1 = []
    rw [rest]
    rfl
  · change (if lexer.inFlow then _ else _) = _
    rw [inFlow, flowDepth]
    rfl

/-- The keys of a lexer in one flow collection. -/
theorem Alike.keys_of_depth (alike : Alike shift extra base close after after' lexer lexer')
    (outermost : lexer.flowDepth = extra + 1) :
    lexer'.flowDepth = 1 ∧
      ∃ key, lexer'.keys = [key, none] ∧ ∀ pending ∈ key, pending.required = false := by
  obtain ⟨inner, inner', outer, -, keys', alikes, filled, depth, depth'⟩ := alike.keys
  obtain _ | ⟨first, _ | ⟨second, others⟩⟩ := alikes
  · exact absurd rfl filled
  · refine ⟨depth', _, keys', ?_⟩
    cases first with
    | neither => exact nofun
    | both optional optional' =>
      rintro _ ⟨⟩
      exact optional'
  · simp only [List.length_cons] at depth
    omega

/-- The last closing mark of a node ends the text in which nothing follows the node. -/
theorem Alike.next_closes (closes : IsClosing close)
    (alike : Alike shift 1 base close [']'] [] last lexer') (known : last.next = .ok final)
    (isFlow : final.newest Token.isFlow = true) (outermost : final.flowDepth = 1)
    (single : final.cursor.rest.length = 1) :
    ∃ final', lexer'.next = .ok final' ∧ Ended (final.slots ++ base) final' := by
  obtain ⟨ready, c, rest, known, place, reads⟩ := next_eq_ok_iff.mp known
  have readies := readies_of_ready alike.inFlow.1 known
  have inFlow := readies.inFlow alike.inFlow.1
  have deep := alike.depth
  rcases token_progress inFlow place reads isFlow with progress | ⟨token, kind, ends⟩
  · have stays := progress.depth
    have same := readies.depth
    omega
  obtain ⟨moved, depth, slots⟩ := flowEnd_eq_ok ends
  have two : ready.cursor.rest.length = 2 := by
    rw [moved, Cursor.length_rest_advance] at single
    omega
  obtain ⟨ready', known', ready_alike⟩ :=
    alike.ready closes known (two ▸ Nat.lt_succ_self 1)
  obtain ⟨body, split, split'⟩ := ready_alike.cursor.rest
  have nobody : body = [] := by
    rw [split, List.length_append, List.length_cons, List.length_singleton] at two
    exact List.length_eq_zero_iff.mp (by omega)
  subst nobody
  rw [List.nil_append] at split split'
  obtain ⟨rfl, rfl⟩ := List.cons.inj (place.symm.trans split)
  obtain ⟨depth', key, keys', optional⟩ := ready_alike.keys_of_depth (by omega)
  obtain ⟨final', ends', ended⟩ := ended_of_flowEnd token depth' ready_alike.indents' keys'
    optional split'
  refine ⟨final', next_eq_ok_iff.mpr ⟨ready', _, [], known', split', ?_⟩, ?_⟩
  · rw [token_eq, ready_alike.start closes place split', (read_of_closing ready' kind).2.2]
    exact ends'
  · rw [slots, List.cons_append, ← ready_alike.slots]
    exact ended

/-- A value that does not have to be a key is kept or forgotten at the next token. -/
theorem dropStale_of_optional {key : Option PendingKey} (keys : lexer.keys = [key, none])
    (optional : ∀ pending ∈ key, pending.required = false) :
    ∃ kept, lexer.dropStale = .ok { lexer with keys := [kept, none] } ∧
      ∀ pending ∈ kept, pending.required = false := by
  have keeps : ∃ kept, keep lexer.cursor key = .ok kept ∧
      ∀ pending ∈ kept, pending.required = false := by
    cases key with
    | none => exact ⟨none, rfl, nofun⟩
    | some pending =>
      rw [keep, optional pending rfl]
      split
      · exact ⟨_, rfl, optional⟩
      · exact ⟨none, rfl, nofun⟩
  obtain ⟨kept, known, optional⟩ := keeps
  refine ⟨kept, dropStale_eq_ok_iff.mpr ⟨_, ?_, rfl⟩, optional⟩
  rw [keys]
  exact .cons known (.cons rfl .nil)

/-- A bracket that is the last character of the text closes a list. -/
theorem start_of_bracket (rest : lexer.cursor.rest = [']']) :
    lexer.start ']' [] = .sequenceEnd := by
  have unmarked : ∀ d, (d == ']') = false → lexer.cursor.atMarker d = false := by
    intro d other
    rw [Cursor.atMarker, rest]
    simp [List.isPrefixOf, other]
  unfold Lexer.start
  rw [unmarked '-' rfl, unmarked '.' rfl]
  rfl

/-- The bracket after a node ends the text in which nothing follows it. -/
theorem Alike.next_bracket (alike : Alike shift 0 base ']' [] [] final lexer')
    (outermost : final.flowDepth = 1) (rest : final.cursor.rest = [']']) :
    ∃ final', lexer'.next = .ok final' ∧
      Ended ({ token := .flowSequenceEnd } :: (final.slots ++ base)) final' := by
  obtain ⟨depth', key, keys', optional⟩ := alike.keys_of_depth outermost
  have rest' : lexer'.cursor.rest = [']'] := by
    obtain ⟨body, split, split'⟩ := alike.cursor.rest
    exact split'.trans (split.symm.trans rest)
  have stays : skipSeparators (lexer'.cursor.left + 1) lexer' = lexer' := by
    refine skipSeparators_of_atToken ?_
    rw [AtToken, rest']
    rintro _ ⟨⟩
    exact ⟨rfl, nofun, nofun⟩
  obtain ⟨kept, known, optional⟩ := dropStale_of_optional keys' optional
  let ready : Lexer := { lexer' with keys := [kept, none] }
  have readies : lexer'.ready = .ok ready := by
    rw [ready_of_inFlow alike.inFlow.2, stays, known]
  have depth_ready : ready.flowDepth = 1 := depth'
  have rest_ready : ready.cursor.rest = [']'] := rest'
  obtain ⟨final', ends', ended⟩ := ended_of_flowEnd .flowSequenceEnd depth_ready alike.indents' rfl
    optional rest_ready
  refine ⟨final', next_eq_ok_iff.mpr ⟨ready, ']', [], readies, rest', ?_⟩, ?_⟩
  · rw [token_eq, start_of_bracket rest_ready]
    exact ends'
  · rw [← alike.slots]
    exact ended

/-! ## An item of a list -/

/-- The tokens before the items of a list of protocols, last first. -/
def listSlots : List Slot :=
  [{ token := .flowSequenceStart }, { token := .value },
    { before := [.blockMappingStart, .key]
      token := .scalar .plain ['p', 'r', 'o', 't', 'o', 'c', 'o', 'l', 's'] }]

/-- The place after the opening bracket of a list of protocols. -/
def inList (cs : List Char) : Lexer where
  cursor := { rest := cs ++ [']'], offset := 12, column := 12 }
  flowDepth := 1
  indents := [0]
  keys := [none, none]
  slots := listSlots

/-- The opening bracket of a list of protocols is reached in three steps. -/
theorem steps_inList (cs : List Char) :
    Steps 3 { cursor := { rest := ['p', 'r', 'o', 't', 'o', 'c', 'o', 'l', 's', ':', ' ', '['] ++
      (cs ++ [']']) } } (inList cs) := by
  let start : Lexer :=
    { cursor := { rest := ['p', 'r', 'o', 't', 'o', 'c', 'o', 'l', 's', ':', ' ', '['] ++
      (cs ++ [']']) } }
  let key : Lexer :=
    { cursor := { rest := ':' :: ' ' :: '[' :: (cs ++ [']']), offset := 9, column := 9 }
      keyAllowed := false
      keys := [some ⟨false, 0, start.cursor⟩]
      slots := [{ token := .scalar .plain ['p', 'r', 'o', 't', 'o', 'c', 'o', 'l', 's'] }] }
  let value : Lexer :=
    { cursor := { rest := ' ' :: '[' :: (cs ++ [']']), offset := 10, column := 10 }
      indents := [0]
      keyAllowed := false
      slots := listSlots.drop 1 }
  have first : start.next = .ok key := by
    have readies : start.ready = .ok start := rfl
    have reads : start.plain = .ok key := rfl
    exact next_eq_ok_iff.mpr ⟨start, _, _, readies, rfl, reads⟩
  have second : key.next = .ok value := by
    have readies : key.ready = .ok key := rfl
    have reads : key.value = .ok value := rfl
    exact next_eq_ok_iff.mpr ⟨key, _, _, readies, rfl, reads⟩
  have third : value.next = .ok (inList cs) := by
    have readies : value.ready = .ok (value.skip 1) := rfl
    have reads : (value.skip 1).flowStart .flowSequenceStart = .ok (inList cs) := rfl
    exact next_eq_ok_iff.mpr ⟨value.skip 1, _, _, readies, rfl, reads⟩
  exact .next first (.next second (.next third (.done _)))

/-- The place between brackets and the place in a list are alike. -/
theorem alike_inList (cs : List Char) :
    Alike 12 0 listSlots ']' [] [] (betweenBrackets cs) (inList cs) where
  cursor := ⟨⟨cs, rfl, rfl⟩, rfl, rfl, rfl, .inr ⟨Nat.one_pos, Nat.succ_pos _⟩, rfl⟩
  indents := rfl
  indents' := rfl
  slots := rfl
  count := rfl
  count' := rfl
  isFlow := nofun
  keyAllowed := rfl
  keys := ⟨[none], [none], [none], rfl, rfl, .cons .neither .nil, nofun, rfl, rfl⟩

/-- The end of a text is reached by steps that its length leaves room for. -/
theorem ofText_of_steps {text : String} {cs : List Char} (chars : text.toList = cs)
    (allowed : cs.all isAllowed = true)
    (steps : Steps count { cursor := { rest := cs } } last) (enough : count ≤ cs.length)
    (ended : Ended slots last) :
    Token.ofText text =
      .ok (slots.reverse.flatMap (fun slot => slot.before ++ [slot.token]) ++ [.blockEnd]) := by
  obtain ⟨fuel, total⟩ := Nat.exists_eq_add_of_le enough
  obtain ⟨lexer, ran, read⟩ := run_of_ended ended fuel
  have room : cs.length + 1 = fuel + 1 + count := by omega
  have ran' : run (cs.length + 1) { cursor := { rest := cs } } = .ok lexer :=
    (congrArg (run · _) room).trans ((run_of_steps steps).trans ran)
  rw [Token.ofText, chars, if_pos allowed, ran']
  change Except.ok (lexer.slots.reverse.flatMap _) = _
  rw [read, List.reverse_cons, List.flatMap_append]
  rfl

/-- The end of a node is reached in a list, too. -/
theorem toNodeEnd_inList {cs : List Char} (known : toNodeEnd fuel (betweenBrackets cs) = .ok final)
    (outermost : final.flowDepth = 1) (rest : final.cursor.rest = [']']) :
    ∃ count final', Steps count (inList cs) final' ∧ count ≤ cs.length + 2 ∧
      Alike 12 0 listSlots ']' [] [] final final' := by
  have closes : IsClosing ']' := .inl rfl
  have single : final.cursor.rest.length = 1 := congrArg List.length rest
  obtain ⟨count, last, last', steps, alike, started, next, isFlow, -, -, counted⟩ :=
    toNodeEnd_alike closes (Nat.zero_le _) (Nat.zero_le _) (alike_inList cs) (fun _ => rfl) known
      single
  obtain ⟨final', next', alike_final⟩ :=
    alike.next closes started next isFlow (single ▸ Nat.one_pos) (outermost ▸ Nat.one_pos)
  refine ⟨_, final', steps.trans (.next next' (.done _)), ?_, alike_final⟩
  have short : (betweenBrackets cs).cursor.rest.length = cs.length + 1 := List.length_append
  omega

/-- The tokens of a node between brackets are of flow notation. -/
theorem isFlow_of_toNodeEnd {cs : List Char}
    (known : toNodeEnd fuel (betweenBrackets cs) = .ok final) (outermost : final.flowDepth = 1)
    (rest : final.cursor.rest = [']']) : ∀ token ∈ final.tokens, token.isFlow = true := by
  obtain ⟨_, _, -, -, alike⟩ := toNodeEnd_inList known outermost rest
  intro token member
  obtain ⟨slot, read, place⟩ := List.mem_flatMap.mp member
  obtain ⟨isFlow, keys⟩ := alike.isFlow slot (List.mem_reverse.mp read)
  rcases List.mem_append.mp place with before | last
  · rw [keys token before]
    rfl
  · rw [List.mem_singleton.mp last]
    exact isFlow

/-- The tokens of a text that lists one protocol, from those that the node has between brackets. -/
theorem ofText_listing {text : String} (allowed : text.toList.all isAllowed = true)
    (known : toNodeEnd fuel (betweenBrackets text.toList) = .ok final)
    (outermost : final.flowDepth = 1) (rest : final.cursor.rest = [']']) :
    Token.ofText ("protocols: [" ++ text ++ "]") =
      .ok ([.blockMappingStart, .key, .scalar .plain "protocols".toList, .value,
        .flowSequenceStart] ++ final.tokens ++ [.flowSequenceEnd, .blockEnd]) := by
  have chars : ("protocols: [" ++ text ++ "]").toList =
      ['p', 'r', 'o', 't', 'o', 'c', 'o', 'l', 's', ':', ' ', '['] ++ (text.toList ++ [']']) := by
    rw [String.toList_append, String.toList_append, List.append_assoc]
    rfl
  obtain ⟨count, final', steps, counted, alike⟩ := toNodeEnd_inList known outermost rest
  obtain ⟨last, bracket, ended⟩ := alike.next_bracket outermost rest
  have all_steps := ((steps_inList text.toList).trans steps).trans (.next bracket (.done _))
  rw [ofText_of_steps chars ?_ all_steps ?_ ended]
  · simp [tokens, listSlots]
  · simp [allowed]
    decide
  · rw [List.length_append, List.length_append]
    change _ ≤ 12 + (_ + 1)
    omega

/-! ## The value of a key -/

/-- Two lexers go to alike tokens. The first is in one flow collection, and the other after the
colon of a key of a block mapping. -/
structure AtValue (shift : Nat) (base : List Slot) (close : Char) (after after' : List Char)
    (lexer lexer' : Lexer) : Prop extends Beside shift base close after after' lexer lexer' where
  /-- The first is in one flow collection. -/
  flowDepth : lexer.flowDepth = 1
  /-- The other is in none. -/
  flowDepth' : lexer'.flowDepth = 0
  /-- Nothing may turn out to be a key. -/
  keys' : lexer'.keys = [none]
  /-- No key may start in the line. -/
  keyAllowed' : lexer'.keyAllowed = false

/-- Blanks in a line are skipped. -/
theorem skipSeparators_of_goesOn (tabs : (lexer.inFlow || !lexer.keyAllowed) = true)
    (onwards : lexer.goesOn = true) : skipSeparators (fuel + 1) lexer =
      { lexer with cursor := lexer.cursor.skipWhile isBlank } := by
  unfold goesOn at onwards
  dsimp only at onwards
  simp only [Bool.and_eq_true, Bool.not_eq_true'] at onwards
  obtain ⟨⟨blank, inLine⟩, uncommented⟩ := onwards
  have unmarked : ¬(lexer.cursor.column == 0 && lexer.cursor.isAt '\ufeff') = true := by
    rw [Bool.and_eq_true_iff, Cursor.isAt, beq_iff_eq, beq_iff_eq]
    rintro ⟨-, mark⟩
    rw [mark] at blank
    cases blank
  have line : lexer.cursor.skipLine = lexer.cursor.skipWhile isBlank := by
    rw [Cursor.skipLine, Cursor.skipMark, if_neg unmarked, Cursor.skipComment]
    change (if (lexer.cursor.skipWhile isBlank).isAt '#' then _ else _) = _
    rw [uncommented]
    rfl
  rw [skipSeparators_succ tabs, line, inLine]
  rfl

/-- After blanks in a line of a block mapping the lexer is at the next token. -/
theorem ready_of_goesOn (indents : lexer.indents = [0]) (keys : lexer.keys = [none])
    (keyAllowed : lexer.keyAllowed = false) (goesOn : lexer.goesOn = true) :
    lexer.ready = .ok { lexer with cursor := lexer.cursor.skipWhile isBlank } := by
  have tabs : (lexer.inFlow || !lexer.keyAllowed) = true := by
    rw [keyAllowed]
    exact Bool.or_true _
  let next : Lexer := { lexer with cursor := lexer.cursor.skipWhile isBlank }
  have unkeyed : next.dropStale = .ok next := dropStale_of_unkeyed keys
  have open_blocks : ∀ column, next.closeBlocks (some column) = next :=
    closeBlocks_of_indents indents
  rw [ready, skipSeparators_of_goesOn tabs goesOn, unkeyed]
  exact congrArg Except.ok (open_blocks _)

/-- After blanks in a line of a flow collection the lexer is at the next token. -/
theorem ready_eq_ok_of_goesOn (inFlow : lexer.inFlow = true) (onwards : lexer.goesOn = true)
    (known : lexer.ready = .ok lexer₁) :
    ∃ keys, lexer₁ = { lexer with cursor := lexer.cursor.skipWhile isBlank, keys } := by
  have tabs : (lexer.inFlow || !lexer.keyAllowed) = true := by
    rw [inFlow]
    rfl
  rw [ready_of_inFlow inFlow, skipSeparators_of_goesOn tabs onwards] at known
  obtain ⟨keys, -, rfl⟩ := dropStale_eq_ok_iff.mp known
  exact ⟨keys, rfl⟩

namespace AtValue

/-- What the token of a collection or a tag starts with is the same in both. -/
theorem start (closes : IsClosing close)
    (atValue : AtValue shift base close after after' lexer lexer') {c : Char}
    {rest : List Char} (rest' : List Char) (marks : c = '[' ∨ c = '\x7b' ∨ c = '!') :
    lexer'.start c rest' = lexer.start c rest := by
  obtain ⟨starts, ends⟩ := atValue.cursor.atMarker_document closes
  unfold Lexer.start
  rw [starts, ends]
  rcases marks with rfl | rfl | rfl <;> rfl

/-- No value is remembered as a key. -/
theorem saveKey (atValue : AtValue shift base close after after' lexer lexer') :
    lexer'.saveKey = .ok lexer' := by
  rw [Lexer.saveKey, atValue.keyAllowed']
  rfl

/-- Both open a flow collection, and are inside it. -/
theorem flowStart (atValue : AtValue shift base close after after' lexer lexer') {token : Token}
    (known : lexer.flowStart token = .ok lexer₁) (isFlow : token.isFlow = true)
    (within : after.length < lexer₁.cursor.rest.length) :
    ∃ lexer₁', lexer'.flowStart token = .ok lexer₁' ∧
      Alike shift 1 base close after after' lexer₁ lexer₁' := by
  obtain ⟨lexer₂, saved, answer⟩ := Reading.bind_eq_ok_iff.mp known
  obtain ⟨keys, rfl⟩ := saveKey_eq_ok saved
  cases answer
  refine ⟨_, Reading.bind_eq_ok_iff.mpr ⟨lexer', atValue.saveKey, rfl⟩, ?_⟩
  have inside : Alike shift 1 base close after after'
      { lexer with
        flowDepth := lexer.flowDepth + 1
        keys := none :: keys
        keyAllowed := true }
      { lexer' with
        flowDepth := lexer'.flowDepth + 1
        keys := none :: lexer'.keys
        keyAllowed := true } :=
    ⟨{ atValue.toBeside with }, rfl, [none], [none], keys, rfl, congrArg _ atValue.keys',
      .cons .neither .nil, nofun, congrArg (· + 1) atValue.flowDepth,
      congrArg (· + 1) atValue.flowDepth'⟩
  exact (inside.place (inside.cursor.advance within) true).emit isFlow

/-- Both read a tag that blanks follow, and go to what it belongs to. -/
theorem tag (closes : IsClosing close)
    (atValue : AtValue shift base close after after' lexer lexer') {ready : Lexer}
    (known : lexer.tag = .ok lexer₁) (onwards : lexer₁.goesOn = true)
    (readies : lexer₁.ready = .ok ready) (within : after.length < ready.cursor.rest.length) :
    ∃ lexer₁' ready', lexer'.tag = .ok lexer₁' ∧ lexer₁'.ready = .ok ready' ∧
      AtValue shift base close after after' ready ready' := by
  obtain ⟨lexer₂, saved, known⟩ := Reading.bind_eq_ok_iff.mp known
  obtain ⟨keys, rfl⟩ := saveKey_eq_ok saved
  obtain ⟨⟨token, next⟩, read, answer⟩ := Reading.bind_eq_ok_iff.mp known
  dsimp only at answer
  split at answer
  · cases answer
  cases answer
  have inFlow : lexer.inFlow = true := by
    rw [inFlow, atValue.flowDepth]
    rfl
  obtain ⟨kept, rfl⟩ := ready_eq_ok_of_goesOn (by exact inFlow) onwards readies
  change after.length < (next.skipWhile isBlank).rest.length at within
  have within_read := Nat.lt_of_lt_of_le within (Cursor.skipWhile_suffix next isBlank).length_le
  obtain ⟨next', read', places⟩ := Tag.read_alike closes atValue.cursor read within_read
  have ready_places := places.skipWhile within
  let here' : Lexer := { lexer' with cursor := next', keyAllowed := false }.emit token
  have onwards' : here'.goesOn = true := by
    change (next'.peek.any isBlank && !(next'.skipWhile isBlank).atBreak &&
      !(next'.skipWhile isBlank).isAt '#') = true
    rw [places.peek, ready_places.atBreak, ready_places.isAt]
    exact onwards
  have gap : startsGap next'.rest = true :=
    startsGap_of_blank (Bool.and_eq_true_iff.mp (Bool.and_eq_true_iff.mp onwards').1).1
  have tagged : lexer'.tag = .ok here' := by
    refine Reading.bind_eq_ok_iff.mpr
      ⟨lexer', atValue.saveKey, Reading.bind_eq_ok_iff.mpr ⟨_, read', ?_⟩⟩
    dsimp only
    rw [gap]
    rfl
  have isFlow : token.isFlow = true := by
    obtain ⟨handle, suffix, rfl⟩ := Tag.read_eq_tag read
    rfl
  exact ⟨here', _, tagged, ready_of_goesOn atValue.indents' atValue.keys' rfl onwards',
    { cursor := ready_places
      indents := atValue.indents
      indents' := atValue.indents'
      slots := congrArg _ atValue.slots
      count := congrArg (· + 1) atValue.count
      count' := congrArg (· + 1) atValue.count'
      isFlow := List.forall_mem_cons.mpr ⟨⟨isFlow, List.forall_mem_nil _⟩, atValue.isFlow⟩ },
    atValue.flowDepth, atValue.flowDepth', atValue.keys', rfl⟩

/-- Both read the opening mark of a collection. -/
theorem token_opens (closes : IsClosing close)
    (atValue : AtValue shift base close after after' lexer lexer') {c : Char} {rest : List Char}
    (rest' : List Char) {token : Token} (isFlow : token.isFlow = true)
    (kind : lexer.start c rest = .sequenceStart ∧ token = .flowSequenceStart ∨
      lexer.start c rest = .mappingStart ∧ token = .flowMappingStart)
    (reads : lexer.flowStart token = .ok lexer₁) {ready : Lexer}
    (readies : lexer₁.ready = .ok ready) (within : after.length < ready.cursor.rest.length) :
    ∃ lexer₁', lexer'.token c rest' = .ok lexer₁' ∧
      Alike shift 1 base close after after' lexer₁ lexer₁' := by
  have depth : lexer₁.flowDepth = 2 := by
    obtain ⟨_, saved, answer⟩ := Reading.bind_eq_ok_iff.mp reads
    obtain ⟨keys, rfl⟩ := saveKey_eq_ok saved
    cases answer
    exact congrArg (· + 1) atValue.flowDepth
  have inFlow₁ : lexer₁.inFlow = true := by
    rw [Lexer.inFlow, depth]
    rfl
  have shorter := (readies_of_ready inFlow₁ readies).suffix.length_le
  obtain ⟨lexer₁', opens, alike⟩ :=
    atValue.flowStart reads isFlow (Nat.lt_of_lt_of_le within shorter)
  refine ⟨lexer₁', ?_, alike⟩
  rcases kind with ⟨kind, rfl⟩ | ⟨kind, rfl⟩
  · have mark : c = '[' := eq_of_start (congrArg Start.mark? kind)
    rw [token_eq, atValue.start closes rest' (.inl mark), kind]
    exact opens
  · have mark : c = '\x7b' := eq_of_start (congrArg Start.mark? kind)
    rw [token_eq, atValue.start closes rest' (.inr (.inl mark)), kind]
    exact opens

/-- Both read the first token of a collection or a tag before it. -/
theorem next (closes : IsClosing close) {ready ready' : Lexer}
    (atValue : AtValue shift base close after after' ready ready')
    (readies : lexer.ready = .ok ready) (readies' : lexer'.ready = .ok ready')
    (known : lexer.next = .ok lexer₁) (isFlow : lexer₁.newest Token.isFlow = true)
    (inside : 1 < lexer₁.flowDepth ∨ lexer₁.newest Token.isTag = true ∧ lexer₁.goesOn = true)
    {ready₁ : Lexer} (readies₁ : lexer₁.ready = .ok ready₁)
    (within : after.length < ready₁.cursor.rest.length) :
    ∃ lexer₁', lexer'.next = .ok lexer₁' ∧
      (Alike shift 1 base close after after' lexer₁ lexer₁' ∨
        ∃ ready₁', lexer₁'.ready = .ok ready₁' ∧
          AtValue shift base close after after' ready₁ ready₁') := by
  have level := atValue.flowDepth
  have inFlow : ready.inFlow = true := by
    rw [inFlow, level]
    rfl
  obtain ⟨_, c, rest, same, place, reads⟩ := next_eq_ok_iff.mp known
  obtain rfl := Except.ok.inj (readies.symm.trans same)
  obtain ⟨rest', place'⟩ := atValue.cursor.rest_eq_cons place
  have reads' : ∀ {lexer₁'}, ready'.token c rest' = .ok lexer₁' → lexer'.next = .ok lexer₁' :=
    fun reads' => next_eq_ok_iff.mpr ⟨ready', c, rest', readies', place', reads'⟩
  rw [token_eq] at reads
  have deeper : ready.flowDepth < lexer₁.flowDepth ∨ lexer₁.newest Token.isTag = true :=
    inside.imp (fun deeper => level ▸ deeper) And.left
  rcases start_of_deeper inFlow reads isFlow deeper with kind | kind | kind
  · rw [kind] at reads
    obtain ⟨lexer₁', opens, alike⟩ :=
      atValue.token_opens closes rest' rfl (.inl ⟨kind, rfl⟩) reads readies₁ within
    exact ⟨lexer₁', reads' opens, .inl alike⟩
  · rw [kind] at reads
    obtain ⟨lexer₁', opens, alike⟩ :=
      atValue.token_opens closes rest' rfl (.inr ⟨kind, rfl⟩) reads readies₁ within
    exact ⟨lexer₁', reads' opens, .inl alike⟩
  · rw [kind] at reads
    have onwards : lexer₁.goesOn = true := by
      rcases inside with deeper | ⟨-, onwards⟩
      · have stays := flowDepth_of_tag reads
        omega
      · exact onwards
    obtain ⟨lexer₁', ready₁', tagged, readies₁', atValue₁⟩ :=
      atValue.tag closes reads onwards readies₁ within
    have mark : c = '!' := eq_of_start (congrArg Start.mark? kind)
    refine ⟨lexer₁', reads' ?_, .inr ⟨ready₁', readies₁', atValue₁⟩⟩
    rw [token_eq, atValue.start closes rest' (.inr (.inr mark)), kind]
    exact tagged

end AtValue

/-- The tokens of a collection are read in as many steps as the value of a key, up to the last
closing mark. -/
theorem toNodeEnd_atValue (closes : IsClosing close) (short : after.length ≤ 1)
    {ready ready' : Lexer} (inFlow : lexer.inFlow = true) (readies : lexer.ready = .ok ready)
    (readies' : lexer'.ready = .ok ready')
    (atValue : AtValue shift base close after after' ready ready')
    (known : toNodeEnd fuel lexer = .ok final) (outermost : final.flowDepth = 1)
    (single : final.cursor.rest.length = 1) (closed : final.newest Token.isClosing = true) :
    ∃ count last last', Steps count lexer' last' ∧
      Alike shift 1 base close after after' last last' ∧ last.next = .ok final ∧
      final.newest Token.isFlow = true ∧
      count + last.cursor.rest.length ≤ ready.cursor.rest.length := by
  induction fuel generalizing lexer lexer' ready ready' with
  | zero => cases known
  | succ fuel ih =>
    obtain ⟨lexer₁, next, isFlow, onwards⟩ := toNodeEnd_eq_ok known
    have level := atValue.flowDepth
    rcases onwards with ⟨inside, known⟩ | ⟨-, -, rfl⟩
    · obtain ⟨_, same, -, -, strictly, -⟩ := next_progress inFlow next isFlow
      obtain rfl := Except.ok.inj (readies.symm.trans same)
      have shorter := strictly (.inl atValue.cursor.left)
      have inFlow₁ := inFlow_of_inside inFlow next isFlow inside
      obtain ⟨ready₁, readies₁, shorter₁, room⟩ := length_toNodeEnd_lt inFlow₁ known
      have less := shorter₁.suffix.length_le
      have within : after.length < ready₁.cursor.rest.length :=
        Nat.lt_of_le_of_lt (single ▸ short) room
      -- Behind an opening mark both are in one collection; behind a tag the node is still to come.
      obtain ⟨lexer₁', next', inner | ⟨ready₁', readies₁', atValue₁⟩⟩ :=
        atValue.next closes readies readies' next isFlow inside readies₁ within
      · obtain ⟨count, last, last', steps, alike, -, last_next, last_flow, -, -, counted⟩ :=
          toNodeEnd_alike closes short (Nat.le_refl 1) inner (started_of_newest isFlow) known single
        exact ⟨count + 1, last, last', .next next' steps, alike, last_next, last_flow, by omega⟩
      · obtain ⟨count, last, last', steps, alike, last_next, last_flow, counted⟩ :=
          ih inFlow₁ readies₁ readies₁' atValue₁ known
        exact ⟨count + 1, last, last', .next next' steps, alike, last_next, last_flow, by omega⟩
    · obtain ⟨_, c, rest, same, place, reads⟩ := next_eq_ok_iff.mp next
      obtain rfl := Except.ok.inj (readies.symm.trans same)
      have readyInFlow : ready.inFlow = true := decide_eq_true (by omega)
      rcases token_progress readyInFlow place reads isFlow with progress | ⟨token, -, ends⟩
      · exact absurd (closed.symm.trans progress.notClosing) nofun
      · have depth := (flowEnd_eq_ok ends).2.1
        omega

/-- The tokens before the value of a protocol, last first. -/
def valueSlots : List Slot :=
  [{ token := .value },
    { before := [.blockMappingStart, .key]
      token := .scalar .plain ['p', 'r', 'o', 't', 'o', 'c', 'o', 'l'] }]

/-- The place after the colon before a protocol. -/
def inValue (cs : List Char) : Lexer where
  cursor := { rest := ' ' :: cs, offset := 9, column := 9 }
  indents := [0]
  keyAllowed := false
  slots := valueSlots

/-- The colon before a protocol is passed in two steps. -/
theorem steps_inValue (cs : List Char) :
    Steps 2 { cursor := { rest := ['p', 'r', 'o', 't', 'o', 'c', 'o', 'l', ':', ' '] ++ cs } }
      (inValue cs) := by
  let start : Lexer :=
    { cursor := { rest := ['p', 'r', 'o', 't', 'o', 'c', 'o', 'l', ':', ' '] ++ cs } }
  let key : Lexer :=
    { cursor := { rest := ':' :: ' ' :: cs, offset := 8, column := 8 }
      keyAllowed := false
      keys := [some ⟨false, 0, start.cursor⟩]
      slots := [{ token := .scalar .plain ['p', 'r', 'o', 't', 'o', 'c', 'o', 'l'] }] }
  have first : start.next = .ok key := by
    have readies : start.ready = .ok start := rfl
    have reads : start.plain = .ok key := rfl
    exact next_eq_ok_iff.mpr ⟨start, _, _, readies, rfl, reads⟩
  have second : key.next = .ok (inValue cs) := by
    have readies : key.ready = .ok key := rfl
    have reads : key.value = .ok (inValue cs) := rfl
    exact next_eq_ok_iff.mpr ⟨key, _, _, readies, rfl, reads⟩
  exact .next first (.next second (.done _))

/-- What a text in flow notation starts with: no blank, no break and no comment. -/
def Opens (cs : List Char) : Prop := ∃ c more, cs = c :: more ∧ isGap c = false ∧ c ≠ '#'

/-- Between brackets a text starts with a token. -/
theorem ready_betweenBrackets {cs : List Char} (opens : Opens cs) :
    (betweenBrackets cs).ready = .ok (betweenBrackets cs) := by
  obtain ⟨c, more, rfl, notGap, uncommented⟩ := opens
  have atToken : AtToken (betweenBrackets (c :: more)).cursor := by
    rintro _ ⟨⟩
    exact ⟨notGap, uncommented, fun _ => Nat.one_ne_zero⟩
  rw [ready_of_inFlow rfl, skipSeparators_of_atToken atToken]
  exact dropStale_eq_ok_iff.mpr ⟨[none, none], .cons rfl (.cons rfl .nil), rfl⟩

/-- After the colon the text starts with a token after a blank. -/
theorem ready_inValue {cs : List Char} (opens : Opens cs) :
    (inValue cs).ready = .ok ((inValue cs).skip 1) := by
  obtain ⟨c, more, rfl, notGap, uncommented⟩ := opens
  rw [isGap, Bool.or_eq_false_iff] at notGap
  have blank : (inValue (c :: more)).cursor.skipWhile isBlank =
      (inValue (c :: more)).cursor.advance 1 := by
    have one_taken : (' ' :: c :: more).takeWhile isBlank = [' '] := by
      rw [List.takeWhile_cons_of_pos rfl, List.takeWhile_cons_of_neg (by simp [notGap.1])]
    exact congrArg (fun taken => Cursor.advance _ (List.length taken)) one_taken
  have onwards : (inValue (c :: more)).goesOn = true := by
    rw [goesOn, blank]
    have inLine : ((inValue (c :: more)).cursor.advance 1).atBreak = isBreak c := rfl
    have mark : ((inValue (c :: more)).cursor.advance 1).isAt '#' = (c == '#') := rfl
    rw [inLine, mark, notGap.2, beq_eq_false_iff_ne.mpr uncommented]
    rfl
  rw [ready_of_goesOn rfl rfl rfl onwards, blank]
  rfl

/-- The place between brackets and the place after the colon are alike. -/
theorem atValue_inValue (body : List Char) (close : Char) :
    AtValue 10 valueSlots close [']'] [] (betweenBrackets (body ++ [close]))
      ((inValue (body ++ [close])).skip 1) where
  cursor := ⟨⟨body, List.append_assoc _ _ _, rfl⟩, rfl, rfl, rfl,
    .inr ⟨Nat.one_pos, Nat.succ_pos _⟩, rfl⟩
  indents := rfl
  indents' := rfl
  slots := rfl
  count := rfl
  count' := rfl
  isFlow := nofun
  flowDepth := rfl
  flowDepth' := rfl
  keys' := rfl
  keyAllowed' := rfl

/-- The tokens of a text that declares one protocol, from those that the node has between
brackets. -/
theorem ofText_declaring {text : String} (allowed : text.toList.all isAllowed = true)
    (opens : Opens text.toList)
    (known : toNodeEnd fuel (betweenBrackets text.toList) = .ok final)
    (outermost : final.flowDepth = 1) (rest : final.cursor.rest = [']'])
    (closed : final.newest Token.isClosing = true) :
    Token.ofText ("protocol: " ++ text) =
      .ok ([.blockMappingStart, .key, .scalar .plain "protocol".toList, .value] ++
        final.tokens ++ [.blockEnd]) := by
  have single : final.cursor.rest.length = 1 := congrArg List.length rest
  have chars : ("protocol: " ++ text).toList =
      ['p', 'r', 'o', 't', 'o', 'c', 'o', 'l', ':', ' '] ++ text.toList := by
    rw [String.toList_append]
    rfl
  obtain ⟨close, closes, ends⟩ := closing_of_toNodeEnd rfl known closed
  obtain ⟨body, body_eq⟩ : ∃ body, text.toList = body ++ [close] := by
    rw [rest] at ends
    obtain ⟨body, split⟩ := ends
    refine ⟨body, (List.append_left_inj [']']).mp ?_⟩
    rw [List.append_assoc]
    exact split.symm
  have atValue := atValue_inValue body close
  rw [← body_eq] at atValue
  obtain ⟨count, last, last', steps, alike, next, isFlow, counted⟩ :=
    toNodeEnd_atValue closes (by exact Nat.le_refl 1) rfl (ready_betweenBrackets opens)
      (ready_inValue opens) atValue known outermost single closed
  obtain ⟨final', next', ended⟩ := alike.next_closes closes next isFlow outermost single
  have all_steps := ((steps_inValue text.toList).trans steps).trans (.next next' (.done _))
  have short : (betweenBrackets text.toList).cursor.rest.length = text.toList.length + 1 :=
    List.length_append
  rw [ofText_of_steps chars ?_ all_steps ?_ ended]
  · simp [tokens, valueSlots]
  · simp [allowed]
    decide
  · rw [List.length_append]
    change _ ≤ 10 + _
    omega

end Covenant.Yaml.Lexer
