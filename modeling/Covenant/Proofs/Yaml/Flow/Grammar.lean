import Covenant.Proofs.Yaml.Flow.Tokens
import Covenant.Proofs.Yaml.Values

/-!
# Nodes from tokens of flow notation

Inside a flow collection the grammar looks at no more than one token after the node that it reads,
and at none after a collection. So a node that is read from some tokens is read from them in another
place, too, whatever follows a collection, and if the same token follows a scalar.
-/
namespace Covenant.Yaml

/-- A collection. -/
def Node.isCollection : Node → Bool
  | sequence _ _ | mapping _ _ => true
  | _ => false

namespace Parser

variable {α β : Type} {head : Option Token} {token : Token} {closed closed₁ : α → Prop}
  {good good₁ : α → Prop} {closed₂ good₂ : β → Prop} {p p' : Parser α} {q q' : Parser β}
  {f f' : α → Parser β} {fuel fuel' : Nat} {place place' : Place}

/-- What one reader reads from tokens of flow notation that start with a given one, another one
reads from the same tokens with others after them. The token after them is the same, unless the
result says that a closing mark was read last. -/
def ReadsAt (head : Option Token) (closed good : α → Prop) (p p' : Parser α) : Prop :=
  ∀ tokens, tokens.head? = head → (∀ token ∈ tokens, token.isFlow = true) →
    ∀ result parse, p.run { tokens } = .ok (result, parse) →
      good result ∧ ∃ used left, tokens = used ++ left ∧ parse = { tokens := left } ∧
        (closed result → used.getLast?.any Token.isClosing = true) ∧
        ∀ others, (closed result ∨ others.head? = left.head?) →
          p'.run { tokens := used ++ others } = .ok (result, { tokens := others })

/-- What one reader reads from tokens of flow notation another one reads. -/
def Reads (closed good : α → Prop) (p p' : Parser α) : Prop :=
  ∀ head, ReadsAt head closed good p p'

namespace ReadsAt

/-- A reader that fails reads nothing. -/
theorem throw (error : Error) : ReadsAt head closed good (throw error) p' :=
  fun _ _ _ _ _ answer => nomatch answer

/-- No token of flow notation starts a node of another kind. -/
theorem of_foreign (foreign : token.isFlow = false) : ReadsAt (some token) closed good p p' := by
  intro tokens starts isFlow
  obtain ⟨others, rfl⟩ := List.head?_eq_some_iff.mp starts
  exact absurd ((isFlow token List.mem_cons_self).symm.trans foreign) nofun

/-- What needs no token is read where nothing says that one was read. -/
theorem pure {result : α} (holds : good result) (isOpen : ¬closed result) :
    ReadsAt head closed good (pure result) (pure result) := by
  rintro tokens - - _ _ ⟨⟩
  refine ⟨holds, [], tokens, rfl, rfl, fun closes => absurd closes isOpen, fun _ _ => rfl⟩

/-- What is read after the next token is read with it. -/
theorem skip (others : Reads closed good p p') :
    ReadsAt (some token) closed good (Parser.skip >>= fun _ => p)
      (Parser.skip >>= fun _ => p') := by
  intro tokens starts isFlow result parse answer
  obtain ⟨rest, rfl⟩ := List.head?_eq_some_iff.mp starts
  obtain ⟨holds, used, left, split, rfl, closes, again⟩ := others rest.head? rest rfl
    (fun token member => isFlow token (List.mem_cons_of_mem _ member)) result parse answer
  refine ⟨holds, token :: used, left, congrArg _ split, rfl, fun isClosed => ?_, again⟩
  have last := closes isClosed
  cases used with
  | nil => cases last
  | cons first more => exact last

/-- It may be said of fewer results that a closing mark was read last. -/
theorem weaken {closed' : α → Prop} (reads : ReadsAt head closed good p p')
    (closes : ∀ result, closed' result → closed result) : ReadsAt head closed' good p p' := by
  intro tokens starts isFlow result parse answer
  obtain ⟨holds, used, left, split, rest, ends, again⟩ :=
    reads tokens starts isFlow result parse answer
  exact ⟨holds, used, left, split, rest, ends ∘ closes _,
    fun others fits => again others (fits.imp_left (closes _))⟩

/-- A closing mark is read before a result. -/
theorem close {result : α} (holds : good result) (mark : token.isClosing = true) :
    ReadsAt (some token) closed good (Parser.skip >>= fun _ => Pure.pure result)
      (Parser.skip >>= fun _ => Pure.pure result) := by
  intro tokens starts isFlow result parse answer
  obtain ⟨rest, rfl⟩ := List.head?_eq_some_iff.mp starts
  cases answer
  exact ⟨holds, [token], rest, rfl, rfl, fun _ => mark, fun _ _ => rfl⟩

/-- What is read later depends on what is read first. -/
theorem bind (first : ReadsAt head closed₁ good₁ p p')
    (next : ∀ result, good₁ result → Reads closed₂ good₂ (f result) (f' result)) :
    ReadsAt head closed₂ good₂ (p >>= f) (p' >>= f') := by
  intro tokens starts isFlow result parse answer
  obtain ⟨⟨found, between⟩, reads, answer⟩ := Reading.bind_eq_ok_iff.mp answer
  obtain ⟨holds, used, left, rfl, rfl, closes, again⟩ :=
    first tokens starts isFlow found between reads
  obtain ⟨holds', used', left', rfl, rfl, closes', again'⟩ := next found holds left.head? left rfl
    (fun token member => isFlow token (List.mem_append_right _ member)) result parse answer
  refine ⟨holds', used ++ used', left', (List.append_assoc _ _ _).symm, rfl, ?_, ?_⟩
  · intro isClosed
    have last := closes' isClosed
    obtain ⟨mark, ends, closing⟩ := (Option.any_eq_true _ _).mp last
    rw [List.getLast?_append, ends]
    exact closing
  · intro others fits
    have fits' : (used' ++ others).head? = (used' ++ left').head? := by
      cases used' with
      | nil => exact fits.resolve_left fun isClosed => nomatch closes' isClosed
      | cons first more => rfl
    rw [List.append_assoc]
    exact Reading.bind_eq_ok_iff.mpr ⟨_, again _ (.inr fits'), again' others fits⟩

/-- What is read may depend on what is known of a document before its first token. -/
theorem get {f f' : Parse → Parser α}
    (each : ∀ tokens tokens', ReadsAt head closed good (f { tokens }) (f' { tokens := tokens' })) :
    ReadsAt head closed good (MonadState.get >>= f) (MonadState.get >>= f') := by
  intro tokens starts isFlow result parse answer
  have reads := fun tokens' => each tokens tokens' tokens starts isFlow result parse answer
  obtain ⟨holds, used, left, split, rfl, closes, -⟩ := reads tokens
  refine ⟨holds, used, left, split, rfl, closes, fun others fits => ?_⟩
  obtain ⟨-, used', left', split', same, -, again⟩ := reads (used ++ others)
  obtain rfl : left = left' := congrArg Parse.tokens same
  obtain rfl : used' = used := List.append_cancel_right (split'.symm.trans split)
  exact again others fits

/-- What a result says is changed with it. -/
theorem map {g : α → β} (reads : ReadsAt head closed good p p')
    (closes : ∀ result, closed₂ (g result) → closed result)
    (holds : ∀ result, good result → good₂ (g result)) :
    ReadsAt head closed₂ good₂ (p >>= fun result => Pure.pure (g result))
      (p' >>= fun result => Pure.pure (g result)) := by
  intro tokens starts isFlow result parse answer
  obtain ⟨⟨found, between⟩, answer, ends⟩ := Reading.bind_eq_ok_iff.mp answer
  cases ends
  obtain ⟨found_good, used, left, split, rest, found_closed, again⟩ :=
    reads tokens starts isFlow found parse answer
  refine ⟨holds _ found_good, used, left, split, rest, found_closed ∘ closes _, ?_⟩
  intro others fits
  exact Reading.bind_eq_ok_iff.mpr ⟨_, again others (fits.imp_left (closes _)), rfl⟩

end ReadsAt

namespace Reads

/-- The next token decides what is read. -/
theorem peek {f f' : Option Token → Parser α}
    (each : ∀ head, ReadsAt head closed good (f head) (f' head)) :
    Reads closed good (Parser.peek >>= f) (Parser.peek >>= f') := by
  intro head tokens starts isFlow result parse answer
  obtain ⟨holds, used, left, rfl, rest, closes, again⟩ :=
    each head tokens starts isFlow result parse (starts ▸ answer)
  refine ⟨holds, used, left, rfl, rest, closes, fun others fits => ?_⟩
  have starts' : (used ++ others).head? = head := by
    rw [← starts]
    cases used with
    | nil => exact fits.resolve_left fun isClosed => nomatch closes isClosed
    | cons first more => rfl
  exact (congrArg (fun next => (f' next).run _) starts').trans (again others fits)

end Reads

/-! ## The grammar -/

/-- There is no anchor. -/
theorem reads_anchor : Reads (fun _ => False) (· = none) anchor? anchor? := by
  refine .peek fun head => ?_
  split
  · exact .of_foreign rfl
  · exact .pure rfl id

/-- A tag means the same before other tokens. -/
theorem reads_resolveTag (handle : List Char) (suffix : TagBytes) :
    Reads (fun _ => False) (fun _ => True) (resolveTag handle suffix)
      (resolveTag handle suffix) := by
  intro head
  unfold resolveTag
  dsimp only
  split
  · exact .pure trivial id
  refine .get fun tokens tokens' => ?_
  -- No handle is declared where only tokens of flow notation are left.
  dsimp only
  cases List.lookup handle ([] ++ defaultHandles) with
  | none => exact .throw _
  | some meaning => exact .pure trivial id

theorem reads_tag : Reads (fun _ => False) (fun _ => True) tag? tag? := by
  refine .peek fun head => ?_
  split
  · refine .skip fun head => ?_
    exact (reads_resolveTag _ _ head).map (fun _ => id) fun _ _ => trivial
  · exact .pure trivial id

theorem reads_properties : Reads (fun _ => False) (·.1 = none) properties properties := by
  intro head
  refine (reads_anchor head).bind ?_
  rintro _ rfl head
  refine (reads_tag head).bind fun tag _ head => ?_
  exact (reads_anchor head).map (fun _ => id) fun _ => id

theorem reads_separator (first : Bool) :
    Reads (fun _ => False) (fun _ => True) (separator first) (separator first) := by
  unfold separator
  cases first with
  | true => exact fun _ => .pure trivial id
  | false =>
    refine .peek fun head => ?_
    split
    · have passes : ReadsAt (some .flowEntry) (fun _ => False) (fun _ => True)
          (skip >>= fun _ => pure ()) (skip >>= fun _ => pure ()) :=
        .skip fun _ => .pure trivial id
      rwa [bind_pure_unit] at passes
    · exact .throw _

theorem readsAt_absent (tag : Option TagBytes) :
    ReadsAt head (·.isCollection = true) Node.SelfContained (absent false tag)
      (absent false tag) := by
  unfold absent
  split
  · exact .pure .scalar nofun
  · exact .throw _

/-- What the grammar reads with some fuel in a flow collection, it reads with other fuel there and
elsewhere. -/
structure FlowReads (fuel fuel' : Nat) : Prop where
  node : ∀ place, Reads (·.isCollection = true) Node.SelfContained (node fuel inFlow)
    (Parser.node fuel' place)
  content : ∀ place tag, Reads (·.isCollection = true) Node.SelfContained
    (content fuel inFlow false tag) (Parser.content fuel' place false tag)
  nodeUnless : ∀ stops, Reads (fun _ => False) Node.SelfContained (nodeUnless fuel stops inFlow)
    (Parser.nodeUnless fuel' stops inFlow)
  pairKey : Reads (fun _ => False) Node.SelfContained (pairKey fuel) (Parser.pairKey fuel')
  flowValue : ∀ stops, Reads (fun _ => False) Node.SelfContained (flowValue fuel stops)
    (Parser.flowValue fuel' stops)
  flowItems : ∀ first, Reads (fun _ => True) (∀ item ∈ ·, item.SelfContained) (flowItems fuel first)
    (Parser.flowItems fuel' first)
  flowEntries : ∀ first, Reads (fun _ => True)
    (∀ entry ∈ ·, entry.1.SelfContained ∧ entry.2.SelfContained) (flowEntries fuel first)
    (Parser.flowEntries fuel' first)

theorem flowReads_zero (fuel' : Nat) : FlowReads 0 fuel' where
  node _ _ := .throw _
  content _ _ _ := .throw _
  nodeUnless _ _ := .throw _
  pairKey _ := .throw _
  flowValue _ _ := .throw _
  flowItems _ _ := .throw _
  flowEntries _ _ := .throw _

theorem reads_content (ih : FlowReads fuel fuel') (place : Place) (tag : Option TagBytes) :
    Reads (·.isCollection = true) Node.SelfContained (content (fuel + 1) inFlow false tag)
    (content (fuel' + 1) place false tag) := by
  unfold content
  refine .peek fun head => ?_
  split
  · exact .of_foreign rfl
  · exact .skip fun _ => .pure .scalar nofun
  · refine .skip fun head => ?_
    exact (ih.flowItems true head).map (fun _ _ => trivial) fun _ => .sequence
  · refine .skip fun head => ?_
    refine (ih.flowEntries true head).map (fun _ _ => trivial) fun _ each => ?_
    exact .mapping (fun entry member => (each entry member).1)
      fun entry member => (each entry member).2
  · exact .of_foreign rfl
  · exact .of_foreign rfl
  · exact readsAt_absent tag

theorem reads_node (ih : FlowReads fuel fuel') (place : Place) :
    Reads (·.isCollection = true) Node.SelfContained (node (fuel + 1) inFlow)
      (node (fuel' + 1) place) := by
  unfold node
  refine .peek fun head => ?_
  split
  · exact .of_foreign rfl
  · refine (reads_properties head).bind ?_
    rintro ⟨_, tag⟩ rfl
    exact ih.content place tag

theorem reads_nodeUnless (ih : FlowReads fuel fuel') (stops : List Token) :
    Reads (fun _ => False) Node.SelfContained (nodeUnless (fuel + 1) stops inFlow)
    (nodeUnless (fuel' + 1) stops inFlow) := by
  unfold nodeUnless
  refine .peek fun head => ?_
  split
  · split
    · exact .pure .scalar id
    · exact (ih.node inFlow _).weaken fun _ => False.elim
  · exact (ih.node inFlow _).weaken fun _ => False.elim

theorem reads_pairKey (ih : FlowReads fuel fuel') :
    Reads (fun _ => False) Node.SelfContained (pairKey (fuel + 1)) (pairKey (fuel' + 1)) := by
  unfold pairKey
  refine .peek fun head => ?_
  split
  · exact .skip fun _ => .pure .scalar id
  · exact .skip fun _ => .pure .scalar id
  · exact .skip fun _ => .pure .scalar id
  · exact (ih.node inFlow _).weaken fun _ => False.elim

theorem reads_flowValue (ih : FlowReads fuel fuel') (stops : List Token) :
    Reads (fun _ => False) Node.SelfContained (flowValue (fuel + 1) stops)
      (flowValue (fuel' + 1) stops) := by
  unfold flowValue
  refine .peek fun head => ?_
  split
  · exact .skip (ih.nodeUnless stops)
  · exact .pure .scalar id

theorem reads_flowItems (ih : FlowReads fuel fuel') (first : Bool) :
    Reads (fun _ => True) (∀ item ∈ ·, item.SelfContained) (flowItems (fuel + 1) first)
      (flowItems (fuel' + 1) first) := by
  have cons : ∀ {item}, Node.SelfContained item →
      Reads (fun _ => True) (∀ item ∈ ·, item.SelfContained)
        (do return item :: (← flowItems fuel false))
        (do return item :: (← flowItems fuel' false)) := by
    intro item contained head
    exact (ih.flowItems false head).map (fun _ => id) fun _ each =>
      List.forall_mem_cons.mpr ⟨contained, each⟩
  unfold flowItems
  refine .peek fun head => ?_
  split
  · rename_i closes
    subst closes
    exact .close nofun rfl
  refine (reads_separator first head).bind fun _ _ => .peek fun head => ?_
  split
  · exact .close nofun rfl
  · refine .skip fun head => (ih.pairKey head).bind fun key keyed head => ?_
    refine (ih.flowValue _ head).bind fun value valued => cons ?_
    exact .mapping (by simpa using keyed) (by simpa using valued)
  · exact (ih.node inFlow head).bind fun item contained => cons contained

theorem reads_flowEntries (ih : FlowReads fuel fuel') (first : Bool) :
    Reads (fun _ => True) (∀ entry ∈ ·, entry.1.SelfContained ∧ entry.2.SelfContained)
      (flowEntries (fuel + 1) first) (flowEntries (fuel' + 1) first) := by
  have cons : ∀ {key value}, Node.SelfContained key → Node.SelfContained value →
      Reads (fun _ => True) (∀ entry ∈ ·, entry.1.SelfContained ∧ entry.2.SelfContained)
        (do return (key, value) :: (← flowEntries fuel false))
        (do return (key, value) :: (← flowEntries fuel' false)) := by
    intro key value keyed valued head
    exact (ih.flowEntries false head).map (fun _ => id) fun _ each =>
      List.forall_mem_cons.mpr ⟨⟨keyed, valued⟩, each⟩
  unfold flowEntries
  refine .peek fun head => ?_
  split
  · rename_i closes
    subst closes
    exact .close nofun rfl
  refine (reads_separator first head).bind fun _ _ => .peek fun head => ?_
  split
  · exact .close nofun rfl
  · refine .skip fun head => (ih.nodeUnless _ head).bind fun key keyed head => ?_
    exact (ih.flowValue _ head).bind fun value valued => cons keyed valued
  · exact (ih.node inFlow head).bind fun key keyed => cons keyed .scalar

theorem flowReads (within : fuel ≤ fuel') : FlowReads fuel fuel' := by
  induction fuel generalizing fuel' with
  | zero => exact flowReads_zero fuel'
  | succ fuel ih =>
    obtain ⟨fuel', rfl⟩ := Nat.exists_eq_add_one_of_ne_zero (Nat.ne_zero_of_lt within)
    have inner := ih (Nat.le_of_succ_le_succ within)
    exact
      { node := reads_node inner
        content := reads_content inner
        nodeUnless := reads_nodeUnless inner
        pairKey := reads_pairKey inner
        flowValue := reads_flowValue inner
        flowItems := reads_flowItems inner
        flowEntries := reads_flowEntries inner }

end Parser

end Covenant.Yaml
