import Covenant.Proofs.Yaml.Values
import Covenant.Yaml.Records

/-!
# Protocols read from nodes and from values

Where no node refers to another, a protocol that is read both from a node and from the value of that
node is one protocol. Whether it is read may depend on the way: a number is a text to the first and
none to the second. A node is clear where that cannot happen: a scalar means a text where one is
wanted, and nothing where a list or a record is wanted exactly if it is left out
(`protocol_agree`).
-/
namespace Covenant.Yaml

namespace Node

/-- A text is what a scalar is written as, whatever it means. -/
def Spells (node : Node) (s : String) : Prop :=
  ∃ tag style, node = scalar tag style s.toList

/-- Where a text is wanted: a scalar means one. -/
def meansText : Node → Bool
  | scalar tag style text =>
    match Document.scalarValue (scalar tag style text).sharedTag style text with
    | .ok (.string _) => true
    | .ok _ => false
    | .error _ => true
  | _ => true

/-- Where a collection is wanted: a scalar means nothing exactly if it is left out. -/
def meansNothingIfEmpty : Node → Bool
  | scalar tag style text =>
    match Document.scalarValue (scalar tag style text).sharedTag style text with
    | .ok .null => style = .plain ∧ text = []
    | .ok _ => ¬(style = .plain ∧ text = [])
    | .error _ => true
  | _ => true

/-- Where a list is wanted, given what is clear for an item. -/
def isClearList (clearItem : Node → Bool) : Node → Bool
  | sequence _ items => items.all clearItem
  | node => node.meansNothingIfEmpty

/-- Where a record is wanted, given what is clear for a field: its keys are texts. -/
def isClearRecord (clearField : String → Node → Bool) : Node → Bool
  | mapping _ entries => entries.all fun entry => entry.1.meansText &&
    match entry.1 with
    | scalar _ _ text => clearField (String.ofList text) entry.2
    | _ => true
  | node => node.meansNothingIfEmpty

/-- Where a variant is wanted, given what is clear for the content: the tag starts with one mark. -/
def isClearVariant (clearContent : String → Node → Bool) (node : Node) : Bool :=
  node.ownTag?.all fun tag => Value.bareTag tag = tag && clearContent tag node.untagged

/-- Where a signature is wanted. -/
def isClearSignature : Node → Bool :=
  isClearRecord fun name => match name with
    | "name" => meansText
    | "params" => isClearList meansText
    | "returns" => isClearVariant fun tag content =>
      tag ≠ ReturnKind.namedVariant || content.meansText
    | _ => fun _ => true

/-- Where a protocol is wanted. -/
def isClearProtocol : Node → Bool :=
  isClearRecord fun name => match name with
    | "name" | "description" => meansText
    | "aliases" => isClearList meansText
    | "origin" => isClearVariant fun _ _ => true
    | "methods" => isClearList isClearSignature
    | _ => fun _ => true

end Node

namespace Document

variable {α : Type} {document other : Document} {clear : Prop} {node : Node} {value : Value}

/-- A node without references and the value that it has, where a clear text writes what is wanted
clearly. -/
structure Paired (other : Document) (clear : Prop) (isClear : Node → Bool) (node : Node)
    (value : Value) : Prop where
  /-- Nothing is referred to. -/
  contained : node.SelfContained
  /-- The value is that of the node. -/
  means : other.Means node value
  /-- It is written clearly. -/
  clearly : clear → isClear node = true

/-- A scalar that means a text means its characters. -/
theorem eq_of_scalarValue_eq_string {tag : Option TagBytes} {style : Style} {text : List Char}
    {s : String} (answer : scalarValue tag style text = .ok (.string s)) :
    s = String.ofList text := by
  unfold scalarValue plainValue integerValue at answer
  repeat' split at answer
  all_goals first
    | cases answer; rfl
    | cases answer

/-- A text is the same in both readings, and it is what the node spells. -/
theorem spelling_agree (paired : Paired other clear Node.meansText node value) :
    Agree clear (fun found given => found = given ∧ node.Spells found) (document.textOf node)
      value.asText := by
  obtain ⟨contained, means, clearly⟩ := paired
  rw [textOf, target, follow_of_selfContained contained, pure_bind]
  cases contained with
  | @scalar tag style text =>
    have answer := means.scalar.2
    simp only [Node.meansText, answer] at clearly
    rw [Value.asText]
    cases content : value.untagged
    case string s =>
      rw [content] at answer
      refine .pure ⟨(eq_of_scalarValue_eq_string answer).symm, tag, style, ?_⟩
      rw [String.toList_ofList]
    all_goals
      rw [content] at clearly
      exact .error_of_unclear fun isClear => nomatch clearly isClear
  | sequence each =>
    obtain ⟨values, -, content, -⟩ := means.sequence (.sequence each)
    rw [Value.asText, content]
    exact .throw
  | mapping keys values =>
    obtain ⟨values, -, content, -⟩ := means.mapping (.mapping keys values)
    rw [Value.asText, content]
    exact .throw

/-- A text is the same in both readings. -/
theorem text_agree (paired : Paired other clear Node.meansText node value) :
    Agree clear Eq (document.textOf node) value.asText :=
  (spelling_agree paired).imp fun _ _ => And.left

/-- Where a collection is wanted, a scalar that is left out gives an empty one to the first reading,
and one that means nothing gives an empty one to the second. -/
theorem empty_agree {α' : Type} {related : List α → List α' → Prop} {tag : Option TagBytes}
    {style : Style} {text : List Char} {reader : Following Fault (List α)}
    {answer : Except Fault (List α')} (wanted : String)
    (means : other.Means (.scalar tag style text) value)
    (clearly : clear → (Node.scalar tag style text).meansNothingIfEmpty = true)
    (nothing : related [] [])
    (reads : reader = if style = .plain ∧ text = [] then pure [] else unlike wanted)
    (answers_null : value.untagged = .null → answer = .ok [])
    (answers_atom : value.untagged.IsAtom → value.untagged ≠ .null →
      answer = Value.unlike wanted) :
    Agree clear related reader answer := by
  have meaning := means.scalar.2
  have atom := isAtom_scalarValue meaning
  simp only [Node.meansNothingIfEmpty, meaning] at clearly
  subst reads
  by_cases null : value.untagged = .null
  · rw [null] at clearly
    rw [answers_null null]
    split
    · exact .pure nothing
    · exact .throw_of_unclear fun isClear => absurd (of_decide_eq_true (clearly isClear)) ‹_›
  · rw [answers_atom atom null]
    split
    · refine .error_of_unclear fun isClear => ?_
      have present := clearly isClear
      split at present
      · exact null (Except.ok.inj ‹_›)
      · exact absurd ‹_› (of_decide_eq_true present)
      · contradiction
    · exact .throw

/-- A list has the same items in both readings. -/
theorem items_agree {isClear : Node → Bool}
    (paired : Paired other clear (Node.isClearList isClear) node value) :
    Agree clear (List.Forall₂ (Paired other clear isClear)) (document.itemsOf node)
      value.asItems := by
  obtain ⟨contained, means, clearly⟩ := paired
  rw [itemsOf, target, follow_of_selfContained contained, pure_bind, Value.asItems]
  cases contained with
  | @scalar tag style text =>
    refine empty_agree "a sequence" means clearly .nil ?_ ?_ ?_
    · cases style <;> cases text <;> rfl
    · intro null
      rw [null]
    · intro atom notNull
      cases content : value.untagged <;> simp_all [Value.IsAtom]
  | @sequence tag items each =>
    obtain ⟨values, -, content, matched⟩ := means.sequence (.sequence each)
    rw [content]
    refine .pure ?_
    rw [List.forall₂_iff_zip] at matched ⊢
    refine ⟨matched.1, fun {item value} member => ⟨?_, matched.2 member, ?_⟩⟩
    · exact each item (List.of_mem_zip member).1
    · intro isClear
      exact List.all_eq_true.mp (clearly isClear) item (List.of_mem_zip member).1
  | mapping keys values =>
    obtain ⟨values, -, content, -⟩ := means.mapping (.mapping keys values)
    rw [content]
    exact .throw

/-- The key and the value of an entry are those of the node, where the key is a text. -/
structure PairedEntry (other : Document) (clear : Prop) (isClear : String → Node → Bool)
    (entry : Node × Node) (entry' : Value × Value) : Prop where
  /-- The keys are paired. -/
  key : Paired other clear Node.meansText entry.1 entry'.1
  /-- The values are paired, by what is clear under the key. -/
  value : ∀ name, entry.1.Spells name → Paired other clear (isClear name) entry.2 entry'.2

/-- The entries of a clear mapping are paired with those of its value. -/
theorem pairedEntry_of_mapping {isClear : String → Node → Bool} {tag : Option TagBytes}
    {entries : List (Node × Node)} {values : List (Value × Value)}
    (keys_contained : ∀ entry ∈ entries, entry.1.SelfContained)
    (values_contained : ∀ entry ∈ entries, entry.2.SelfContained)
    (clearly : clear → Node.isClearRecord isClear (.mapping tag entries) = true)
    (matched : List.Forall₂ (fun entry value => other.Means entry.1 value.1 ∧
      other.Means entry.2 value.2) entries values) :
    List.Forall₂ (PairedEntry other clear isClear) entries values := by
  rw [List.forall₂_iff_zip] at matched ⊢
  refine ⟨matched.1, fun {entry value} member => ?_⟩
  have mem_entries := (List.of_mem_zip member).1
  obtain ⟨means_key, means_value⟩ := matched.2 member
  have clear_entry := fun isClear =>
    Bool.and_eq_true_iff.mp (List.all_eq_true.mp (clearly isClear) entry mem_entries)
  refine ⟨⟨keys_contained entry mem_entries, means_key, fun isClear => (clear_entry isClear).1⟩, ?_⟩
  rintro name ⟨tag, style, spelled⟩
  refine ⟨values_contained entry mem_entries, means_value, fun isClear => ?_⟩
  have field := (clear_entry isClear).2
  simpa only [spelled, String.ofList_toList] using field

/-- A record has the same fields in both readings. -/
theorem table_agree {isClear : String → Node → Bool}
    (paired : Paired other clear (Node.isClearRecord isClear) node value) :
    Agree clear (Agree.Fields fun name => Paired other clear (isClear name))
      (document.tableOf node) value.asTable := by
  obtain ⟨contained, means, clearly⟩ := paired
  rw [tableOf, target, follow_of_selfContained contained, pure_bind, Value.asTable]
  cases contained with
  | @scalar tag style text =>
    refine empty_agree "a map" means clearly .nil ?_ ?_ ?_
    · cases style <;> cases text <;> rfl
    · intro null
      rw [null]
    · intro atom notNull
      cases content : value.untagged <;> simp_all [Value.IsAtom]
  | sequence each =>
    obtain ⟨values, -, content, -⟩ := means.sequence (.sequence each)
    rw [content]
    exact .throw
  | @mapping tag entries keys values =>
    obtain ⟨values', -, content, matched⟩ := means.mapping (.mapping keys values)
    rw [content]
    refine Agree.mapM (pairedEntry_of_mapping keys values clearly matched) fun _ _ entry => ?_
    refine (spelling_agree entry.key).bind fun _ _ spelled => ?_
    obtain ⟨rfl, spells⟩ := spelled
    exact .pure ⟨rfl, entry.value _ spells⟩

/-! ## Variants -/

/-- The content of a node with a tag of the document's own has the value in the tag. -/
theorem Means.untagged {tag : String} (contained : node.SelfContained)
    (means : other.Means node value) (own : node.ownTag? = some tag) :
    ∃ content, value = .tagged tag content ∧ node.untagged.SelfContained ∧
      other.Means node.untagged content := by
  obtain ⟨depth, left, last, content, rfl, read⟩ := means.content contained
  have wrapped : ownTagged node content = .tagged tag content := by
    rw [ownTagged, own]
  have contained' : node.untagged.SelfContained := by
    cases contained with
    | scalar => exact .scalar
    | sequence each => exact .sequence each
    | mapping keys values => exact .mapping keys values
  refine ⟨content, wrapped, contained', depth, left, last, ?_⟩
  have bare : node.bare = node.untagged := by
    rw [Node.bare, own]
    rfl
  have bare_untagged : node.untagged.bare = node.untagged := by
    cases contained <;> rfl
  have unwrapped : ownTagged node.untagged = id := by
    cases contained <;> rfl
  rw [nodeValue_of_selfContained contained', bare_untagged, unwrapped, id_map, ← bare]
  exact read

/-- A name of variants is a text and no tag of two marks. -/
structure IsVariantName (name : String) : Prop where
  /-- The tag of the name is the name. -/
  bareTag : Value.bareTag name = name
  /-- The word means a text. -/
  plain : Resolved.ofPlain name.toList = .text
  /-- The word is no truth value. -/
  bool : Resolved.bool? name.toList = none
  /-- The word is no integer. -/
  integer : Resolved.integer? name.toList = none
  /-- The word is no number. -/
  real : Resolved.real? name.toList = none
  /-- The word does not stand for nothing. -/
  null : Resolved.isNull name.toList = false

/-- The names of return kinds are names of variants. -/
theorem isVariantName_returnKind {name : String} {kind : ReturnKind}
    (known : ReturnKind.ofName? name = some kind) : IsVariantName name := by
  unfold ReturnKind.ofName? at known
  split at known
  case h_7 => cases known
  all_goals exact ⟨by decide, rfl, by decide, by decide, by decide, by decide⟩

/-- The names of origins are names of variants. -/
theorem isVariantName_origin {name : String} {origin : Origin}
    (known : Origin.ofName? name = some origin) : IsVariantName name := by
  unfold Origin.ofName? at known
  split at known
  case h_3 => cases known
  all_goals exact ⟨by decide, rfl, by decide, by decide, by decide, by decide⟩

/-- A scalar that spells a name of variants means that text, if it means anything. -/
theorem IsVariantName.scalarValue {name : String} (isName : IsVariantName name)
    {tag : Option TagBytes} {style : Style}
    (answer : scalarValue tag style name.toList = .ok value) : value = .string name := by
  have plain : plainValue name.toList = .ok (.string name) := by
    rw [plainValue, isName.plain, String.ofList_toList]
  simp only [Document.scalarValue, plain, isName.bool, isName.integer, isName.real, isName.null,
    String.ofList_toList] at answer
  repeat' split at answer
  all_goals first
    | exact (Except.ok.inj answer).symm
    | exact absurd ‹false = true› Bool.false_ne_true
    | cases answer

/-- A plain scalar means nothing if it is left out or a word for nothing. -/
theorem ofPlain_eq_null_iff {text : List Char} :
    Resolved.ofPlain text = .null ↔ (text.isEmpty || Resolved.isNull text) = true := by
  rw [Resolved.ofPlain]
  by_cases null : (text.isEmpty || Resolved.isNull text) = true
  · exact iff_of_true (if_pos null) null
  · rw [if_neg null]
    refine iff_of_false ?_ null
    repeat' split
    all_goals exact nofun

/-- A scalar without a tag means nothing if it is plain and left out or a word for nothing. -/
theorem scalarValue_eq_null_iff (style : Style) (text : List Char) :
    scalarValue none style text = .ok .null ↔
      style = .plain ∧ (text.isEmpty || Resolved.isNull text) = true := by
  rw [scalarValue, ← ofPlain_eq_null_iff]
  by_cases isPlain : style = .plain
  · rw [if_pos isPlain, plainValue]
    cases Resolved.ofPlain text
    case integer i =>
      refine iff_of_false ?_ nofun
      simp only [integerValue]
      split <;> exact nofun
    all_goals simp [isPlain]
  · rw [if_neg isPlain]
    exact iff_of_false nofun fun both => isPlain both.1

/-- The content of a variant without any is read alike, whatever it is. -/
theorem nothing_agree {content : Node} (contained : content.SelfContained)
    (means : other.Means content value) (untagged : content.tag = none) :
    Agree clear Eq (document.nothingOf content) value.asNothing := by
  rw [nothingOf, target, follow_of_selfContained contained, pure_bind, Value.asNothing]
  cases contained with
  | @scalar tag style text =>
    cases untagged
    have answer : scalarValue none style text = .ok value.untagged := means.scalar.2
    have null := scalarValue_eq_null_iff style text
    rw [answer, Except.ok.injEq] at null
    by_cases nothing : style = .plain ∧ (text.isEmpty || Resolved.isNull text) = true
    · rw [null.mpr nothing]
      obtain ⟨rfl, nothing⟩ := nothing
      simp only [nothing]
      exact .pure rfl
    · refine .of_refusals ?_ ?_
      · cases style
        case plain => exact ⟨_, if_neg fun isNull => nothing ⟨rfl, isNull⟩⟩
        all_goals exact ⟨_, rfl⟩
      · split
        · exact absurd (null.mp ‹_›) nothing
        · exact ⟨_, rfl⟩
  | sequence each =>
    obtain ⟨values, -, content, -⟩ := means.sequence (.sequence each)
    rw [content]
    exact .throw
  | mapping keys values =>
    obtain ⟨values, -, content, -⟩ := means.mapping (.mapping keys values)
    rw [content]
    exact .throw

/-- The name of a variant in a scalar is read alike if what follows is, and what follows a name that
no variant has is a refusal. -/
theorem scalar_variant_agree {next : Variant Node → Following Fault α}
    {next' : Variant Value → Except Fault α} {tag : Option TagBytes} {style : Style}
    {text : List Char} {content : Value}
    (refuses : ∀ name, ¬IsVariantName name → ∃ fault, next (.plain name) = throw fault)
    (plain : ∀ name, Agree clear Eq (next (.plain name)) (next' (.plain name)))
    (answer : scalarValue tag style text = .ok content) :
    Agree clear Eq (next (.plain (String.ofList text))) (content.asVariant >>= next') := by
  have atom := isAtom_scalarValue answer
  by_cases isName : IsVariantName (String.ofList text)
  · rw [← @String.toList_ofList text] at answer
    rw [isName.scalarValue answer]
    exact plain (String.ofList text)
  obtain ⟨fault, refused⟩ := refuses _ isName
  cases content
  case string s =>
    rw [eq_of_scalarValue_eq_string answer]
    exact plain _
  case sequence | mapping | tagged => exact atom.elim
  all_goals exact .of_refusals ⟨fault, refused⟩ ⟨_, rfl⟩

/-- A variant is read alike if what follows is: what follows a name that no variant has is a
refusal, and so is what follows a tag of two marks. -/
theorem variant_agree {next : Variant Node → Following Fault α}
    {next' : Variant Value → Except Fault α} {isClear : String → Node → Bool}
    (paired : Paired other clear (Node.isClearVariant isClear) node value)
    (refuses : ∀ name, ¬IsVariantName name → ∃ fault, next (.plain name) = throw fault)
    (refuses_tag : ∀ name content, Value.bareTag name ≠ name →
      ∃ fault, next (.carrying name content) = throw fault)
    (plain : ∀ name, Agree clear Eq (next (.plain name)) (next' (.plain name)))
    (carrying : ∀ name content content', Paired other clear (isClear name) content content' →
      content.tag = none →
      Agree clear Eq (next (.carrying name content)) (next' (.carrying name content'))) :
    Agree clear Eq (document.variantOf node >>= next) (value.asVariant >>= next') := by
  obtain ⟨contained, means, clearly⟩ := paired
  rw [variantOf, target, follow_of_selfContained contained, pure_bind]
  cases own : node.ownTag? with
  | some tag =>
    obtain ⟨content, rfl, contained', means'⟩ := means.untagged contained own
    have untagged : node.untagged.tag = none := by
      cases contained <;> rfl
    rw [Node.isClearVariant, own] at clearly
    rw [Value.asVariant]
    by_cases bare : Value.bareTag tag = tag
    · rw [bare]
      refine carrying tag _ _ ⟨contained', means', fun isClear => ?_⟩ untagged
      exact (Bool.and_eq_true_iff.mp (clearly isClear)).2
    · obtain ⟨fault, refused⟩ := refuses_tag tag node.untagged bare
      rw [pure_bind, refused]
      refine .throw_of_unclear fun isClear => bare ?_
      exact of_decide_eq_true (Bool.and_eq_true_iff.mp (clearly isClear)).1
  | none =>
    have unwrapped : ∀ content, ownTagged node content = content := by
      intro content
      rw [ownTagged, own]
    cases contained with
    | @scalar tag style text =>
      obtain ⟨wrapped, answer⟩ := means.scalar
      rw [unwrapped] at wrapped
      rw [wrapped]
      exact scalar_variant_agree refuses plain answer
    | sequence each =>
      obtain ⟨values, wrapped, -⟩ := means.sequence (.sequence each)
      rw [wrapped, unwrapped]
      exact .throw
    | mapping keys values =>
      obtain ⟨values, wrapped, -⟩ := means.mapping (.mapping keys values)
      rw [wrapped, unwrapped]
      exact .throw

/-- A unit variant refuses a name that it does not know. -/
theorem unitVariant_of_unknown {m : Type → Type} [Monad m] [MonadExceptOf Fault m] {ν : Type}
    {reading : Reading m ν} {ofName? : String → Option α} {name : String}
    (unknown : ofName? name = none) :
    reading.unitVariant ofName? (.plain name) = throw (Fault.unknownVariant name) ∧
      ∀ content, reading.unitVariant ofName? (.carrying name content) =
        throw (Fault.unknownVariant name) := by
  constructor
  · rw [Reading.unitVariant, unknown]
  · intro content
    rw [Reading.unitVariant, unknown]

/-- A name alone is read alike as a unit variant. -/
theorem unitVariant_plain_agree {ofName? : String → Option α} (name : String) :
    Agree clear Eq (document.reading.unitVariant ofName? (.plain name))
      (Value.reading.unitVariant ofName? (.plain name)) := by
  cases known : ofName? name with
  | none =>
    rw [(unitVariant_of_unknown known).1, (unitVariant_of_unknown known).1]
    exact .throw
  | some found =>
    simp only [Reading.unitVariant, known]
    exact .pure rfl

/-- A name with content is read alike as a unit variant. -/
theorem unitVariant_carrying_agree {ofName? : String → Option α} {name : String} {content : Node}
    {content' : Value} (contained : content.SelfContained) (means : other.Means content content')
    (untagged : content.tag = none) :
    Agree clear Eq (document.reading.unitVariant ofName? (.carrying name content))
      (Value.reading.unitVariant ofName? (.carrying name content')) := by
  cases known : ofName? name with
  | none =>
    rw [(unitVariant_of_unknown known).2, (unitVariant_of_unknown known).2]
    exact .throw
  | some found =>
    simp only [Reading.unitVariant, known]
    exact (nothing_agree contained means untagged).bind fun _ _ _ => .pure rfl

/-- An origin is read alike. -/
theorem origin_agree
    (paired : Paired other clear (Node.isClearVariant fun _ _ => true) node value) :
    Agree clear Eq (document.reading.origin node) (Value.reading.origin value) := by
  have unknown : ∀ name, ¬IsVariantName name → Origin.ofName? name = none := fun _ notName =>
    Option.eq_none_iff_forall_ne_some.mpr fun _ known => notName (isVariantName_origin known)
  refine variant_agree paired ?_ ?_ unitVariant_plain_agree ?_
  · exact fun name notName => ⟨_, (unitVariant_of_unknown (unknown name notName)).1⟩
  · intro name content marked
    have notName : ¬IsVariantName name := fun isName => marked isName.bareTag
    exact ⟨_, (unitVariant_of_unknown (unknown name notName)).2 content⟩
  · exact fun name content content' paired untagged =>
      unitVariant_carrying_agree paired.contained paired.means untagged

/-- A return kind is read alike. -/
theorem returnKind_agree
    (paired : Paired other clear (Node.isClearVariant fun tag content =>
      tag ≠ ReturnKind.namedVariant || content.meansText) node value) :
    Agree clear Eq (document.reading.returnKind node) (Value.reading.returnKind value) := by
  have unknown : ∀ name, ¬IsVariantName name → ReturnKind.ofName? name = none := fun _ notName =>
    Option.eq_none_iff_forall_ne_some.mpr fun _ known => notName (isVariantName_returnKind known)
  refine variant_agree paired ?_ ?_ unitVariant_plain_agree ?_
  · exact fun name notName => ⟨_, (unitVariant_of_unknown (unknown name notName)).1⟩
  · intro name content marked
    have notName : ¬IsVariantName name := fun isName => marked isName.bareTag
    have notNamed : name ≠ ReturnKind.namedVariant := by
      rintro rfl
      exact marked (by decide)
    refine ⟨.unknownVariant name, ?_⟩
    simp only [if_neg notNamed]
    exact (unitVariant_of_unknown (unknown name notName)).2 content
  · intro name content content' paired untagged
    by_cases named : name = ReturnKind.namedVariant
    · simp only [if_pos named]
      have names_paired : Paired other clear Node.meansText content content' :=
        ⟨paired.contained, paired.means, fun isClear => by
          simpa [named] using paired.clearly isClear⟩
      exact (text_agree names_paired).bind fun _ _ names => .pure (names ▸ rfl)
    · simp only [if_neg named]
      exact unitVariant_carrying_agree paired.contained paired.means untagged

/-! ## Records -/

/-- A list of texts is read alike. -/
theorem texts_agree (paired : Paired other clear (Node.isClearList Node.meansText) node value) :
    Agree clear Eq (document.reading.list document.reading.text node)
      (Value.reading.list Value.reading.text value) :=
  Agree.list (items_agree paired) fun _ _ => text_agree

/-- A signature is read alike. -/
theorem signature_agree (paired : Paired other clear Node.isClearSignature node value) :
    Agree clear Eq (document.reading.signature node) (Value.reading.signature value) :=
  Agree.signature (table_agree paired) (fun _ _ => text_agree) (fun _ _ => texts_agree)
    fun _ _ => returnKind_agree

/-- A protocol is read alike from a node without references and from its value: what is read in both
ways is the same, and where the node is clear it is read in both ways or in neither. -/
theorem protocol_agree (document : Document)
    (paired : Paired other clear Node.isClearProtocol node value) :
    Agree clear Eq (document.reading.protocol node) (Value.reading.protocol value) :=
  Agree.protocol (table_agree paired) (fun _ _ => text_agree) (fun _ _ => texts_agree)
    (fun _ _ => text_agree) (fun _ _ => origin_agree)
    fun _ _ paired => Agree.list (items_agree paired) fun _ _ => signature_agree

end Document

end Covenant.Yaml
