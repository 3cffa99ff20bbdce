import Covenant.Proofs.Catalogue.Operations

/-!
# Registration as a whole

A refused registration leaves the catalogue as it was, be it of a protocol, a text or a file. Each
entry of a list is decided against what the entries before it leave, so a list may be refused for
its own earlier entries; nothing of these remains then. Registering one by one
(`Catalogue.inTurn`) says what a list does without mention of the staged catalogue: a list is
accepted exactly when none of its entries is refused in turn, and else with the error of the first
one that is (`Catalogue.register_all_or_nothing`).
-/
namespace Covenant.Catalogue

/-- The catalogue after registering protocols one by one, a refused one passed over. -/
def inTurn (catalogue : Catalogue) (protocols : List Protocol) : Catalogue :=
  protocols.foldl (fun current protocol => (current.register protocol).catalogue) catalogue

/-- No protocol is refused when protocols are registered one by one. -/
def AcceptsInTurn (catalogue : Catalogue) (protocols : List Protocol) : Prop :=
  ∀ earlier protocol later, protocols = earlier ++ protocol :: later →
    ∃ outcome, ((catalogue.inTurn earlier).register protocol).result = .ok outcome

/-- A protocol is refused with an error after the protocols before it were accepted in turn. -/
def RefusesInTurn (catalogue : Catalogue) (protocols : List Protocol) (error : CatalogueError) :
    Prop :=
  ∃ earlier refused later, protocols = earlier ++ refused :: later ∧
    catalogue.AcceptsInTurn earlier ∧
      ((catalogue.inTurn earlier).register refused).result = .error error

variable {catalogue : Catalogue} {protocol : Protocol} {protocols rest : List Protocol}
  {error : CatalogueError}

/-! ## One by one -/

/-- Of no protocols none is refused. -/
theorem acceptsInTurn_nil (catalogue : Catalogue) : catalogue.AcceptsInTurn [] := by
  intro earlier protocol later splits
  exact absurd splits.symm (List.append_ne_nil_of_right_ne_nil _ (List.cons_ne_nil _ _))

/-- Of no protocols none is refused with an error. -/
theorem not_refusesInTurn_nil : ¬catalogue.RefusesInTurn [] error := by
  rintro ⟨earlier, refused, later, splits, -, -⟩
  exact absurd splits.symm (List.append_ne_nil_of_right_ne_nil _ (List.cons_ne_nil _ _))

/-- No protocol is refused exactly when the first one is not and no other one is after it. -/
theorem acceptsInTurn_cons : catalogue.AcceptsInTurn (protocol :: rest) ↔
    (∃ outcome, (catalogue.register protocol).result = .ok outcome) ∧
      (catalogue.register protocol).catalogue.AcceptsInTurn rest := by
  constructor
  · intro accepts
    refine ⟨accepts [] protocol rest rfl, ?_⟩
    intro earlier other later splits
    exact accepts (protocol :: earlier) other later (congrArg (protocol :: ·) splits)
  · rintro ⟨first, others⟩ earlier other later splits
    cases earlier with
    | nil =>
      obtain ⟨rfl, -⟩ := List.cons.inj splits
      exact first
    | cons head between =>
      obtain ⟨rfl, behind⟩ := List.cons.inj splits
      exact others between other later behind

/-- Protocols are refused in turn exactly when the first one is refused, or it is accepted and the
others are refused after it. -/
theorem refusesInTurn_cons : catalogue.RefusesInTurn (protocol :: rest) error ↔
    (catalogue.register protocol).result = .error error ∨
      (∃ outcome, (catalogue.register protocol).result = .ok outcome) ∧
        (catalogue.register protocol).catalogue.RefusesInTurn rest error := by
  constructor
  · rintro ⟨earlier, refused, later, splits, accepts, answer⟩
    cases earlier with
    | nil =>
      obtain ⟨rfl, -⟩ := List.cons.inj splits
      exact .inl answer
    | cons head between =>
      obtain ⟨rfl, behind⟩ := List.cons.inj splits
      obtain ⟨first, others⟩ := acceptsInTurn_cons.mp accepts
      exact .inr ⟨first, between, refused, later, behind, others, answer⟩
  · rintro (answer | ⟨first, earlier, refused, later, splits, accepts, answer⟩)
    · exact ⟨[], protocol, rest, rfl, acceptsInTurn_nil catalogue, answer⟩
    · exact ⟨protocol :: earlier, refused, later, congrArg (protocol :: ·) splits,
        acceptsInTurn_cons.mpr ⟨first, accepts⟩, answer⟩

/-- Registering up to the first protocol that is refused stops at that one. -/
theorem registerEach_cons_of_error (refused : (catalogue.register protocol).result = .error error) :
    (catalogue.registerEach (protocol :: rest)).result = .error error := by
  rw [registerEach]
  simp only [refused]

/-- Registering up to the first protocol that is refused goes on after one that is accepted. -/
theorem registerEach_cons_of_ok {outcome : Outcome}
    (accepted : (catalogue.register protocol).result = .ok outcome) :
    (catalogue.registerEach (protocol :: rest)).result =
        ((catalogue.register protocol).catalogue.registerEach rest).result ∧
      (catalogue.registerEach (protocol :: rest)).catalogue =
        ((catalogue.register protocol).catalogue.registerEach rest).catalogue := by
  rw [registerEach]
  simp only [accepted, and_self]

/-- Registering up to the first protocol that is refused succeeds exactly when none is refused in
turn. -/
theorem registerEach_eq_ok_iff :
    (catalogue.registerEach protocols).result = .ok () ↔ catalogue.AcceptsInTurn protocols := by
  induction protocols generalizing catalogue with
  | nil => exact iff_of_true rfl (acceptsInTurn_nil catalogue)
  | cons protocol rest ih =>
    rw [acceptsInTurn_cons]
    cases answer : (catalogue.register protocol).result with
    | error error => simp [registerEach_cons_of_error answer]
    | ok outcome => simp [(registerEach_cons_of_ok answer).1, ih]

/-- Registering up to the first protocol that is refused fails exactly as that protocol does in
turn. -/
theorem registerEach_eq_error_iff : (catalogue.registerEach protocols).result = .error error ↔
    catalogue.RefusesInTurn protocols error := by
  induction protocols generalizing catalogue with
  | nil => exact iff_of_false nofun not_refusesInTurn_nil
  | cons protocol rest ih =>
    rw [refusesInTurn_cons]
    cases answer : (catalogue.register protocol).result with
    | error fault => simp [registerEach_cons_of_error answer]
    | ok outcome => simp [(registerEach_cons_of_ok answer).1, ih]

/-- Registering up to the first protocol that is refused leaves what registering one by one leaves,
if none is refused. -/
theorem catalogue_registerEach (accepts : catalogue.AcceptsInTurn protocols) :
    (catalogue.registerEach protocols).catalogue = catalogue.inTurn protocols := by
  induction protocols generalizing catalogue with
  | nil => rfl
  | cons protocol rest ih =>
    obtain ⟨⟨outcome, first⟩, others⟩ := acceptsInTurn_cons.mp accepts
    rw [(registerEach_cons_of_ok first).2, ih others]
    rfl

/-- Protocols none of which is refused in turn are registered. -/
theorem AcceptsInTurn.registers (accepts : catalogue.AcceptsInTurn protocols) :
    Registers catalogue protocols (catalogue.inTurn protocols) := by
  rw [← catalogue_registerEach accepts]
  exact registers_registerEach (registerEach_eq_ok_iff.mpr accepts)

/-- Where no protocol is refused in turn, none of the first ones is. -/
theorem AcceptsInTurn.of_append {later : List Protocol}
    (accepts : catalogue.AcceptsInTurn (protocols ++ later)) :
    catalogue.AcceptsInTurn protocols := by
  intro earlier protocol between splits
  apply accepts earlier protocol (between ++ later)
  rw [splits, List.append_assoc, List.cons_append]

/-! ## All or nothing -/

/-- A refused protocol leaves the catalogue as it was. -/
theorem catalogue_register_of_error
    (refused : (catalogue.register protocol).result = .error error) :
    (catalogue.register protocol).catalogue = catalogue := by
  rw [result_register] at refused
  rw [register_of_error refused]

/-- A refused text leaves the catalogue as it was. -/
theorem catalogue_registerText_of_error {text : String}
    (refused : (catalogue.registerText text).result = .error error) :
    (catalogue.registerText text).catalogue = catalogue := by
  unfold registerText at refused ⊢
  cases read : Declarations.ofYaml text with
  | error fault => rfl
  | ok declarations =>
    simp only [read] at refused
    rcases registerDeclarations_cases catalogue declarations with
      ⟨count, accepted, _⟩ | ⟨_, _, unchanged⟩
    · rw [accepted] at refused
      cases refused
    · exact unchanged

/-- A refused file leaves the catalogue as it was. -/
theorem catalogue_registerFile_of_error {system : FileSystem} {path : String}
    (refused : (catalogue.registerFile system path).result = .error error) :
    (catalogue.registerFile system path).catalogue = catalogue := by
  unfold registerFile at refused ⊢
  cases read : system.readText path with
  | error fault => rfl
  | ok text =>
    simp only [read] at refused
    exact catalogue_registerText_of_error refused

/-- A text that declares a list of protocols does what the list does. -/
theorem registerText_of_list {text : String}
    (declares : Declarations.ofYaml text = .ok (.list protocols)) :
    catalogue.registerText text = catalogue.registerList protocols := by
  unfold registerText
  rw [declares]
  rfl

/-- A list answers as registering up to the first refused entry does, with the number of entries. -/
theorem result_registerList (catalogue : Catalogue) (protocols : List Protocol) :
    (catalogue.registerList protocols).result =
      (catalogue.registerEach protocols).result.map fun _ => protocols.length := by
  unfold registerList
  cases staged : (catalogue.registerEach protocols).result with
  | ok _ => simp only [staged, Except.map]
  | error error => simp only [staged, Except.map]

/-- A list is accepted exactly when none of its entries is refused in turn, and counts them. -/
theorem registerList_eq_ok_iff {count : Nat} :
    (catalogue.registerList protocols).result = .ok count ↔
      count = protocols.length ∧ catalogue.AcceptsInTurn protocols := by
  rw [result_registerList, ← registerEach_eq_ok_iff]
  cases (catalogue.registerEach protocols).result with
  | ok _ => simp [Except.map, eq_comm]
  | error error => simp [Except.map]

/-- A list is refused exactly as the first of its entries that is refused in turn. -/
theorem registerList_eq_error_iff : (catalogue.registerList protocols).result = .error error ↔
    catalogue.RefusesInTurn protocols error := by
  rw [result_registerList, ← registerEach_eq_error_iff]
  cases (catalogue.registerEach protocols).result with
  | ok _ => simp [Except.map]
  | error error => simp [Except.map]

/-- An accepted list leaves what its entries leave in turn. -/
theorem catalogue_registerList (accepts : catalogue.AcceptsInTurn protocols) :
    (catalogue.registerList protocols).catalogue = catalogue.inTurn protocols := by
  rw [← catalogue_registerEach accepts]
  unfold registerList
  simp only [registerEach_eq_ok_iff.mpr accepts]

/-- Registration is all or nothing. A protocol, a text or a file that is refused leaves the whole
catalogue as it was. A text that declares a list is accepted exactly when no entry is refused in
turn, counts its entries and leaves what registering them in turn leaves; and it is refused exactly
as the first entry that is refused after the entries before it. -/
theorem register_all_or_nothing (catalogue : Catalogue) :
    (∀ protocol error, (catalogue.register protocol).result = .error error →
      (catalogue.register protocol).catalogue = catalogue) ∧
    (∀ text error, (catalogue.registerText text).result = .error error →
      (catalogue.registerText text).catalogue = catalogue) ∧
    (∀ system path error, (catalogue.registerFile system path).result = .error error →
      (catalogue.registerFile system path).catalogue = catalogue) ∧
    ∀ text protocols, Declarations.ofYaml text = .ok (.list protocols) →
      (∀ count, (catalogue.registerText text).result = .ok count ↔
        count = protocols.length ∧ catalogue.AcceptsInTurn protocols) ∧
      (∀ count, (catalogue.registerText text).result = .ok count →
        (catalogue.registerText text).catalogue = catalogue.inTurn protocols) ∧
      ∀ error, (catalogue.registerText text).result = .error error ↔
        catalogue.RefusesInTurn protocols error := by
  refine ⟨fun _ _ => catalogue_register_of_error, fun _ _ => catalogue_registerText_of_error,
    fun _ _ _ => catalogue_registerFile_of_error, ?_⟩
  intro text protocols declares
  rw [registerText_of_list declares]
  refine ⟨fun _ => registerList_eq_ok_iff, ?_, fun _ => registerList_eq_error_iff⟩
  intro count accepted
  exact catalogue_registerList (registerList_eq_ok_iff.mp accepted).2

/-- A new protocol with an alias, another contract for a standard name, and a protocol with an alias
to be chosen. -/
def stagedList (alternate : String) : List Protocol := [
  { name := "Closable", aliases := ["Shut"], methods := [⟨"close", [], .any⟩] },
  { name := "Sized", methods := [⟨"len", [], .any⟩] },
  { name := "Sealable", aliases := [alternate], methods := [⟨"seal", [], .any⟩] }]

/-- A text that lists them. -/
def stagedText (alternate : String) : String :=
  "protocols:\n- name: Closable\n  aliases: [Shut]\n  methods:\n  - name: close\n" ++
    "- name: Sized\n  methods:\n  - name: len\n" ++
    "- name: Sealable\n  aliases: [" ++ alternate ++ "]\n  methods:\n  - name: seal\n"

/-- The list is refused as a whole for an alias that its own first entry took, and accepted with an
alias that its second entry gave up. -/
theorem register_all_or_nothing_staged :
    let lenient := ofSettingsBase { allowRedeclaration := true }
    (lenient.registerText (stagedText "Shut")).result =
        .error (.aliasTaken "Shut" "Closable") ∧
      (lenient.registerText (stagedText "Shut")).catalogue = lenient ∧
      (lenient.registerText (stagedText "SizeQueryable")).result = .ok 3 ∧
      (lenient.registerText (stagedText "SizeQueryable")).catalogue =
        lenient.inTurn (stagedList "SizeQueryable") := by
  intro lenient
  obtain ⟨-, texts, -, lists⟩ := register_all_or_nothing lenient
  have taken : Declarations.ofYaml (stagedText "Shut") = .ok (.list (stagedList "Shut")) :=
    declares_list (by decide +kernel)
  have free : Declarations.ofYaml (stagedText "SizeQueryable") =
      .ok (.list (stagedList "SizeQueryable")) := declares_list (by decide +kernel)
  have refuses : lenient.RefusesInTurn (stagedList "Shut") (.aliasTaken "Shut" "Closable") :=
    registerEach_eq_error_iff.mp (eq_error_of_refusal? (by decide +kernel))
  have accepts : lenient.AcceptsInTurn (stagedList "SizeQueryable") :=
    registerEach_eq_ok_iff.mp (registerEach_eq_ok (by decide +kernel))
  have refused := ((lists _ _ taken).2.2 _).mpr refuses
  have accepted := ((lists _ _ free).1 3).mpr ⟨rfl, accepts⟩
  exact ⟨refused, texts _ _ refused, accepted, (lists _ _ free).2.1 3 accepted⟩

end Covenant.Catalogue
