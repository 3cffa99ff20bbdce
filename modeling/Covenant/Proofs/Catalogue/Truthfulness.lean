import Covenant.Catalogue.Check
import Covenant.Proofs.Catalogue.Atomicity
import Covenant.Proofs.Catalogue.History

/-!
# What the log tells

A record of a registration is written when the protocol is about to be stored. The protocols of a
list are stored in a copy of the catalogue, which is given up when one of them is refused; the
records stay in the log then, and the refusal follows them, as the record about the file or as the
answer of the operation (`Withdrawn`). Every other record of a registration is about a protocol
that is listed at the end of the operation. A record of an alias is written before the target is
looked for, and tells where the look-up goes on, not that it finds something. Both is put together
in `Catalogue.log_accounted`.
-/
namespace Covenant

namespace LogRecord

/-- A record of a registration. -/
def isRegistration : LogRecord → Bool
  | registering _ _ => true
  | _ => false

/-- A record of a look-up that goes on at the target of an alias. -/
def isFollowed : LogRecord → Bool
  | aliasFollowed _ _ => true
  | _ => false

end LogRecord

/-- A text declares a list that is refused as a whole, after it said something. -/
def RefusesList (text : String) (error : CatalogueError) (said : List LogRecord) : Prop :=
  ∃ (reached : Catalogue) (protocols : List Protocol),
    Declarations.ofYaml text = .ok (.list protocols) ∧
      (reached.registerEach protocols).result = .error error ∧
        (reached.registerEach protocols).log = said

/-- What is said between some records is taken back: a list says it that is refused as a whole.
The refusal comes after what the list says, as the record about a file with that list or as the
answer to its text. -/
inductive Withdrawn (system : FileSystem) (answers : String → CatalogueError → Prop)
    (entry : LogRecord) : List LogRecord → List LogRecord → Prop
  /-- The list stands in a file. -/
  | failed {earlier first second later : List LogRecord} {path text : String}
    {error : CatalogueError} (refuses : RefusesList text error (first ++ entry :: second))
    (read : system.readText path = .ok text) :
    Withdrawn system answers entry (earlier ++ first) (second ++ .loadFailed path error :: later)
  /-- The list is what the operation is about. -/
  | answered {earlier first second : List LogRecord} {text : String} {error : CatalogueError}
    (refuses : RefusesList text error (first ++ entry :: second)) (answer : answers text error) :
    Withdrawn system answers entry (earlier ++ first) second

/-- A log in which every record of a registration is about a stored name, unless a list says it that
is refused as a whole. The records of look-ups are set apart, in order. -/
inductive Truthful (system : FileSystem) (answers : String → CatalogueError → Prop)
    (stored : String → Prop) : List LogRecord → List LogRecord → Prop
  /-- Nothing is said. -/
  | nil : Truthful system answers stored [] []
  /-- Something is stored. -/
  | registering {followed more : List LogRecord} {name : String} {outcome : Outcome}
    (holds : stored name) (others : Truthful system answers stored followed more) :
    Truthful system answers stored followed (.registering name outcome :: more)
  /-- A look-up goes on. -/
  | followed {followed more : List LogRecord} {alternate target : String}
    (others : Truthful system answers stored followed more) :
    Truthful system answers stored (.aliasFollowed alternate target :: followed)
      (.aliasFollowed alternate target :: more)
  /-- Something else is said. -/
  | other {followed more : List LogRecord} {entry : LogRecord}
    (unregistered : entry.isRegistration = false) (unfollowed : entry.isFollowed = false)
    (others : Truthful system answers stored followed more) :
    Truthful system answers stored followed (entry :: more)
  /-- A file with a list is refused. -/
  | failed {followed said more : List LogRecord} {path text : String} {error : CatalogueError}
    (refuses : RefusesList text error said) (read : system.readText path = .ok text)
    (others : Truthful system answers stored followed more) :
    Truthful system answers stored followed (said ++ .loadFailed path error :: more)
  /-- The operation ends with a list that is refused. -/
  | answered {said : List LogRecord} {text : String} {error : CatalogueError}
    (refuses : RefusesList text error said) (answer : answers text error) :
    Truthful system answers stored [] said

variable {system : FileSystem} {answers answers' : String → CatalogueError → Prop}
  {stored stored' : String → Prop} {followed followed' log more : List LogRecord}

/-- A protocol that is registered says that it is, or nothing. -/
theorem Catalogue.isRegistration_registerLog (protocol : Protocol) (outcome : Outcome) :
    ∀ entry ∈ registerLog protocol outcome, entry.isRegistration = true := by
  cases outcome with
  | unchanged => exact List.forall_mem_nil _
  | added => exact List.forall_mem_singleton.mpr rfl
  | replaced => exact List.forall_mem_singleton.mpr rfl

/-- Registering protocols in order writes records of registrations only. -/
theorem Catalogue.isRegistration_registerEach (catalogue : Catalogue) (protocols : List Protocol) :
    ∀ entry ∈ (catalogue.registerEach protocols).log, entry.isRegistration = true := by
  induction protocols generalizing catalogue with
  | nil => exact List.forall_mem_nil _
  | cons protocol rest ih =>
    unfold registerEach
    cases decided : catalogue.outcome protocol with
    | error error =>
      rw [register_of_error decided]
      exact List.forall_mem_nil _
    | ok outcome =>
      rw [register_of_accepts (outcome_eq_ok_iff.mp decided)]
      exact List.forall_mem_append.mpr
        ⟨isRegistration_registerLog protocol outcome, ih (catalogue.apply protocol outcome)⟩

/-- A list that is refused says nothing about look-ups. -/
theorem RefusesList.filter_isFollowed {text : String} {error : CatalogueError}
    (refuses : RefusesList text error log) : log.filter LogRecord.isFollowed = [] := by
  obtain ⟨reached, protocols, -, -, rfl⟩ := refuses
  refine List.filter_eq_nil_iff.mpr fun entry member is_followed => ?_
  have registration := reached.isRegistration_registerEach protocols entry member
  cases entry with
  | aliasFollowed alternate target => cases registration
  | _ => cases is_followed

/-- What is withdrawn stays withdrawn where more was said before. -/
theorem Withdrawn.prepend {entry : LogRecord} {before after : List LogRecord}
    (withdrawn : Withdrawn system answers entry before after) (earliest : List LogRecord) :
    Withdrawn system answers entry (earliest ++ before) after := by
  cases withdrawn with
  | failed refuses read =>
    rw [← List.append_assoc]
    exact .failed refuses read
  | answered refuses answer =>
    rw [← List.append_assoc]
    exact .answered refuses answer

namespace Truthful

/-- A log goes on after one that no answer withdraws. -/
theorem append (first : Truthful system (fun _ _ => False) stored followed log)
    (second : Truthful system answers stored followed' more) :
    Truthful system answers stored (followed ++ followed') (log ++ more) := by
  induction first with
  | nil => exact second
  | registering holds _ ih => exact .registering holds ih
  | followed _ ih => exact .followed ih
  | other unregistered unfollowed _ ih => exact .other unregistered unfollowed ih
  | failed refuses read _ ih =>
    rw [List.append_assoc, List.cons_append]
    exact .failed refuses read ih
  | answered _ answer => exact answer.elim

/-- A log goes on with what is not about look-ups. -/
theorem append_tells (first : Truthful system (fun _ _ => False) stored followed log)
    (second : Truthful system answers stored [] more) :
    Truthful system answers stored followed (log ++ more) :=
  List.append_nil followed ▸ first.append second

/-- What is true stays true where more is stored and more is answered. -/
theorem imp (truthful : Truthful system answers stored followed log)
    (keeps : ∀ name, stored name → stored' name)
    (answered : ∀ text error, answers text error → answers' text error) :
    Truthful system answers' stored' followed log := by
  induction truthful with
  | nil => exact .nil
  | registering holds _ ih => exact .registering (keeps _ holds) ih
  | followed _ ih => exact .followed ih
  | other unregistered unfollowed _ ih => exact .other unregistered unfollowed ih
  | failed refuses read _ ih => exact .failed refuses read ih
  | answered refuses answer => exact .answered refuses (answered _ _ answer)

/-- What an answer withdraws, the record of it withdraws. -/
theorem logged (truthful : Truthful system answers stored followed log) {path : String}
    {error : CatalogueError}
    (failed : ∀ text other, answers text other → system.readText path = .ok text ∧ other = error) :
    Truthful system (fun _ _ => False) stored followed (log ++ [.loadFailed path error]) := by
  induction truthful with
  | nil => exact .other rfl rfl .nil
  | registering holds _ ih => exact .registering holds ih
  | followed _ ih => exact .followed ih
  | other unregistered unfollowed _ ih => exact .other unregistered unfollowed ih
  | failed refuses read _ ih =>
    rw [List.append_assoc, List.cons_append]
    exact .failed refuses read ih
  | answered refuses answer =>
    obtain ⟨read, rfl⟩ := failed _ _ answer
    exact .failed refuses read .nil

/-- The records that are set apart are the records of look-ups. -/
theorem filter_isFollowed (truthful : Truthful system answers stored followed log) :
    log.filter LogRecord.isFollowed = followed := by
  induction truthful with
  | nil => rfl
  | registering _ _ ih => exact ih
  | followed _ ih => exact congrArg _ ih
  | other _ unfollowed _ ih =>
    rw [List.filter_cons_of_neg (Bool.not_eq_true _ ▸ unfollowed)]
    exact ih
  | failed refuses _ _ ih =>
    rw [List.filter_append, refuses.filter_isFollowed]
    exact ih
  | answered refuses _ => exact refuses.filter_isFollowed

/-- A record of a registration is about a stored name or is withdrawn. -/
theorem stored_or_withdrawn {before after : List LogRecord} {name : String} {outcome : Outcome}
    (truthful : Truthful system answers stored followed log)
    (said : log = before ++ .registering name outcome :: after) :
    stored name ∨ Withdrawn system answers (.registering name outcome) before after := by
  induction truthful generalizing before with
  | nil => simp at said
  | registering holds _ ih =>
    cases before with
    | nil =>
      cases said
      exact .inl holds
    | cons first between =>
      exact (ih (List.cons.inj said).2).imp_right (·.prepend [first])
  | followed _ ih =>
    cases before with
    | nil => cases said
    | cons first between =>
      exact (ih (List.cons.inj said).2).imp_right (·.prepend [first])
  | other unregistered _ _ ih =>
    cases before with
    | nil =>
      cases said
      cases unregistered
    | cons first between =>
      exact (ih (List.cons.inj said).2).imp_right (·.prepend [first])
  | @failed _ listed rest path _ error refuses read _ ih =>
    -- The record is one of the list, the record of the refusal, or comes after it.
    rcases List.append_eq_append_iff.mp said with ⟨between, rfl, later⟩ | ⟨second, rfl, later⟩
    · cases between with
      | nil => cases later
      | cons refusal between =>
        obtain ⟨rfl, following⟩ := List.cons.inj later
        have prepended := (ih following).imp_right (·.prepend (listed ++ [.loadFailed path error]))
        rwa [List.append_assoc] at prepended
    · cases second with
      | nil => cases later
      | cons entry second =>
        obtain ⟨rfl, rfl⟩ := List.cons.inj later
        rw [← List.nil_append before]
        exact .inr (.failed refuses read)
  | answered refuses answer =>
    subst said
    rw [← List.nil_append before]
    exact .inr (.answered refuses answer)

end Truthful

namespace Catalogue

variable {catalogue last : Catalogue} {protocol : Protocol}

/-- A protocol is stored under a name. -/
def Stores (catalogue : Catalogue) (name : String) : Prop :=
  ∃ stored, catalogue.protocols.find? name = some stored

/-- A log without look-ups whose records of registrations are about what is stored in the end,
unless they are withdrawn. -/
abbrev Tells (catalogue : Catalogue) (system : FileSystem)
    (answers : String → CatalogueError → Prop) : List LogRecord → Prop :=
  Truthful system answers catalogue.Stores []

/-! ## Registrations -/

/-- Registering removes no name. -/
theorem Registers.stores {protocols : List Protocol}
    (registers : Registers catalogue protocols last) (name : String)
    (stores : catalogue.Stores name) : last.Stores name := by
  refine registers.preserves (motive := (·.Stores name)) ?_ stores
  rintro reached protocol outcome ⟨stored, found⟩ accepts
  unfold Stores
  rw [find?_protocols_apply accepts]
  split
  · exact ⟨_, rfl⟩
  · exact ⟨stored, found⟩

/-- What is told before some registrations is told with what is told then. -/
theorem Registers.tells_append {protocols : List Protocol}
    (registers : Registers catalogue protocols last)
    (first : catalogue.Tells system (fun _ _ => False) log)
    (second : last.Tells system answers more) : last.Tells system answers (log ++ more) :=
  (first.imp registers.stores fun _ _ => id).append second

/-- What an accepted protocol says is about its own name, which is stored then. -/
theorem Accepts.tells {outcome : Outcome} (accepts : catalogue.Accepts protocol outcome) :
    (catalogue.apply protocol outcome).Tells system answers (registerLog protocol outcome) := by
  have stores : (catalogue.apply protocol outcome).Stores protocol.name :=
    ⟨_, (find?_protocols_apply accepts protocol.name).trans (if_pos rfl)⟩
  cases outcome with
  | unchanged => exact .nil
  | added => exact .registering stores .nil
  | replaced => exact .registering stores .nil

/-- A protocol says that it is stored, or nothing. -/
theorem tells_register (catalogue : Catalogue) (protocol : Protocol) :
    (catalogue.register protocol).catalogue.Tells system answers
      (catalogue.register protocol).log := by
  cases decided : catalogue.outcome protocol with
  | error error =>
    rw [register_of_error decided]
    exact .nil
  | ok outcome =>
    have accepts := outcome_eq_ok_iff.mp decided
    rw [register_of_accepts accepts]
    exact accepts.tells

/-- Protocols that are all accepted say that they are stored. -/
theorem tells_registerEach {protocols : List Protocol}
    (succeeds : (catalogue.registerEach protocols).result = .ok ()) :
    (catalogue.registerEach protocols).catalogue.Tells system answers
      (catalogue.registerEach protocols).log := by
  induction protocols generalizing catalogue with
  | nil => exact .nil
  | cons protocol rest ih =>
    unfold registerEach at succeeds ⊢
    cases decided : catalogue.outcome protocol with
    | error error =>
      rw [register_of_error decided] at succeeds
      cases succeeds
    | ok outcome =>
      have accepts := outcome_eq_ok_iff.mp decided
      rw [register_of_accepts accepts] at succeeds ⊢
      exact (registers_registerEach succeeds).tells_append accepts.tells (ih succeeds)

/-- The protocols of a list say that they are stored, or the list is refused as a whole. -/
theorem tells_registerList {text : String} {protocols : List Protocol}
    (declares : Declarations.ofYaml text = .ok (.list protocols)) :
    (catalogue.registerList protocols).catalogue.Tells system
      (fun source error => source = text ∧ (catalogue.registerList protocols).result = .error error)
      (catalogue.registerList protocols).log := by
  unfold registerList
  cases staged : (catalogue.registerEach protocols).result with
  | ok _ =>
    simp only [staged]
    exact tells_registerEach staged
  | error error =>
    simp only [staged]
    exact .answered ⟨catalogue, protocols, declares, staged, rfl⟩ ⟨rfl, rfl⟩

/-- What a text declares says that it is stored, or the text is refused as a whole. -/
theorem tells_registerText (catalogue : Catalogue) (text : String) :
    (catalogue.registerText text).catalogue.Tells system
      (fun source error => source = text ∧ (catalogue.registerText text).result = .error error)
      (catalogue.registerText text).log := by
  unfold registerText
  cases declares : Declarations.ofYaml text with
  | error error => exact .nil
  | ok declarations =>
    cases declarations with
    | single protocol => exact tells_register catalogue protocol
    | list protocols => exact tells_registerList declares

/-- What a file declares says that it is stored, or the file is refused as a whole. -/
theorem tells_registerFile (system : FileSystem) (catalogue : Catalogue) (path : String) :
    (catalogue.registerFile system path).catalogue.Tells system
      (fun source error => system.readText path = .ok source ∧
        (catalogue.registerFile system path).result = .error error)
      (catalogue.registerFile system path).log := by
  unfold registerFile
  cases read : system.readText path with
  | error fault => exact .nil
  | ok text =>
    refine (tells_registerText catalogue text).imp (fun _ => id) ?_
    rintro source error ⟨rfl, refused⟩
    exact ⟨rfl, refused⟩

/-! ## Loads -/

/-- Trying a file says what is stored, or that the file is refused as a whole. -/
theorem tells_tryFile (catalogue : Catalogue) (path : String) :
    (catalogue.tryFile system path).catalogue.Tells system answers
      (catalogue.tryFile system path).log := by
  have tells := tells_registerFile system catalogue path
  unfold tryFile
  cases answer : (catalogue.registerFile system path).result with
  | ok count =>
    simp only [answer]
    refine tells.imp (fun _ => id) ?_
    rintro source error ⟨-, refused⟩
    rw [answer] at refused
    cases refused
  | error error =>
    simp only [answer]
    refine (tells.logged ?_).imp (fun _ => id) (fun _ _ => False.elim)
    rintro source other ⟨read, refused⟩
    rw [answer] at refused
    cases refused
    exact ⟨read, rfl⟩

/-- Visiting files says what is stored, or which files are refused as a whole. -/
theorem tells_visit (catalogue : Catalogue) (visits : List Visit) :
    (catalogue.visit system visits).catalogue.Tells system answers
      (catalogue.visit system visits).log := by
  induction visits generalizing catalogue with
  | nil => exact .nil
  | cons visit rest ih =>
    cases visit with
    | register path =>
      exact (registers_visit rest).tells_append (tells_tryFile catalogue path) (ih _)
    | passOver path => exact .other rfl rfl (ih catalogue)
    | fail fault => exact .nil

/-- Loading directories says what is stored, or which files are refused as a whole. -/
theorem tells_loadEach (catalogue : Catalogue) (paths : List String) :
    (catalogue.loadEach system paths).catalogue.Tells system answers
      (catalogue.loadEach system paths).log := by
  induction paths generalizing catalogue with
  | nil => exact .nil
  | cons path rest ih =>
    unfold loadEach
    cases answer : (catalogue.loadDirectory system path).result with
    | error error =>
      simp only [answer]
      exact tells_visit catalogue (system.plan path)
    | ok count =>
      simp only [answer]
      exact (registers_loadEach rest).tells_append (tells_visit catalogue (system.plan path)) (ih _)

/-- Trying files in order says what is stored, or which files are refused as a whole. -/
theorem tells_tryFirst (catalogue : Catalogue) (paths : List String) :
    (catalogue.tryFirst system paths).catalogue.Tells system answers
      (catalogue.tryFirst system paths).log := by
  induction paths generalizing catalogue with
  | nil => exact .nil
  | cons path rest ih =>
    unfold tryFirst
    split
    · dsimp only
      split
      · exact tells_tryFile catalogue path
      · exact (registers_tryFirst rest).tells_append (tells_tryFile catalogue path) (ih _)
    · exact ih catalogue

/-! ## Operations -/

/-- A look-up says one thing at most: that it goes on at the target of an alias, and there it finds
what is stored under the target, if anything is. -/
theorem mem_resolveLog_iff {name : String} {entry : LogRecord} :
    entry ∈ catalogue.resolveLog name ↔ ∃ target, entry = .aliasFollowed name target ∧
      catalogue.protocols.find? name = none ∧ catalogue.aliases.find? name = some target := by
  unfold resolveLog
  cases catalogue.protocols.find? name with
  | some stored => simp
  | none =>
    cases catalogue.aliases.find? name with
    | none => simp
    | some target => simp

/-- What a look-up says is set apart. -/
theorem truthful_resolveLog (catalogue : Catalogue) (name : String) :
    Truthful system answers stored (catalogue.resolveLog name) (catalogue.resolveLog name) := by
  unfold resolveLog
  split
  · exact .followed .nil
  · exact .nil

/-- The text that an operation is about, if it is a text. -/
def textOf? (system : FileSystem) : Operation → Option String
  | .registerText text => some text
  | .registerFile path => (system.readText path).toOption
  | _ => none

/-- The look-ups of an operation: which catalogue is asked for which name, in order. -/
def lookUps (system : FileSystem) (catalogue : Catalogue) :
    Operation → List (Catalogue × String)
  | .resolveOrLoad name =>
    [(catalogue, name), ((catalogue.resolveOrLoad system name).catalogue, name)]
  | _ => []

/-- Looking a name up and loading a file for it says what the two look-ups say, and between them
what is stored or which files are refused as a whole. -/
theorem truthful_resolveOrLoad (catalogue : Catalogue) (name : String) :
    Truthful system answers (catalogue.resolveOrLoad system name).catalogue.Stores
      (catalogue.resolveLog name ++
        (catalogue.resolveOrLoad system name).catalogue.resolveLog name)
      (catalogue.resolveOrLoad system name).log := by
  simp only [resolveOrLoad]
  refine ((truthful_resolveLog catalogue name).append_tells ?_).append (truthful_resolveLog _ name)
  split
  · exact .nil
  · exact tells_tryFirst catalogue _

/-- An operation says what is stored at its end, unless a list says it that is refused as a whole,
and it says what its look-ups say. -/
theorem truthful_perform (system : FileSystem) (catalogue : Catalogue) (operation : Operation) :
    Truthful system
      (fun text error => textOf? system operation = some text ∧
        (catalogue.perform system operation).result = .error error)
      (catalogue.perform system operation).catalogue.Stores
      ((catalogue.lookUps system operation).flatMap fun looked => looked.1.resolveLog looked.2)
      (catalogue.perform system operation).log := by
  cases operation with
  | register protocol => exact tells_register catalogue protocol
  | registerText text =>
    refine (tells_registerText catalogue text).imp (fun _ => id) ?_
    rintro source error ⟨rfl, refused⟩
    exact ⟨rfl, congrArg (Except.map Answer.count) refused⟩
  | registerFile path =>
    refine (tells_registerFile system catalogue path).imp (fun _ => id) ?_
    intro source error ⟨read, refused⟩
    exact ⟨congrArg Except.toOption read, congrArg (Except.map Answer.count) refused⟩
  | loadDirectory path => exact tells_visit catalogue (system.plan path)
  | loadAll => exact tells_loadEach catalogue catalogue.searchPaths
  | resolveOrLoad name =>
    simp only [lookUps, List.flatMap_cons, List.flatMap_nil, List.append_nil]
    exact truthful_resolveOrLoad catalogue name
  | addAlias alternate target => exact .other rfl rfl .nil
  | addSearchPath path => exact .nil

/-- A checker says what its look-up says, and then whether the surface conforms. -/
theorem truthful_checkLog (catalogue : Catalogue) (surface : Surface) (name : String) :
    Truthful system answers stored (catalogue.resolveLog name)
      (catalogue.checkLog surface name) := by
  unfold checkLog
  apply (truthful_resolveLog catalogue name).append_tells
  split
  · exact .other rfl rfl .nil
  · exact .other rfl rfl .nil
  · exact .nil

/-- A checker says nothing about registrations. -/
theorem isRegistration_checkLog (catalogue : Catalogue) (surface : Surface) (name : String) :
    ∀ entry ∈ catalogue.checkLog surface name, entry.isRegistration = false := by
  unfold checkLog
  refine List.forall_mem_append.mpr ⟨fun entry member => ?_, ?_⟩
  · obtain ⟨target, rfl, -, -⟩ := mem_resolveLog_iff.mp member
    rfl
  · split
    · exact List.forall_mem_singleton.mpr rfl
    · exact List.forall_mem_singleton.mpr rfl
    · exact List.forall_mem_nil _

/-- A look-up that says where it goes on answers with what is stored there. -/
theorem resolve_of_mem_resolveLog {name alternate target : String}
    (said : .aliasFollowed alternate target ∈ catalogue.resolveLog name) :
    alternate = name ∧ catalogue.resolve name = catalogue.protocols.find? target := by
  obtain ⟨_, same, absent, aliased⟩ := mem_resolveLog_iff.mp said
  cases same
  refine ⟨rfl, ?_⟩
  rw [resolve_of_absent absent, aliased]
  rfl

/-- Every record of a registration or of a look-up is accounted for, after any history. A record of
a registration is about a protocol that is listed when the operation ends, or a list says it that is
refused as a whole. An operation writes a record of an alias exactly for its look-ups that go on at
the target of one, in order, and so does a checker, which writes none of a registration. The look-up
answers then with what is stored under the target, and with nothing if nothing is. -/
theorem log_accounted {given : NameMap String} {start : Catalogue} (built : Built given start)
    (history : List Event) :
    let reached := start.through history
    (∀ (system : FileSystem) (operation : Operation) (before after : List LogRecord)
      (name : String) (outcome : Outcome),
      (reached.perform system operation).log = before ++ .registering name outcome :: after →
        (∃ protocol ∈ (reached.perform system operation).catalogue.list, protocol.name = name) ∨
          Withdrawn system
            (fun text error => textOf? system operation = some text ∧
              (reached.perform system operation).result = .error error)
            (.registering name outcome) before after) ∧
    (∀ (system : FileSystem) (operation : Operation),
      (reached.perform system operation).log.filter LogRecord.isFollowed =
        (reached.lookUps system operation).flatMap fun looked => looked.1.resolveLog looked.2) ∧
    (∀ (surface : Surface) (name : String),
      (reached.checkLog surface name).filter LogRecord.isFollowed = reached.resolveLog name ∧
        ∀ entry ∈ reached.checkLog surface name, entry.isRegistration = false) ∧
    ∀ (asked : Catalogue) (name alternate target : String),
      .aliasFollowed alternate target ∈ asked.resolveLog name →
        alternate = name ∧ asked.resolve name = asked.protocols.find? target := by
  intro reached
  refine ⟨?_, ?_, ?_, fun asked name alternate target => resolve_of_mem_resolveLog⟩
  · intro system operation before after name outcome said
    refine ((reached.truthful_perform system operation).stored_or_withdrawn said).imp_left ?_
    rintro ⟨stored, found⟩
    have keyed : (reached.perform system operation).catalogue.Keyed := by
      have later := built.keyed.through (history ++ [⟨system, operation⟩])
      rwa [through_append] at later
    have named := keyed name stored found
    exact ⟨stored, keyed.mem_list.mpr (named ▸ found), named⟩
  · exact fun system operation => (reached.truthful_perform system operation).filter_isFollowed
  · intro surface name
    have truthful : Truthful { root := .directory true [] } (fun _ _ => False) (fun _ => False)
        (reached.resolveLog name) (reached.checkLog surface name) :=
      truthful_checkLog reached surface name
    exact ⟨truthful.filter_isFollowed, reached.isRegistration_checkLog surface name⟩

/-- Two files for one name: a list that is refused for its last protocol, and a protocol that an
alias of the name may lead to. -/
def stagedFiles : FileSystem where
  root := .directory true [("protocols", .directory true [
    ("X.yaml", .file <| String.toUTF8 <| "protocols:\n- name: A\n  methods:\n  - name: a\n" ++
      "- name: B\n  methods: []\n"),
    ("X.yml", .file <| String.toUTF8 <| "protocol:\n  name: Y\n  methods:\n  - name: y\n")])]

/-- A name is an alias of a protocol that is not stored until a file is loaded for it: the first
look-up goes on and finds nothing. The list in the first file is withdrawn, and what the second file
declares is listed and found. -/
theorem log_accounted_staged :
    let reached := empty.through
      [⟨stagedFiles, .addSearchPath "protocols"⟩, ⟨stagedFiles, .addAlias "X" "Y"⟩]
    let ended := reached.perform stagedFiles (.resolveOrLoad "X")
    let refusal : LogRecord :=
      .loadFailed "protocols/X.yaml" (.invalid (.protocol (.noMethods "B")))
    Built .empty .empty ∧
      ended.log = [.aliasFollowed "X" "Y", .registering "A" .added, refusal,
        .registering "Y" .added, .aliasFollowed "X" "Y"] ∧
      "A" ∉ ended.catalogue.names ∧
      Withdrawn stagedFiles
        (fun text error => textOf? stagedFiles (.resolveOrLoad "X") = some text ∧
          ended.result = .error error)
        (.registering "A" .added) [.aliasFollowed "X" "Y"]
        [refusal, .registering "Y" .added, .aliasFollowed "X" "Y"] ∧
      (∃ protocol ∈ ended.catalogue.list, protocol.name = "Y") ∧
      reached.resolve "X" = none ∧ reached.resolve "X" = reached.protocols.find? "Y" ∧
      ended.catalogue.resolve "X" = ended.catalogue.protocols.find? "Y" := by
  intro reached ended refusal
  obtain ⟨registrations, -, -, lookUps⟩ := log_accounted .empty
    [⟨stagedFiles, .addSearchPath "protocols"⟩, ⟨stagedFiles, .addAlias "X" "Y"⟩]
  obtain ⟨said, absent, listed, unresolved, goes_on, goes_on'⟩ :
      ended.log = [.aliasFollowed "X" "Y", .registering "A" .added, refusal,
        .registering "Y" .added, .aliasFollowed "X" "Y"] ∧
      "A" ∉ ended.catalogue.names ∧ (∃ protocol ∈ ended.catalogue.list, protocol.name = "Y") ∧
      reached.resolve "X" = none ∧ .aliasFollowed "X" "Y" ∈ reached.resolveLog "X" ∧
      .aliasFollowed "X" "Y" ∈ ended.catalogue.resolveLog "X" := by
    decide +kernel
  have first := registrations stagedFiles (.resolveOrLoad "X") [_] _ "A" .added said
  have withdrawn := first.resolve_left fun ⟨protocol, listed, named⟩ =>
    absent (List.mem_map.mpr ⟨protocol, listed, named⟩)
  exact ⟨.empty, said, absent, withdrawn, listed, unresolved, (lookUps _ _ _ _ goes_on).2,
    (lookUps _ _ _ _ goes_on').2⟩

/-- A text registers a protocol in a record, and the protocol is not listed; a look-up resolves an
alias in a record, and answers nothing. -/
theorem log_unfulfilled :
    let files : FileSystem := { root := .directory true [] }
    let text := "protocols: [{name: A, methods: [{name: a}]}, {name: B, methods: []}]"
    let refused := empty.perform files (.registerText text)
    let aliased := empty.through [⟨files, .addAlias "X" "Y"⟩]
    Built .empty .empty ∧ .registering "A" .added ∈ refused.log ∧
      (¬∃ protocol ∈ refused.catalogue.list, protocol.name = "A") ∧
      .aliasFollowed "X" "Y" ∈ aliased.resolveLog "X" ∧ aliased.resolve "X" = none := by
  intro files text refused aliased
  refine ⟨.empty, ?_⟩
  decide +kernel

end Catalogue

end Covenant
