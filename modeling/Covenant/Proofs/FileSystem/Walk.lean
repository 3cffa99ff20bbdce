import Covenant.Proofs.FileSystem.Path
import Covenant.Proofs.NameMap

/-!
# Where paths lead

Following a path reads nothing but what stands at the places that it comes by
(`FileSystem.kindAt?`). `FileSystem.Leads` says which way a path takes, a link's own way included,
and how many links it leaves to be followed; following a path succeeds exactly when there is such a
way (`FileSystem.walk_eq_found_iff`). Ways can be put together and taken apart, there is one at
most (`FileSystem.Leads.unique`), and they are kept by a file system in which more stands
(`FileSystem.Leads.mono`).
-/
namespace Covenant

/-- What a node is, whatever is below it. -/
inductive NodeKind
  /-- Bytes. -/
  | file (content : ByteArray)
  /-- Names, which may be listed or not. -/
  | directory (readable : Bool)
  /-- A path to something else. -/
  | link (target : String)

namespace FileNode

/-- What a node is, whatever is below it. -/
def kind : FileNode → NodeKind
  | file content => .file content
  | directory readable _ => .directory readable
  | link target => .link target

/-- What holds of files and links, and of a directory if it holds of the nodes in it, holds of every
node. -/
@[elab_as_elim]
theorem induction {motive : FileNode → Prop} (file : ∀ content, motive (.file content))
    (link : ∀ target, motive (.link target))
    (directory : ∀ readable entries, (∀ entry ∈ entries, motive entry.2) →
      motive (.directory readable entries)) (node : FileNode) : motive node := by
  induction size : sizeOf node using Nat.strongRecOn generalizing node with
  | ind size ih =>
    subst size
    cases node with
    | file content => exact file content
    | link target => exact link target
    | directory readable entries =>
      refine directory readable entries fun ⟨name, child⟩ member => ih _ ?_ child rfl
      have smaller := List.sizeOf_lt_of_mem member
      rw [Prod.mk.sizeOf_spec] at smaller
      rw [FileNode.directory.sizeOf_spec]
      omega
/-- In every directory the names are names, each once. -/
inductive WellFormed : FileNode → Prop
  /-- Bytes. -/
  | file (content : ByteArray) : WellFormed (.file content)
  /-- A path. -/
  | link (target : String) : WellFormed (.link target)
  /-- Entries with different names. -/
  | directory (readable : Bool) (entries : List (String × FileNode))
    (distinct : (entries.map (·.1)).Nodup) (named : ∀ entry ∈ entries, Path.IsName entry.1)
    (inside : ∀ entry ∈ entries, WellFormed entry.2) : WellFormed (.directory readable entries)

/-- An entry of a well-formed directory is well formed and has a name. -/
theorem WellFormed.entry {node child : FileNode} (wellFormed : node.WellFormed) {name : String}
    (found : node.entry? name = some child) : Path.IsName name ∧ child.WellFormed := by
  cases wellFormed with
  | file content => cases found
  | link target => cases found
  | directory readable entries distinct named inside =>
    have member := (NameMap.lookup_eq_some_iff distinct).mp found
    exact ⟨named _ member, inside _ member⟩

/-- Names lead on from where the names before them led. -/
theorem below?_append (node : FileNode) (names more : List String) :
    node.below? (names ++ more) = (node.below? names).bind (·.below? more) := by
  induction names generalizing node with
  | nil => rfl
  | cons name rest ih =>
    rw [List.cons_append, below?, below?]
    cases node.entry? name with
    | none => rfl
    | some child => exact ih child

/-- What stands below a well-formed node is well formed, and names lead there. -/
theorem WellFormed.descendant {node child : FileNode} (wellFormed : node.WellFormed)
    {names : List String} (found : node.below? names = some child) :
    (∀ name ∈ names, Path.IsName name) ∧ child.WellFormed := by
  induction names generalizing node with
  | nil =>
    cases found
    exact ⟨fun _ member => absurd member List.not_mem_nil, wellFormed⟩
  | cons name rest ih =>
    obtain ⟨next, first, others⟩ := Option.bind_eq_some_iff.mp found
    obtain ⟨isName, next_wellFormed⟩ := wellFormed.entry first
    obtain ⟨areNames, child_wellFormed⟩ := ih next_wellFormed others
    exact ⟨List.forall_mem_cons.mpr ⟨isName, areNames⟩, child_wellFormed⟩

mutual

/-- The names that lead to everything at and below a node, and what is there. -/
def places : FileNode → List (List String × NodeKind)
  | .file content => [([], .file content)]
  | .link target => [([], .link target)]
  | .directory readable entries => ([], .directory readable) :: entryPlaces entries

/-- The names that lead to everything at and below entries, and what is there. -/
def entryPlaces : List (String × FileNode) → List (List String × NodeKind)
  | [] => []
  | (name, node) :: rest =>
    (places node).map (fun place => (name :: place.1, place.2)) ++ entryPlaces rest

end

/-- What is below entries is at or below one of them. -/
theorem mem_entryPlaces {entries : List (String × FileNode)} {names : List String}
    {kind : NodeKind} : (names, kind) ∈ entryPlaces entries ↔
      ∃ name child rest, names = name :: rest ∧ (name, child) ∈ entries ∧
        (rest, kind) ∈ child.places := by
  induction entries with
  | nil => simp [entryPlaces]
  | cons entry others ih =>
    obtain ⟨first, node⟩ := entry
    rw [entryPlaces, List.mem_append, ih]
    constructor
    · rintro (own | ⟨name, child, rest, same, member, below⟩)
      · obtain ⟨⟨rest, _⟩, below, same⟩ := List.mem_map.mp own
        cases same
        exact ⟨first, node, rest, rfl, List.mem_cons_self, below⟩
      · exact ⟨name, child, rest, same, List.mem_cons_of_mem _ member, below⟩
    · rintro ⟨name, child, rest, rfl, member, below⟩
      rcases List.mem_cons.mp member with same | member
      · cases same
        exact .inl (List.mem_map.mpr ⟨(rest, kind), below, rfl⟩)
      · exact .inr ⟨name, child, rest, rfl, member, below⟩

/-- Names that lead below a node are listed after the node. -/
theorem mem_tail_places {node : FileNode} {names : List String} {kind : NodeKind} :
    (names, kind) ∈ node.places.tail ↔ names ≠ [] ∧ (names, kind) ∈ node.places := by
  cases node with
  | file content => simp +contextual [places]
  | link target => simp +contextual [places]
  | directory readable entries =>
    rw [places, List.tail_cons, List.mem_cons, mem_entryPlaces]
    constructor
    · rintro ⟨name, child, rest, rfl, member, below⟩
      exact ⟨List.cons_ne_nil _ _, .inr ⟨name, child, rest, rfl, member, below⟩⟩
    · rintro ⟨proper, same | below⟩
      · exact absurd (congrArg Prod.fst same) proper
      · exact below

/-- What is at and below one entry is a part of what is at and below all of them. -/
theorem length_places_le {entries : List (String × FileNode)} {entry : String × FileNode}
    (member : entry ∈ entries) : entry.2.places.length ≤ (entryPlaces entries).length := by
  induction entries with
  | nil => cases member
  | cons head rest ih =>
    obtain ⟨name, child⟩ := head
    rw [entryPlaces, List.length_append, List.length_map]
    rcases List.mem_cons.mp member with rfl | later
    · exact Nat.le_add_right _ _
    · exact Nat.le_trans (ih later) (Nat.le_add_left _ _)

/-- Different names lead to everything below entries, if they do below each of them. -/
theorem nodup_entryPlaces {entries : List (String × FileNode)}
    (distinct : (entries.map (·.1)).Nodup)
    (each : ∀ entry ∈ entries, (entry.2.places.map (·.1)).Nodup) :
    ((entryPlaces entries).map (·.1)).Nodup := by
  induction entries with
  | nil => exact List.nodup_nil
  | cons entry rest ih =>
    obtain ⟨name, child⟩ := entry
    obtain ⟨own, others⟩ := List.forall_mem_cons.mp each
    obtain ⟨fresh, distinct⟩ := List.nodup_cons.mp distinct
    have below : child.places.map ((·.1) ∘ fun place => (name :: place.1, place.2)) =
        (child.places.map (·.1)).map (name :: ·) := by
      rw [List.map_map]
      rfl
    rw [entryPlaces, List.map_append, List.map_map, below]
    refine List.nodup_append.mpr ⟨List.pairwise_map.mpr <|
      own.imp fun different same => different (List.cons.inj same).2, ih distinct others, ?_⟩
    rintro _ first _ later rfl
    obtain ⟨_, _, rfl⟩ := List.mem_map.mp first
    obtain ⟨⟨_, kind⟩, present, same⟩ := List.mem_map.mp later
    obtain ⟨_, _, _, rfl, member, _⟩ := mem_entryPlaces.mp present
    cases same
    exact fresh (List.mem_map.mpr ⟨_, member, rfl⟩)

/-- Different names lead to everything that is listed. -/
theorem WellFormed.nodup_places {node : FileNode} (wellFormed : node.WellFormed) :
    (node.places.map (·.1)).Nodup := by
  induction wellFormed with
  | file content => exact List.pairwise_singleton _ _
  | link target => exact List.pairwise_singleton _ _
  | directory readable entries distinct named inside ih =>
    rw [places, List.map_cons]
    refine List.nodup_cons.mpr ⟨fun member => ?_, nodup_entryPlaces distinct ih⟩
    obtain ⟨⟨_, kind⟩, present, rfl⟩ := List.mem_map.mp member
    obtain ⟨_, _, _, same, _⟩ := mem_entryPlaces.mp present
    cases same

/-- Everything that names lead to is listed. -/
theorem WellFormed.mem_places_iff {node : FileNode} (wellFormed : node.WellFormed)
    {names : List String} {kind : NodeKind} :
    (names, kind) ∈ node.places ↔ (node.below? names).map FileNode.kind = some kind := by
  induction wellFormed generalizing names with
  | file content => cases names <;> simp [places, below?, entry?, FileNode.kind, eq_comm]
  | link target => cases names <;> simp [places, below?, entry?, FileNode.kind, eq_comm]
  | directory readable entries distinct named inside ih =>
    rw [places, List.mem_cons, mem_entryPlaces]
    cases names with
    | nil => simp [below?, FileNode.kind, eq_comm]
    | cons name rest =>
      change _ ↔ ((entries.lookup name).bind (·.below? rest)).map FileNode.kind = some kind
      constructor
      · rintro (impossible | ⟨_, child, _, same, member, below⟩)
        · cases impossible
        · cases same
          rw [(NameMap.lookup_eq_some_iff distinct).mpr member]
          exact (ih _ member).mp below
      · intro found
        cases lookup : entries.lookup name with
        | none =>
          rw [lookup] at found
          cases found
        | some child =>
          rw [lookup] at found
          have member := (NameMap.lookup_eq_some_iff distinct).mp lookup
          exact .inr ⟨name, child, rest, rfl, member, (ih _ member).mpr found⟩

end FileNode

namespace FileSystem

/-- What stands at a place. -/
def kindAt? (system : FileSystem) (place : List String) : Option NodeKind :=
  (system.nodeAt? place).map FileNode.kind

/-- A directory stands at a place. -/
def DirectoryAt (system : FileSystem) (place : List String) : Prop :=
  ∃ readable, system.kindAt? place = some (.directory readable)

/-- A tree of well-formed directories, one of which is the current one. -/
structure WellFormed (system : FileSystem) : Prop where
  /-- The tree is well formed. -/
  root : system.root.WellFormed
  /-- Relative paths start from a directory. -/
  current : system.DirectoryAt system.current

variable {system : FileSystem}

/-- Names lead on from a place. -/
theorem nodeAt?_append (place names : List String) :
    system.nodeAt? (place ++ names) = (system.nodeAt? place).bind (·.below? names) :=
  system.root.below?_append place names

/-- At a name in a directory stands its entry. -/
theorem nodeAt?_append_singleton {place : List String} {readable : Bool}
    {entries : List (String × FileNode)}
    (found : system.nodeAt? place = some (.directory readable entries)) (name : String) :
    system.nodeAt? (place ++ [name]) = entries.lookup name := by
  rw [nodeAt?_append, found]
  change (entries.lookup name).bind some = _
  exact Option.bind_fun_some _

/-- What a name leads to stands in a directory. -/
theorem directoryAt_of_child {place rest : List String} {name : String} {kind : NodeKind}
    (found : system.kindAt? (place ++ name :: rest) = some kind) : system.DirectoryAt place := by
  unfold kindAt? at found
  rw [nodeAt?_append] at found
  unfold DirectoryAt kindAt?
  cases here : system.nodeAt? place with
  | none =>
    rw [here] at found
    cases found
  | some node =>
    rw [here] at found
    cases node with
    | directory readable entries => exact ⟨readable, rfl⟩
    | file content => cases found
    | link target => cases found

/-- A node of a directory kind is a directory. -/
theorem nodeAt?_of_kindAt? {place : List String} {readable : Bool}
    (found : system.kindAt? place = some (.directory readable)) :
    ∃ entries, system.nodeAt? place = some (.directory readable entries) := by
  unfold kindAt? at found
  obtain ⟨node, here, kind⟩ := Option.map_eq_some_iff.mp found
  cases node with
  | directory readable entries =>
    cases kind
    exact ⟨entries, here⟩
  | file content => cases kind
  | link target => cases kind

/-- Above what stands somewhere stands something. -/
theorem kindAt?_dropLast {place : List String} {kind : NodeKind}
    (found : system.kindAt? place = some kind) :
    ∃ above, system.kindAt? place.dropLast = some above := by
  rcases List.eq_nil_or_concat place with rfl | ⟨above, name, rfl⟩
  · exact ⟨kind, found⟩
  · rw [List.concat_eq_append] at found ⊢
    rw [List.dropLast_concat]
    obtain ⟨readable, here⟩ := directoryAt_of_child found
    exact ⟨_, here⟩

/-- The names that lead to what stands at a place are names. -/
theorem WellFormed.areNames (wellFormed : system.WellFormed) {place names : List String}
    {kind : NodeKind} (found : system.kindAt? (place ++ names) = some kind) :
    ∀ name ∈ names, Path.IsName name := by
  obtain ⟨node, here, _⟩ := Option.map_eq_some_iff.mp found
  intro name member
  exact (wellFormed.root.descendant here).1 name (List.mem_append_right place member)

/-! ## Ways -/

/-- The place from which the target of a link in a directory starts. -/
def linkBase (directory : List String) (target : String) : List String :=
  if Path.isAbsolute target then [] else directory

/-- A way along some steps, when some links may be followed: where it ends, and how many links may
be followed from there. -/
inductive Leads (system : FileSystem) :
    Nat → List String → List Path.Step → Nat → List String → Prop
  /-- No step leads nowhere else. -/
  | done (links : Nat) (place : List String) : Leads system links place [] links place
  /-- To the same directory. -/
  | stay {links left : Nat} {place last : List String} {rest : List Path.Step}
    (here : system.DirectoryAt place) (onward : Leads system links place rest left last) :
    Leads system links place (.stay :: rest) left last
  /-- To the directory above. -/
  | up {links left : Nat} {place last : List String} {rest : List Path.Step}
    (here : system.DirectoryAt place)
    (onward : Leads system links place.dropLast rest left last) :
    Leads system links place (.up :: rest) left last
  /-- To a name that is no link. -/
  | down {links left : Nat} {place last : List String} {name : String} {rest : List Path.Step}
    {kind : NodeKind} (here : system.DirectoryAt place)
    (short : name.utf8ByteSize ≤ nameLimit)
    (there : system.kindAt? (place ++ [name]) = some kind)
    (noLink : ∀ target, kind ≠ .link target)
    (onward : Leads system links (place ++ [name]) rest left last) :
    Leads system links place (.down name :: rest) left last
  /-- Along the target of a link, and on from where that leads. -/
  | follow {links fewer left : Nat} {place middle last : List String} {name target : String}
    {rest : List Path.Step} (here : system.DirectoryAt place)
    (short : name.utf8ByteSize ≤ nameLimit)
    (there : system.kindAt? (place ++ [name]) = some (.link target)) (some_path : target ≠ "")
    (along : Leads system links (linkBase place target) (Path.steps target) fewer middle)
    (onward : Leads system fewer middle rest left last) :
    Leads system (links + 1) place (.down name :: rest) left last

namespace Leads

variable {links left : Nat} {place middle last : List String} {steps more : List Path.Step}

/-- A way goes on where another one ended. -/
theorem append {fewer : Nat} (first : system.Leads links place steps fewer middle)
    (second : system.Leads fewer middle more left last) :
    system.Leads links place (steps ++ more) left last := by
  induction first with
  | done _ _ => exact second
  | stay here _ ih => exact .stay here (ih second)
  | up here _ ih => exact .up here (ih second)
  | down here short there noLink _ ih => exact .down here short there noLink (ih second)
  | follow here short there some_path along _ _ ih =>
    exact .follow here short there some_path along (ih second)

/-- A way along steps and more steps has a first part. -/
theorem split (way : system.Leads links place (steps ++ more) left last) :
    ∃ fewer middle, system.Leads links place steps fewer middle ∧
      system.Leads fewer middle more left last := by
  induction steps generalizing links place with
  | nil => exact ⟨links, place, .done _ _, way⟩
  | cons step rest ih =>
    rw [List.cons_append] at way
    cases way with
    | stay here onward =>
      obtain ⟨fewer, middle, first, second⟩ := ih onward
      exact ⟨fewer, middle, .stay here first, second⟩
    | up here onward =>
      obtain ⟨fewer, middle, first, second⟩ := ih onward
      exact ⟨fewer, middle, .up here first, second⟩
    | down here short there noLink onward =>
      obtain ⟨fewer, middle, first, second⟩ := ih onward
      exact ⟨fewer, middle, .down here short there noLink first, second⟩
    | follow here short there some_path along onward =>
      obtain ⟨fewer, middle, first, second⟩ := ih onward
      exact ⟨fewer, middle, .follow here short there some_path along first, second⟩

/-- The same steps lead to the same place, however many links may be followed. -/
theorem unique {links' left' : Nat} {last' : List String}
    (way : system.Leads links place steps left last)
    (other : system.Leads links' place steps left' last') : last = last' := by
  -- Both ways go down alike, because what stands at a name is a link or it is none.
  induction way generalizing links' left' last' with
  | done _ _ =>
    cases other
    rfl
  | stay _ _ ih =>
    cases other with
    | stay _ onward => exact ih onward
  | up _ _ ih =>
    cases other with
    | up _ onward => exact ih onward
  | down _ _ there noLink _ ih =>
    cases other with
    | down _ _ _ _ onward => exact ih onward
    | follow _ _ there' _ _ _ =>
      exact absurd (Option.some.inj (there.symm.trans there')) (noLink _)
  | follow _ _ there _ _ _ ih_along ih =>
    cases other with
    | down _ _ there' noLink _ =>
      exact absurd (Option.some.inj (there'.symm.trans there)) (noLink _)
    | follow _ _ there' _ along onward =>
      cases there.symm.trans there'
      obtain rfl := ih_along along
      exact ih onward

/-- Where more stands the same way is there. -/
theorem mono {less : FileSystem} (way : less.Leads links place steps left last)
    (within : ∀ place kind, less.kindAt? place = some kind → system.kindAt? place = some kind) :
    system.Leads links place steps left last := by
  have directory (place : List String) (here : less.DirectoryAt place) :
      system.DirectoryAt place := here.imp fun _ => within place _
  induction way with
  | done links place => exact .done links place
  | stay here _ ih => exact .stay (directory _ here) ih
  | up here _ ih => exact .up (directory _ here) ih
  | down here short there noLink _ ih =>
    exact .down (directory _ here) short (within _ _ there) noLink ih
  | follow here short there some_path _ _ ih_along ih =>
    exact .follow (directory _ here) short (within _ _ there) some_path ih_along ih

/-- A way from something ends at something. -/
theorem exists_kind (way : system.Leads links place steps left last)
    (start : ∃ kind, system.kindAt? place = some kind) :
    ∃ kind, system.kindAt? last = some kind := by
  induction way with
  | done _ _ => exact start
  | stay _ _ ih => exact ih start
  | up _ _ ih =>
    obtain ⟨kind, here⟩ := start
    exact ih (kindAt?_dropLast here)
  | down _ _ there _ _ ih => exact ih ⟨_, there⟩
  | @follow _ _ _ _ _ _ _ target _ here _ _ _ _ _ ih_along ih =>
    refine ih (ih_along ?_)
    unfold linkBase
    split
    · exact ⟨_, rfl⟩
    · exact ⟨_, here.choose_spec⟩

end Leads

/-! ## Following paths -/

/-- How to go on from a link, when some links may be followed. -/
def onward (system : FileSystem) :
    Nat → List String → List Path.Step → Except FileFault Destination
  | 0 => fun _ _ => .error .tooManyLinks
  | links + 1 => system.walk true links

/-- Following steps goes over links as far as they may be followed. -/
theorem walk_eq (links : Nat) :
    system.walk true links = system.walkSteps true (system.onward links) := by
  cases links <;> rfl

/-- From what is no directory no step leads on. -/
theorem walkSteps_of_not_directory
    {onLink : List String → List Path.Step → Except FileFault Destination}
    {place : List String} (step : Path.Step) (rest : List Path.Step)
    (nowhere : ¬system.DirectoryAt place) :
    system.walkSteps true onLink place (step :: rest) = .error .notDirectory := by
  unfold walkSteps
  split
  · rename_i readable entries found
    exact absurd ⟨readable, congrArg _ found⟩ nowhere
  · rfl

/-- From a directory a step leads to what stands there. -/
theorem walkSteps_of_directory
    {onLink : List String → List Path.Step → Except FileFault Destination}
    {place : List String} (step : Path.Step) (rest : List Path.Step)
    (here : system.DirectoryAt place) :
    system.walkSteps true onLink place (step :: rest) =
      match step with
      | .stay => system.walkSteps true onLink place rest
      | .up => system.walkSteps true onLink place.dropLast rest
      | .down name =>
        if nameLimit < name.utf8ByteSize then .error .nameTooLong
        else match system.kindAt? (place ++ [name]) with
          | none => if rest.isEmpty then .ok (.absent place name) else .error .notFound
          | some (.link target) =>
            if target.isEmpty then .error .notFound
            else onLink (linkBase place target) (Path.steps target ++ rest)
          | some _ => system.walkSteps true onLink (place ++ [name]) rest := by
  obtain ⟨readable, kind⟩ := here
  obtain ⟨entries, found⟩ := nodeAt?_of_kindAt? kind
  rw [walkSteps, found]
  cases step with
  | stay => rfl
  | up => rfl
  | down name =>
    dsimp only
    rw [kindAt?, nodeAt?_append_singleton found]
    split
    · rfl
    · cases entries.lookup name with
      | none => rfl
      | some child => cases child <;> simp [FileNode.kind, linkBase]

/-- A step down that leads on goes to what has the name, or along the target of a link. -/
theorem cases_of_walkSteps_down
    {onLink : List String → List Path.Step → Except FileFault Destination}
    {place last : List String} {name : String} {rest : List Path.Step}
    (here : system.DirectoryAt place)
    (found : system.walkSteps true onLink place (.down name :: rest) = .ok (.found last)) :
    name.utf8ByteSize ≤ nameLimit ∧
      ((∃ target, system.kindAt? (place ++ [name]) = some (.link target) ∧ target ≠ "" ∧
          onLink (linkBase place target) (Path.steps target ++ rest) = .ok (.found last)) ∨
        ∃ kind, system.kindAt? (place ++ [name]) = some kind ∧ (∀ target, kind ≠ .link target) ∧
          system.walkSteps true onLink (place ++ [name]) rest = .ok (.found last)) := by
  rw [walkSteps_of_directory (.down name) rest here] at found
  dsimp only at found
  split at found
  · cases found
  rename_i short
  refine ⟨Nat.not_lt.mp short, ?_⟩
  split at found
  · split at found <;> cases found
  · rename_i target there
    split at found
    · cases found
    · rename_i some_path
      exact .inl ⟨target, there, by simpa using some_path, found⟩
  · rename_i kind noLink there
    exact .inr ⟨kind, there, fun target same => noLink target same, found⟩

/-- Where following steps succeeds there is a way, if there is one wherever following a link
succeeds. -/
theorem leads_of_walkSteps
    {onLink : List String → List Path.Step → Except FileFault Destination} {links : Nat}
    (ways : ∀ place steps last, onLink place steps = .ok (.found last) →
      ∃ fewer left, links = fewer + 1 ∧ system.Leads fewer place steps left last)
    {place last : List String} {steps : List Path.Step}
    (found : system.walkSteps true onLink place steps = .ok (.found last)) :
    ∃ left, system.Leads links place steps left last := by
  induction steps generalizing place with
  | nil =>
    cases found
    exact ⟨links, .done links _⟩
  | cons step rest ih =>
    by_cases here : system.DirectoryAt place
    · cases step with
      | stay =>
        rw [walkSteps_of_directory .stay rest here] at found
        obtain ⟨left, onward⟩ := ih found
        exact ⟨left, .stay here onward⟩
      | up =>
        rw [walkSteps_of_directory .up rest here] at found
        obtain ⟨left, onward⟩ := ih found
        exact ⟨left, .up here onward⟩
      | down name =>
        obtain ⟨short, ⟨target, there, some_path, found⟩ | ⟨kind, there, noLink, found⟩⟩ :=
          cases_of_walkSteps_down here found
        · obtain ⟨fewer, left, rfl, way⟩ := ways _ _ _ found
          obtain ⟨fewest, middle, along, onward⟩ := way.split
          exact ⟨left, .follow here short there some_path along onward⟩
        · obtain ⟨left, onward⟩ := ih found
          exact ⟨left, .down here short there noLink onward⟩
    · rw [walkSteps_of_not_directory step rest here] at found
      cases found

/-- Following steps goes along a way, and then along the steps that are left. -/
theorem Leads.walk_append {links left : Nat} {place last : List String} {steps : List Path.Step}
    (way : system.Leads links place steps left last) (more : List Path.Step) :
    system.walk true links place (steps ++ more) = system.walk true left last more := by
  -- The steps after a link's target are part of what is left, so these are arbitrary throughout.
  induction way generalizing more with
  | done links place => rfl
  | stay here _ ih =>
    rw [← ih more, walk_eq]
    exact walkSteps_of_directory .stay _ here
  | up here _ ih =>
    rw [← ih more, walk_eq]
    exact walkSteps_of_directory .up _ here
  | @down _ _ _ _ name _ kind here short there noLink _ ih =>
    rw [← ih more, walk_eq, List.cons_append, walkSteps_of_directory (.down name) _ here]
    dsimp only
    rw [if_neg (Nat.not_lt.mpr short), there]
    cases kind with
    | link target => exact absurd rfl (noLink target)
    | file content => rfl
    | directory readable => rfl
  | @follow _ _ _ _ _ _ name target rest here short there some_path _ _ ih_along ih =>
    rw [← ih more, ← ih_along, walk_eq, List.cons_append,
      walkSteps_of_directory (.down name) _ here]
    dsimp only
    rw [if_neg (Nat.not_lt.mpr short), there]
    dsimp only
    rw [if_neg (by simpa using some_path)]
    rfl

/-- Following steps succeeds exactly when there is a way. -/
theorem walk_eq_found_iff {links : Nat} {place last : List String} {steps : List Path.Step} :
    system.walk true links place steps = .ok (.found last) ↔
      ∃ left, system.Leads links place steps left last := by
  constructor
  · intro found
    induction links generalizing place last steps with
    | zero =>
      rw [walk_eq] at found
      exact leads_of_walkSteps (fun _ _ _ impossible => by cases impossible) found
    | succ links ih =>
      rw [walk_eq] at found
      refine leads_of_walkSteps (fun place steps last followed => ?_) found
      obtain ⟨left, way⟩ := ih followed
      exact ⟨links, left, rfl, way⟩
  · rintro ⟨left, way⟩
    rw [← List.append_nil steps, way.walk_append, walk_eq]
    rfl

end FileSystem

end Covenant
