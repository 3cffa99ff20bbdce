import Covenant.Proofs.Catalogue.Loading
import Mathlib.Data.List.Perm.Subperm

/-!
# Following paths through directories

A plan is made in one pass over a tree, which comes to an end whatever is in the tree. A load has no
tree at hand: it has paths, and asks at each of them anew where it leads and what is there, and a
link may lead it anywhere. `FileSystem.explore` is the load as it follows paths. Nothing in it keeps
it from going round in circles, so it is given a depth, past which it has no answer. It has one as
soon as the depth exceeds the number of entries below the directory, whatever the links among them
(`Catalogue.loadDirectory_terminates`), because it only goes into directories that are entries
themselves, and so down the tree.
-/
namespace Covenant

/-- What comes about when paths are followed through directories. -/
inductive Happening
  /-- The directory at a place is listed, or its listing is refused. -/
  | entered (place : List String)
  /-- Something is visited. -/
  | visited (visit : Visit)
deriving DecidableEq

namespace Happening

/-- The place of a directory that is entered. -/
def place? : Happening → Option (List String)
  | entered place => some place
  | visited _ => none

/-- What is visited. -/
def visit? : Happening → Option Visit
  | entered _ => none
  | visited visit => some visit

end Happening

/-- The directories that were entered, in order. -/
def enteredPlaces (trace : List Happening) : List (List String) :=
  trace.filterMap Happening.place?

/-- What was visited, in order. -/
def madeVisits (trace : List Happening) : List Visit := trace.filterMap Happening.visit?

/-- The path of a file that is registered. -/
def Visit.registered? : Visit → Option String
  | register path => some path
  | passOver _ => none
  | fail _ => none

/-- Whether a visit fails. -/
def Visit.isFailure : Visit → Bool
  | register _ => false
  | passOver _ => false
  | fail _ => true

/-- The files whose registration was attempted, in order. -/
def attempts (trace : List Happening) : List String :=
  (madeVisits trace).filterMap Visit.registered?

/-! ## Up to the first failure -/

/-- The visits up to the first that fails. -/
def upToFailure : List Visit → List Visit
  | [] => []
  | visit :: rest => visit :: if visit.isFailure then [] else upToFailure rest

/-- A part of the visits is made, from the first one on. -/
theorem upToFailure_isPrefix (visits : List Visit) : (upToFailure visits).IsPrefix visits := by
  induction visits with
  | nil => exact List.prefix_rfl
  | cons visit rest ih =>
    rw [upToFailure, List.prefix_cons_inj]
    split
    · exact List.nil_prefix
    · exact ih

/-- More visits follow those that are made unless one of those fails. -/
theorem upToFailure_append (visits more : List Visit) : upToFailure (visits ++ more) =
    upToFailure visits ++
      if (upToFailure visits).any Visit.isFailure then [] else upToFailure more := by
  induction visits with
  | nil => rfl
  | cons visit rest ih =>
    rw [List.cons_append, upToFailure, upToFailure]
    cases failed : visit.isFailure with
    | true => simp [failed]
    | false => simp [failed, ih]

/-- Visits that come after a failure make no difference. -/
theorem Catalogue.visit_upToFailure (system : FileSystem) (catalogue : Catalogue)
    (visits : List Visit) :
    catalogue.visit system (upToFailure visits) = catalogue.visit system visits := by
  induction visits generalizing catalogue with
  | nil => rfl
  | cons first rest ih =>
    cases first with
    | fail fault => rfl
    | passOver path =>
      change catalogue.visit system (.passOver path :: upToFailure rest) = _
      rw [visit, visit, ih]
    | register path =>
      change catalogue.visit system (.register path :: upToFailure rest) = _
      rw [visit, visit, ih]

namespace FileSystem

/-! ## Following paths -/

/-- What to do at an entry of a directory, given its name, its path and what it is itself, and how
to follow a path into a directory. -/
def exploreEntry (system : FileSystem) (enter : String → Option (List Happening))
    (name path : String) : NodeKind → Option (List Happening)
  | .link _ =>
    some <| (if system.leadsToDirectory path then [Visit.passOver path]
      else fileVisits name path).map .visited
  | .directory _ => enter path
  | .file _ => some ((fileVisits name path).map .visited)

/-- Go through the entries of a directory, given its path, up to the first failure. -/
def exploreEntries (system : FileSystem) (enter : String → Option (List Happening))
    (path : String) : List (String × NodeKind) → Option (List Happening)
  | [] => some []
  | (name, kind) :: rest =>
    (system.exploreEntry enter name (Path.join path name) kind).bind fun first =>
      if (madeVisits first).any Visit.isFailure then some first
      else (system.exploreEntries enter path rest).map (first ++ ·)

/-- Follow a path into a directory and on through what is in it, no deeper than given. -/
def explore (system : FileSystem) : Nat → String → Option (List Happening)
  | 0, _ => none
  | depth + 1, path =>
    match system.locate path with
    | .error _ => some []
    | .ok place =>
      match system.nodeAt? place with
      | some (.directory true entries) =>
        let listed := (NameMap.ofList entries).entries.map fun entry => (entry.1, entry.2.kind)
        (system.exploreEntries (explore system depth) path listed).map (.entered place :: ·)
      | some (.directory false _) => some [.entered place, .visited (.fail .permissionDenied)]
      | some (.file _) | some (.link _) => some [.visited (.fail .notDirectory)]
      | none => some []

variable {system : FileSystem} {place : List String} {trace more : List Happening}
  {within within' : List String → Prop}

/-! ### Directories that are entered -/

/-- Directories are entered in the order of the names that lead to them from a place, and only at
certain names. -/
def Enters (system : FileSystem) (place : List String) (within : List String → Prop)
    (trace : List Happening) : Prop :=
  ∃ below : List (List String), enteredPlaces trace = below.map (place ++ ·) ∧
    below.Pairwise (· < ·) ∧ ∀ names ∈ below, system.DirectoryAt (place ++ names) ∧ within names

namespace Enters

/-- No directory may be entered. -/
theorem none (nothing : enteredPlaces trace = []) : system.Enters place within trace :=
  ⟨[], nothing, .nil, List.forall_mem_nil _⟩

/-- Names may be described with less. -/
theorem imp (enters : system.Enters place within trace)
    (weaker : ∀ names, within names → within' names) : system.Enters place within' trace := by
  obtain ⟨below, entered, sorted, directories⟩ := enters
  exact ⟨below, entered, sorted, fun names member =>
    (directories names member).imp_right (weaker names)⟩

/-- What is entered below an entry is entered below its directory. -/
theorem under {name : String} (enters : system.Enters (place ++ [name]) within trace) :
    system.Enters place (fun names => ∃ rest, names = name :: rest) trace := by
  obtain ⟨below, entered, sorted, directories⟩ := enters
  refine ⟨below.map (name :: ·), ?_, ?_, fun _ member => ?_⟩
  · rw [entered, List.map_map]
    exact List.map_congr_left fun names _ => (List.append_cons place name names).symm
  · exact List.pairwise_map.mpr <|
      sorted.imp fun before => List.cons_lt_cons_iff.mpr (.inr ⟨rfl, before⟩)
  · obtain ⟨names, present, rfl⟩ := List.mem_map.mp member
    rw [List.append_cons]
    exact ⟨(directories names present).1, names, rfl⟩

/-- What is entered later is entered at later names. -/
theorem append (first : system.Enters place within trace)
    (second : system.Enters place within' more)
    (before : ∀ names names', within names → within' names' → names < names') :
    system.Enters place (fun names => within names ∨ within' names) (trace ++ more) := by
  obtain ⟨below, entered, sorted, directories⟩ := first
  obtain ⟨below', entered', sorted', directories'⟩ := second
  refine ⟨below ++ below', ?_, ?_, List.forall_mem_append.mpr ⟨fun names member => ?_,
    fun names member => ?_⟩⟩
  · rw [enteredPlaces, List.filterMap_append, List.map_append, ← entered, ← entered']
    rfl
  · exact List.pairwise_append.mpr ⟨sorted, sorted', fun _ member _ member' =>
      before _ _ (directories _ member).2 (directories' _ member').2⟩
  · exact (directories names member).imp_right .inl
  · exact (directories' names member).imp_right .inr

/-- A directory is entered before those below it. -/
theorem cons (here : system.DirectoryAt place)
    (enters : system.Enters place (fun names => ∃ name rest, names = name :: rest) trace) :
    system.Enters place (fun _ => True) (.entered place :: trace) := by
  obtain ⟨below, entered, sorted, directories⟩ := enters
  refine ⟨[] :: below, ?_, ?_, ?_⟩
  · rw [List.map_cons, List.append_nil, ← entered]
    rfl
  · refine List.pairwise_cons.mpr ⟨fun names member => ?_, sorted⟩
    obtain ⟨_, name, rest, rfl⟩ := directories names member
    exact List.nil_lt_cons _ _
  · refine List.forall_mem_cons.mpr ⟨⟨by rwa [List.append_nil], trivial⟩, fun names member => ?_⟩
    exact ⟨(directories names member).1, trivial⟩

/-- No directory is entered twice. -/
theorem nodup (enters : system.Enters place within trace) : (enteredPlaces trace).Nodup := by
  obtain ⟨below, entered, sorted, _⟩ := enters
  rw [entered]
  exact List.pairwise_map.mpr <| sorted.nodup.imp
    fun different same => different (List.append_cancel_left same)

/-- What is entered is a directory at or below the place. -/
theorem directoryAt (enters : system.Enters place within trace) :
    ∀ entered ∈ enteredPlaces trace,
      system.DirectoryAt entered ∧ ∃ names, entered = place ++ names := by
  obtain ⟨below, entered, _, directories⟩ := enters
  intro _ member
  rw [entered] at member
  obtain ⟨names, present, rfl⟩ := List.mem_map.mp member
  exact ⟨(directories names present).1, names, rfl⟩

end Enters

/-! ### What following paths comes to -/

/-- What following paths at and below a place comes to, if something is planned there. -/
structure Explores (system : FileSystem) (place : List String) (planned : List Visit)
    (trace : List Happening) : Prop where
  /-- What is planned is done up to the first failure. -/
  visits : madeVisits trace = upToFailure planned
  /-- Directories are entered in order. -/
  entered : system.Enters place (fun _ => True) trace

/-- Paths are followed to an end at every depth from some depth on, and all that is done on the way
is what is planned. -/
def Completes (system : FileSystem) (bound : Nat) (answer : Nat → Option (List Happening))
    (place : List String) (planned : List Visit) : Prop :=
  ∃ trace, (∀ depth, bound ≤ depth → answer depth = some trace) ∧
    system.Explores place planned trace

/-- No directory is entered where visits are just made. -/
theorem explores_visited (place : List String) {planned : List Visit}
    (complete : upToFailure planned = planned) :
    system.Explores place planned (planned.map .visited) := by
  have visits : madeVisits (planned.map .visited) = planned := by
    rw [madeVisits, List.filterMap_map]
    exact List.filterMap_some
  have entered : enteredPlaces (planned.map .visited) = [] := by
    rw [enteredPlaces, List.filterMap_map]
    exact List.filterMap_eq_nil_iff.mpr fun _ _ => rfl
  exact ⟨visits.trans complete.symm, .none entered⟩

/-- Visiting a file fails nowhere. -/
theorem upToFailure_fileVisits (name path : String) :
    upToFailure (fileVisits name path) = fileVisits name path := by
  unfold fileVisits
  split <;> rfl

/-- Going through entries comes to what going into each of them comes to, up to the first failure.
Whatever is entered below one of them has its name first. -/
theorem exploreEntries_eq {bound : Nat} {path : String} {entries : List (String × FileNode)}
    (ascending : entries.Pairwise (·.1 < ·.1))
    (each : ∀ entry ∈ entries, system.Completes bound (fun depth =>
        system.exploreEntry (system.explore depth) entry.1 (Path.join path entry.1) entry.2.kind)
      (place ++ [entry.1]) (system.visitsAt (Path.join path entry.1) entry.1 entry.2)) :
    ∃ trace, (∀ depth, bound ≤ depth → system.exploreEntries (system.explore depth) path
        (entries.map fun entry => (entry.1, entry.2.kind)) = some trace) ∧
      madeVisits trace = upToFailure (entries.map fun entry =>
        system.visitsAt (Path.join path entry.1) entry.1 entry.2).flatten ∧
      system.Enters place (fun names => ∃ entry ∈ entries, ∃ rest, names = entry.1 :: rest)
        trace := by
  induction entries with
  | nil => exact ⟨[], fun _ _ => rfl, rfl, .none rfl⟩
  | cons entry rest ih =>
    obtain ⟨name, child⟩ := entry
    obtain ⟨before, later⟩ := List.pairwise_cons.mp ascending
    obtain ⟨⟨first, own, visits, entered⟩, others⟩ := List.forall_mem_cons.mp each
    have answers (depth : Nat) (enough : bound ≤ depth) : system.exploreEntry
        (system.explore depth) name (Path.join path name) child.kind = some first :=
      own depth enough
    obtain ⟨more, answers', visits', entered'⟩ := ih later others
    have planned : upToFailure (((name, child) :: rest).map fun entry =>
        system.visitsAt (Path.join path entry.1) entry.1 entry.2).flatten =
          madeVisits first ++
            if (madeVisits first).any Visit.isFailure then [] else madeVisits more := by
      rw [List.map_cons, List.flatten_cons, upToFailure_append, ← visits, ← visits']
    cases failed : (madeVisits first).any Visit.isFailure with
    | true =>
      refine ⟨first, fun depth enough => ?_, ?_, ?_⟩
      · rw [List.map_cons, exploreEntries, answers depth enough, Option.bind_some, failed]
        rfl
      · rw [planned, failed]
        exact (List.append_nil _).symm
      · refine entered.under.imp fun names own => ?_
        exact ⟨_, List.mem_cons_self, own⟩
    | false =>
      refine ⟨first ++ more, fun depth enough => ?_, ?_, ?_⟩
      · rw [List.map_cons, exploreEntries, answers depth enough, Option.bind_some, failed,
          answers' depth enough]
        rfl
      · rw [planned, failed]
        exact List.filterMap_append
      · refine (entered.under.append entered' ?_).imp ?_
        · rintro _ _ ⟨below, rfl⟩ ⟨entry, present, below', rfl⟩
          exact List.cons_lt_cons_iff.mpr (.inl (before entry present))
        · rintro names (own | ⟨entry, present, below⟩)
          · exact ⟨_, List.mem_cons_self, own⟩
          · exact ⟨entry, List.mem_cons_of_mem _ present, below⟩

/-- A path to an entry is followed to the end, if paths into a directory are. -/
theorem WellFormed.explore_entry (wellFormed : system.WellFormed) {path name : String}
    {child : FileNode} (located : system.locate path = .ok place)
    (there : system.kindAt? (place ++ [name]) = some child.kind)
    (directory : child.isDirectory = true →
      system.locate (Path.join path name) = .ok (place ++ [name]) →
      system.Completes child.places.length (system.explore · (Path.join path name))
        (place ++ [name]) (system.visits child (Path.join path name))) :
    system.Completes child.places.length (fun depth =>
        system.exploreEntry (system.explore depth) name (Path.join path name) child.kind)
      (place ++ [name]) (system.visitsAt (Path.join path name) name child) := by
  cases child with
  | file content =>
    exact ⟨_, fun _ _ => rfl, explores_visited _ (upToFailure_fileVisits _ _)⟩
  | link target =>
    refine ⟨_, fun _ _ => rfl, explores_visited _ ?_⟩
    rw [visitsAt]
    split
    · rfl
    · exact upToFailure_fileVisits _ _
  | directory readable entries =>
    change system.Completes _ _ _ (if system.pathExists (Path.join path name) then
      system.visits (.directory readable entries) (Path.join path name) else [])
    -- A path that has grown too long leads nowhere, and then the directory is left out.
    cases reached : system.locate (Path.join path name) with
    | ok last =>
      have short := (locate_eq_ok_iff.mp reached).2.1
      have own := (wellFormed.locate_descend_iff located there
        fun _ same => by cases same).mpr short
      obtain rfl : place ++ [name] = last := Except.ok.inj (own.symm.trans reached)
      rw [if_pos (pathExists_iff.mpr ⟨_, reached⟩)]
      exact directory rfl reached
    | error fault =>
      have missing : ¬system.pathExists (Path.join path name) = true := fun followed => by
        obtain ⟨last, found⟩ := pathExists_iff.mp followed
        cases reached.symm.trans found
      rw [if_neg missing]
      refine ⟨[], fun depth enough => ?_, explores_visited _ rfl⟩
      cases depth with
      | zero => cases enough
      | succ below =>
        change system.explore (below + 1) (Path.join path name) = some []
        rw [explore, reached]

/-- What is followed to an end from some depth on is so from any greater one on. -/
theorem Completes.mono {bound bound' : Nat} {answer : Nat → Option (List Happening)}
    {planned : List Visit} (completes : system.Completes bound answer place planned)
    (less : bound ≤ bound') : system.Completes bound' answer place planned := by
  obtain ⟨trace, answers, explores⟩ := completes
  exact ⟨trace, fun depth enough => answers depth (Nat.le_trans less enough), explores⟩

/-- A directory is entered even if its listing is refused. -/
theorem completes_of_refused {entries : List (String × FileNode)} {path : String} (bound : Nat)
    (found : system.nodeAt? place = some (.directory false entries))
    (located : system.locate path = .ok place) :
    system.Completes (bound + 1) (system.explore · path) place
      (system.visits (.directory false entries) path) := by
  refine ⟨[.entered place, .visited (.fail .permissionDenied)], fun depth enough => ?_, ?_, ?_⟩
  · obtain ⟨fewer, rfl⟩ := Nat.exists_eq_add_of_le' enough
    change system.explore (fewer + bound + 1) path = _
    rw [explore, located]
    dsimp only
    rw [found]
  · rw [visits]
    rfl
  · exact .cons ⟨false, congrArg _ found⟩ (.none rfl)

/-- A directory is gone through to the end if the paths to its entries are followed to the end. -/
theorem completes_of_entries {entries : List (String × FileNode)} {path : String} {bound : Nat}
    (found : system.nodeAt? place = some (.directory true entries))
    (located : system.locate path = .ok place)
    (each : ∀ entry ∈ (NameMap.ofList entries).entries, system.Completes bound (fun depth =>
        system.exploreEntry (system.explore depth) entry.1 (Path.join path entry.1) entry.2.kind)
      (place ++ [entry.1]) (system.visitsAt (Path.join path entry.1) entry.1 entry.2)) :
    system.Completes (bound + 1) (system.explore · path) place
      (system.visits (.directory true entries) path) := by
  obtain ⟨trace, answers, made, entered⟩ :=
    exploreEntries_eq (NameMap.ofList entries).ascending each
  have here : system.DirectoryAt place := ⟨true, congrArg _ found⟩
  refine ⟨.entered place :: trace, fun depth enough => ?_, ?_, .cons here (entered.imp ?_)⟩
  · obtain ⟨fewer, rfl⟩ := Nat.exists_eq_add_of_le' enough
    change system.explore (fewer + bound + 1) path = _
    rw [explore, located]
    dsimp only
    rw [found]
    dsimp only
    rw [answers (fewer + bound) (Nat.le_add_left _ _)]
    rfl
  · rw [visits, entryVisits_eq, NameMap.values_ofList_map fun entry =>
      system.visitsAt (Path.join path entry.1) entry.1 entry.2]
    exact made
  · rintro names ⟨entry, _, rest, same⟩
    exact ⟨entry.1, rest, same⟩

/-- A directory is gone through to the end by a path that leads to it, if as many steps down may be
made as there are entries at and below it. -/
theorem WellFormed.explore_directory (wellFormed : system.WellFormed) {node : FileNode}
    (node_wellFormed : node.WellFormed) {place : List String} {path : String}
    (found : system.nodeAt? place = some node) (isDirectory : node.isDirectory = true)
    (located : system.locate path = .ok place) :
    system.Completes node.places.length (system.explore · path) place
      (system.visits node path) := by
  induction node_wellFormed generalizing place path with
  | file content => cases isDirectory
  | link target => cases isDirectory
  | directory readable entries distinct named inside ih =>
    rw [FileNode.places, List.length_cons]
    cases readable with
    | false => exact completes_of_refused _ found located
    | true =>
      refine completes_of_entries found located fun entry member => ?_
      have present := (NameMap.mem_entries_ofList distinct).mp member
      have at_name : system.nodeAt? (place ++ [entry.1]) = some entry.2 :=
        (nodeAt?_append_singleton found _).trans
          ((NameMap.lookup_eq_some_iff distinct).mpr present)
      exact (wellFormed.explore_entry located (congrArg _ at_name) (ih _ present at_name)).mono
        (FileNode.length_places_le present)

/-! ## Entries below a directory -/

/-- The names that lead from a directory down to the entries in it and in the directories in it,
past no link. -/
def entriesBelow (system : FileSystem) (directory : String) : List (List String) :=
  match system.locate directory with
  | .error _ => []
  | .ok place => ((system.nodeAt? place).elim [] fun node => node.places.tail).map (·.1)

variable {directory : String} {names : List String}

/-- The entries below a directory are all that stands below it. -/
theorem WellFormed.mem_entriesBelow (wellFormed : system.WellFormed)
    (located : system.locate directory = .ok place) : names ∈ system.entriesBelow directory ↔
      names ≠ [] ∧ ∃ kind, system.kindAt? (place ++ names) = some kind := by
  have listed (kind : NodeKind) :
      (names, kind) ∈ (system.nodeAt? place).elim [] (fun node => node.places.tail) ↔
        names ≠ [] ∧ system.kindAt? (place ++ names) = some kind := by
    rw [kindAt?, nodeAt?_append]
    cases found : system.nodeAt? place with
    | none => simp
    | some node =>
      exact FileNode.mem_tail_places.trans
        (and_congr_right' (wellFormed.root.descendant found).2.mem_places_iff)
  unfold entriesBelow
  rw [located]
  simp only [List.mem_map, Prod.exists, exists_and_right, exists_eq_right, listed, exists_and_left]

/-- Entries are below a directory that a path leads to. -/
theorem WellFormed.areNames_of_mem_entriesBelow (wellFormed : system.WellFormed)
    (member : names ∈ system.entriesBelow directory) :
    directory ≠ "" ∧ ∀ name ∈ names, Path.IsName name := by
  cases located : system.locate directory with
  | error fault =>
    unfold entriesBelow at member
    rw [located] at member
    cases member
  | ok place =>
    obtain ⟨_, _, there⟩ := (wellFormed.mem_entriesBelow located).mp member
    exact ⟨(locate_eq_ok_iff.mp located).2.2.1, wellFormed.areNames there⟩

/-- No entry is listed twice. -/
theorem WellFormed.nodup_entriesBelow (wellFormed : system.WellFormed) :
    (system.entriesBelow directory).Nodup := by
  unfold entriesBelow
  cases system.locate directory with
  | error fault => exact List.nodup_nil
  | ok place =>
    dsimp only
    cases found : system.nodeAt? place with
    | none => exact List.nodup_nil
    | some node =>
      have nodup := (wellFormed.root.descendant found).2.nodup_places
      exact nodup.sublist ((List.tail_sublist _).map _)

/-! ## A load -/

/-- What is planned at a node that a path leads to. -/
theorem plan_of_node {node : FileNode} (located : system.locate directory = .ok place)
    (found : system.nodeAt? place = some node) :
    system.plan directory = system.visits node directory := by
  unfold plan
  rw [located]
  dsimp only
  rw [found]

/-- At a node that is no directory nothing is done but fail. -/
theorem explore_of_notDirectory {node : FileNode} (located : system.locate directory = .ok place)
    (found : system.nodeAt? place = some node) (notDirectory : node.isDirectory = false) :
    system.visits node directory = [.fail .notDirectory] ∧
      ∀ depth, system.explore (depth + 1) directory = some [.visited (.fail .notDirectory)] := by
  cases node with
  | directory readable entries => cases notDirectory
  | file content => simp [explore, located, found, visits]
  | link target => simp [explore, located, found, visits]

/-- A load by following paths comes to an end and visits what is planned up to the first failure.
It enters directories at and below the one it starts from, each once. -/
theorem WellFormed.explore_plan (wellFormed : system.WellFormed) (directory : String) :
    ∃ trace, (∀ depth, (system.entriesBelow directory).length < depth →
        system.explore depth directory = some trace) ∧
      madeVisits trace = upToFailure (system.plan directory) ∧ (enteredPlaces trace).Nodup ∧
      ∀ entered ∈ enteredPlaces trace, system.DirectoryAt entered ∧
        ∃ start names, system.locate directory = .ok start ∧ entered = start ++ names := by
  have succ {count depth : Nat} (enough : count < depth) : ∃ fewer, depth = fewer + 1 :=
    ⟨depth - 1, (Nat.succ_pred_eq_of_pos (Nat.zero_lt_of_lt enough)).symm⟩
  cases located : system.locate directory with
  | error fault =>
    refine ⟨[], fun depth enough => ?_, ?_, List.nodup_nil, fun _ member => by cases member⟩
    · obtain ⟨fewer, rfl⟩ := succ enough
      rw [explore, located]
    · rw [plan, located]
      rfl
  | ok start =>
    obtain ⟨kind, present⟩ := wellFormed.exists_kind located
    obtain ⟨node, found, _⟩ := Option.map_eq_some_iff.mp present
    rw [plan_of_node located found]
    cases isDirectory : node.isDirectory with
    | false =>
      obtain ⟨planned, answers⟩ := explore_of_notDirectory located found isDirectory
      rw [planned]
      refine ⟨[.visited (.fail .notDirectory)], fun depth enough => ?_, rfl, List.nodup_nil,
        fun _ member => by cases member⟩
      obtain ⟨fewer, rfl⟩ := succ enough
      exact answers fewer
    | true =>
      obtain ⟨trace, answers, made, enters⟩ :=
        wellFormed.explore_directory (wellFormed.root.descendant found).2 found isDirectory located
      refine ⟨trace, fun depth enough => answers depth ?_, made, enters.nodup,
        fun entered member => ?_⟩
      · unfold entriesBelow at enough
        rw [located] at enough
        dsimp only at enough
        rw [found, List.length_map, Option.elim, List.length_tail] at enough
        exact Nat.le_of_pred_lt enough
      · obtain ⟨here, names, same⟩ := enters.directoryAt entered member
        exact ⟨here, start, names, rfl, same⟩

/-- Visits to files below a directory register them where the names lead. -/
theorem filterMap_registered? {items : List (List String × Visit)}
    (paths : ∀ item ∈ items, ∀ path, item.2 = .register path →
      path = Path.descend directory item.1) :
    (items.map (·.2)).filterMap Visit.registered? =
      (Catalogue.registeredNames items).map (Path.descend directory) := by
  induction items with
  | nil => rfl
  | cons item rest ih =>
    obtain ⟨names, visit⟩ := item
    obtain ⟨own, others⟩ := List.forall_mem_cons.mp paths
    have later := ih others
    cases visit with
    | fail fault => exact later
    | passOver path => exact later
    | register path =>
      have same : path = Path.descend directory names := own path rfl
      subst same
      exact congrArg (Path.descend directory names :: ·) later

/-- The files that a plan registers are entries below the directory, each once. -/
theorem WellFormed.registered_plan (wellFormed : system.WellFormed) (directory : String) :
    ∃ files : List (List String), files.Nodup ∧
      (∀ names ∈ files, names ∈ system.entriesBelow directory) ∧
      (system.plan directory).filterMap Visit.registered? =
        files.map (Path.descend directory) := by
  cases located : system.locate directory with
  | error fault =>
    refine ⟨[], List.nodup_nil, List.forall_mem_nil _, ?_⟩
    rw [plan, located]
    rfl
  | ok start =>
    by_cases here : system.DirectoryAt start
    · obtain ⟨items, listed, ascending, planned⟩ := wellFormed.ordered_plan located here
      refine ⟨Catalogue.registeredNames items,
        (Catalogue.pairwise_registeredNames ascending).nodup,
        fun names member => ?_, ?_⟩
      · obtain ⟨path, item⟩ := Catalogue.mem_registeredNames.mp member
        obtain ⟨_, there, _, last, ends, _⟩ := Plans.registered ((planned _).mp item)
        refine (wellFormed.mem_entriesBelow located).mpr ⟨fun empty => ?_, there⟩
        rw [empty] at ends
        cases ends
      · rw [← listed]
        refine filterMap_registered? fun item member path registers => ?_
        have plan := (planned item).mp member
        rw [registers] at plan
        exact plan.registered.1
    · refine ⟨[], List.nodup_nil, List.forall_mem_nil _, ?_⟩
      obtain ⟨kind, present⟩ := wellFormed.exists_kind located
      obtain ⟨node, found, _⟩ := Option.map_eq_some_iff.mp present
      have notDirectory : node.isDirectory = false := by
        cases node with
        | directory readable entries => exact absurd ⟨readable, congrArg _ found⟩ here
        | file content => rfl
        | link target => rfl
      rw [plan_of_node located found, (explore_of_notDirectory located found notDirectory).1]
      rfl

end FileSystem

namespace Catalogue

open FileSystem

variable {system : FileSystem}

/-- Loading a directory comes to an end, whatever links there are. It can be done by following paths
no deeper than there are entries below the directory, and then every depth from there on gives the
same happenings, of which every load is made. The directories that are entered are directories
themselves, at or below the place that the path leads to, and no two are the same. The files that
are attempted are entries below the directory, each of them at most once, so there are no more
attempts than entries. -/
theorem loadDirectory_terminates (wellFormed : system.WellFormed) (directory : String) :
    (system.entriesBelow directory).Nodup ∧ ∃ trace : List Happening,
      (∀ depth, (system.entriesBelow directory).length < depth →
        system.explore depth directory = some trace) ∧
      (∀ catalogue : Catalogue, catalogue.loadDirectory system directory =
        catalogue.visit system (madeVisits trace)) ∧
      (enteredPlaces trace).Nodup ∧
      (∀ entered ∈ enteredPlaces trace, system.DirectoryAt entered ∧
        ∃ start names, system.locate directory = .ok start ∧ entered = start ++ names) ∧
      (attempts trace).Nodup ∧
      (attempts trace).length ≤ (system.entriesBelow directory).length ∧
      ∃ attempted : List (List String), attempted.Nodup ∧
        (∀ names ∈ attempted, names ∈ system.entriesBelow directory) ∧
        attempts trace = attempted.map (Path.descend directory) := by
  obtain ⟨trace, answers, made, entered_once, entered⟩ := wellFormed.explore_plan directory
  obtain ⟨files, nodup, present, registered⟩ := wellFormed.registered_plan directory
  have loads (catalogue : Catalogue) : catalogue.loadDirectory system directory =
      catalogue.visit system (madeVisits trace) := by
    rw [made, visit_upToFailure]
    rfl
  -- The attempts are the first ones of those planned.
  have first : (attempts trace).IsPrefix (files.map (Path.descend directory)) := by
    rw [attempts, made, ← registered]
    exact (upToFailure_isPrefix _).filterMap _
  obtain ⟨attempted, some_files, attempts_eq⟩ : ∃ attempted : List (List String),
      attempted.Sublist files ∧ attempts trace = attempted.map (Path.descend directory) := by
    refine ⟨files.take (attempts trace).length, List.take_sublist _ _, ?_⟩
    rw [List.map_take]
    exact List.prefix_iff_eq_take.mp first
  have attempted_once : attempted.Nodup := nodup.sublist some_files
  have below (names : List String) (member : names ∈ attempted) :
      names ∈ system.entriesBelow directory := present names (some_files.subset member)
  refine ⟨wellFormed.nodup_entriesBelow, trace, answers, loads, entered_once, entered, ?_, ?_,
    attempted, attempted_once, below, attempts_eq⟩
  · rw [attempts_eq]
    refine List.pairwise_map.mpr (attempted_once.imp_of_mem ?_)
    intro names others member member' different same
    obtain ⟨some_path, areNames⟩ := wellFormed.areNames_of_mem_entriesBelow (below _ member)
    obtain ⟨_, areNames'⟩ := wellFormed.areNames_of_mem_entriesBelow (below _ member')
    exact different (Path.descend_inj some_path areNames areNames' same)
  · rw [attempts_eq, List.length_map]
    exact (List.subperm_of_subset attempted_once below).length_le

/-- A directory of protocols, a directory in it that has the name of a file, and links to a
directory above, to a directory beside, to a file, to nothing, to itself and to each other. The
directory is reached by a link too. -/
def linkedFiles : FileSystem where
  root := .directory true [("start", .link "protocols"), ("protocols", .directory true [
    ("io", .directory true [("above", .link ".."), ("close.yml", protocolFile "close")]),
    ("open.yaml", .directory true [("open.yaml", protocolFile "open")]),
    ("beside.yaml", .link "io"), ("file.yaml", .link "io/close.yml"),
    ("self.yaml", .link "self.yaml"), ("there.yaml", .link "back.yaml"),
    ("back.yaml", .link "there.yaml"), ("gone.yml", .link "gone"), ("notes.txt", .file .empty)])]

/-- The directories with links are well formed. -/
theorem linkedFiles_wellFormed : linkedFiles.WellFormed := by
  refine ⟨.directory _ _ (by decide) (by decide +kernel) ?_, true, rfl⟩
  refine List.forall_mem_cons.mpr ⟨.link _, List.forall_mem_singleton.mpr ?_⟩
  refine .directory _ _ (by decide) (by decide +kernel) ?_
  simp only [List.forall_mem_cons, List.not_mem_nil, false_implies, implies_true, and_true]
  refine ⟨.directory _ _ (by decide) (by decide +kernel) ?_,
    .directory _ _ (by decide) (by decide +kernel) ?_, .link _, .link _, .link _, .link _, .link _,
    .link _, .file _⟩
  · exact List.forall_mem_cons.mpr ⟨.link _, List.forall_mem_singleton.mpr (.file _)⟩
  · exact List.forall_mem_singleton.mpr (.file _)

/-- Of the twelve entries seven are attempted. The three directories are entered once each, and the
one with the name of a file is not attempted as one; a link is attempted if it leads to a file or
nowhere. -/
theorem loadDirectory_terminates_linked :
    linkedFiles.WellFormed ∧ (linkedFiles.entriesBelow "start").length = 12 ∧
    ∃ trace, (∀ depth, 12 < depth → linkedFiles.explore depth "start" = some trace) ∧
      (∀ catalogue : Catalogue, catalogue.loadDirectory linkedFiles "start" =
        catalogue.visit linkedFiles (madeVisits trace)) ∧
      enteredPlaces trace =
        [["protocols"], ["protocols", "io"], ["protocols", "open.yaml"]] ∧
      attempts trace = ["start/back.yaml", "start/file.yaml", "start/gone.yml",
        "start/io/close.yml", "start/open.yaml/open.yaml", "start/self.yaml",
        "start/there.yaml"] ∧
      (attempts trace).Nodup := by
  have count : (linkedFiles.entriesBelow "start").length = 12 := by decide +kernel
  obtain ⟨_, trace, answers, loads, _, _, nodup, _⟩ :=
    loadDirectory_terminates linkedFiles_wellFormed "start"
  rw [count] at answers
  have found : (linkedFiles.explore 13 "start").map enteredPlaces = some
        [["protocols"], ["protocols", "io"], ["protocols", "open.yaml"]] ∧
      (linkedFiles.explore 13 "start").map attempts = some ["start/back.yaml", "start/file.yaml",
        "start/gone.yml", "start/io/close.yml", "start/open.yaml/open.yaml", "start/self.yaml",
        "start/there.yaml"] := by
    decide +kernel
  rw [answers 13 (by decide)] at found
  exact ⟨linkedFiles_wellFormed, count, trace, answers, loads, Option.some.inj found.1,
    Option.some.inj found.2, nodup⟩

end Catalogue

end Covenant
