import Covenant.Catalogue.Load
import Covenant.Proofs.FileSystem.Locate

/-!
# The plan of a load

A directory is planned entry by entry, and the plans of the directories in it are put where their
names stand. Seen from above, every visit belongs to the names that lead to what is visited
(`FileSystem.Plans`), and the whole plan is in ascending order of those names
(`FileSystem.ordered_plan`). As names in ascending order can be listed in one way only, the plan
does not depend on the order in which a directory has its entries.
-/
namespace Covenant

/-- Visits belong to names in strictly ascending order, each visit to the names that it is planned
for. -/
def Ordered (visits : List Visit) (planned : List String → Visit → Prop) : Prop :=
  ∃ items : List (List String × Visit), items.map (·.2) = visits ∧
    items.Pairwise (·.1 < ·.1) ∧ ∀ item, item ∈ items ↔ planned item.1 item.2

namespace Ordered

variable {visits others : List Visit} {planned planned' : List String → Visit → Prop}

/-- What is planned can be said in other words. -/
theorem congr (ordered : Ordered visits planned)
    (same : ∀ names visit, planned names visit ↔ planned' names visit) :
    Ordered visits planned' := by
  obtain ⟨items, listed, ascending, members⟩ := ordered
  exact ⟨items, listed, ascending, fun item => (members item).trans (same _ _)⟩

/-- Nothing is visited if nothing is planned. -/
theorem nil (nothing : ∀ names visit, ¬planned names visit) : Ordered [] planned :=
  ⟨[], rfl, .nil, fun _ => ⟨nofun, fun plan => absurd plan (nothing _ _)⟩⟩

/-- One thing is visited if it is all that is planned. -/
theorem singleton (first : List String) {only : Visit}
    (alone : ∀ names visit, planned names visit ↔ names = first ∧ visit = only) :
    Ordered [only] planned := by
  refine ⟨[(first, only)], rfl, List.pairwise_singleton _ _, fun item => ?_⟩
  rw [List.mem_singleton, alone, Prod.ext_iff]

/-- Visits to the entries of a directory, in the order of their names, are in order. -/
theorem flatten (inside : String → List String → Visit → Prop)
    {entries : List (String × List Visit)} (ascending : entries.Pairwise (·.1 < ·.1))
    (each : ∀ entry ∈ entries, Ordered entry.2 (inside entry.1)) :
    Ordered (entries.map (·.2)).flatten fun names visit =>
      ∃ name rest, names = name :: rest ∧ name ∈ entries.map (·.1) ∧ inside name rest visit := by
  induction entries with
  | nil => exact .nil fun _ _ ⟨_, _, _, member, _⟩ => absurd member List.not_mem_nil
  | cons head tail ih =>
    obtain ⟨above, later⟩ := List.pairwise_cons.mp ascending
    obtain ⟨own, more⟩ := List.forall_mem_cons.mp each
    obtain ⟨items, listed, sorted, members⟩ := own
    obtain ⟨items', listed', sorted', members'⟩ := ih later more
    -- All names below the first entry start with its name, and those below the others with more.
    refine ⟨items.map (fun item => (head.1 :: item.1, item.2)) ++ items', ?_, ?_, fun item => ?_⟩
    · rw [List.map_append, List.map_map, listed', List.map_cons, List.flatten_cons, ← listed]
      rfl
    · refine List.pairwise_append.mpr ⟨List.pairwise_map.mpr (sorted.imp fun below => ?_), sorted',
        fun item member item' member' => ?_⟩
      · exact List.cons_lt_cons_iff.mpr (.inr ⟨rfl, below⟩)
      · obtain ⟨old, _, rfl⟩ := List.mem_map.mp member
        obtain ⟨name, rest, same, found, _⟩ := (members' item').mp member'
        obtain ⟨entry, present, rfl⟩ := List.mem_map.mp found
        rw [same]
        exact List.cons_lt_cons_iff.mpr (.inl (above entry present))
    · rw [List.mem_append, List.mem_map, members', List.map_cons]
      constructor
      · rintro (⟨old, member, rfl⟩ | ⟨name, rest, same, found, plan⟩)
        · exact ⟨head.1, old.1, rfl, List.mem_cons_self, (members old).mp member⟩
        · exact ⟨name, rest, same, List.mem_cons_of_mem _ found, plan⟩
      · rintro ⟨name, rest, same, found, plan⟩
        rcases List.mem_cons.mp found with rfl | found
        · exact .inl ⟨(rest, item.2), (members _).mpr plan, Prod.ext same.symm rfl⟩
        · exact .inr ⟨name, rest, same, found, plan⟩

/-- The same things are planned in one order only. -/
theorem unique (ordered : Ordered visits planned) (ordered' : Ordered others planned) :
    visits = others := by
  obtain ⟨items, rfl, ascending, members⟩ := ordered
  obtain ⟨items', rfl, ascending', members'⟩ := ordered'
  rw [ascending.eq_of_mem_iff ascending' fun item => (members item).trans (members' item).symm]

end Ordered

namespace FileSystem

variable {system : FileSystem}

/-- A path leads to a directory when one stands where it leads. -/
theorem leadsToDirectory_iff {path : String} : system.leadsToDirectory path = true ↔
    ∃ place, system.locate path = .ok place ∧ system.DirectoryAt place := by
  unfold leadsToDirectory DirectoryAt kindAt?
  cases system.locate path with
  | error fault => exact ⟨nofun, nofun⟩
  | ok place =>
    simp only [Except.ok.injEq, exists_eq_left']
    cases system.nodeAt? place with
    | none => exact ⟨nofun, nofun⟩
    | some node =>
      cases node with
      | directory readable entries => exact ⟨fun _ => ⟨readable, rfl⟩, fun _ => rfl⟩
      | file content => exact ⟨nofun, nofun⟩
      | link target => exact ⟨nofun, nofun⟩

/-- What is planned at names below a directory, given the place and the path of the directory. -/
def Plans (system : FileSystem) : List String → String → List String → Visit → Prop
  | place, _, [], visit =>
    system.kindAt? place = some (.directory false) ∧ visit = .fail .permissionDenied
  | place, path, name :: rest, visit =>
    system.kindAt? place = some (.directory true) ∧
    match system.kindAt? (place ++ [name]) with
    | none => False
    | some (.directory _) =>
      system.pathExists (Path.join path name) = true ∧
        Plans system (place ++ [name]) (Path.join path name) rest visit
    | some (.link _) =>
      rest = [] ∧
        if system.leadsToDirectory (Path.join path name) then
          visit = .passOver (Path.join path name)
        else Path.isYaml name = true ∧ visit = .register (Path.join path name)
    | some (.file _) =>
      rest = [] ∧ Path.isYaml name = true ∧ visit = .register (Path.join path name)

/-- Below a directory something is planned only at the names of its entries. -/
theorem Plans.exists_node {place : List String} {path name : String} {rest : List String}
    {visit : Visit} (plan : system.Plans place path (name :: rest) visit) :
    ∃ child, system.nodeAt? (place ++ [name]) = some child := by
  unfold Plans at plan
  have found := plan.2
  cases there : system.nodeAt? (place ++ [name]) with
  | none =>
    rw [kindAt?, there] at found
    exact absurd found id
  | some child => exact ⟨child, rfl⟩

/-- What to do at an entry of a directory, given its path. -/
def visitsAt (system : FileSystem) (inside name : String) : FileNode → List Visit
  | .directory readable entries =>
    if system.pathExists inside then system.visits (.directory readable entries) inside else []
  | .link _ =>
    if system.leadsToDirectory inside then [.passOver inside] else fileVisits name inside
  | .file _ => fileVisits name inside

/-- At every entry is done what is done there. -/
theorem entryVisits_eq (entries : List (String × FileNode)) (path : String) :
    system.entryVisits entries path = entries.map fun entry =>
      (entry.1, system.visitsAt (Path.join path entry.1) entry.1 entry.2) := by
  induction entries with
  | nil => simp only [entryVisits, List.map_nil]
  | cons entry rest ih =>
    obtain ⟨name, child⟩ := entry
    cases child <;> simp only [entryVisits, visitsAt, List.map_cons, ih]

/-- A file is registered if it has the name of one. -/
theorem ordered_fileVisits {name inside : String} {planned : List String → Visit → Prop}
    (register : ∀ rest visit, planned rest visit ↔
      rest = [] ∧ Path.isYaml name = true ∧ visit = .register inside) :
    Ordered (fileVisits name inside) planned := by
  unfold fileVisits
  by_cases yaml : Path.isYaml name = true
  · rw [if_pos yaml]
    refine .singleton [] fun rest visit => ?_
    rw [register, and_iff_right yaml]
  · rw [if_neg yaml]
    exact .nil fun rest visit plan => yaml ((register rest visit).mp plan).2.1

/-- What is done at an entry of a listed directory is in order, if it is for a directory. -/
theorem ordered_visitsAt {place : List String} {path name : String} {child : FileNode}
    (here : system.kindAt? place = some (.directory true))
    (there : system.kindAt? (place ++ [name]) = some child.kind)
    (directory : child.isDirectory = true →
      Ordered (system.visits child (Path.join path name))
        (system.Plans (place ++ [name]) (Path.join path name))) :
    Ordered (system.visitsAt (Path.join path name) name child)
      fun rest visit => system.Plans place path (name :: rest) visit := by
  cases child with
  | file content =>
    refine ordered_fileVisits fun rest visit => ?_
    simp [Plans, here, there, FileNode.kind]
  | link target =>
    unfold visitsAt
    by_cases leads : system.leadsToDirectory (Path.join path name) = true
    · rw [if_pos leads]
      refine .singleton [] fun rest visit => ?_
      simp [Plans, here, there, FileNode.kind, leads]
    · rw [if_neg leads]
      refine ordered_fileVisits fun rest visit => ?_
      simp [Plans, here, there, FileNode.kind, leads]
  | directory readable entries =>
    change Ordered (if system.pathExists (Path.join path name) then
      system.visits (.directory readable entries) (Path.join path name) else []) _
    by_cases followed : system.pathExists (Path.join path name) = true
    · rw [if_pos followed]
      refine (directory rfl).congr fun rest visit => ?_
      simp [Plans, here, there, FileNode.kind, followed]
    · rw [if_neg followed]
      refine .nil fun rest visit => ?_
      simp [Plans, here, there, FileNode.kind, followed]

/-- The visits below a directory are listed by its entries. -/
theorem mem_entryVisits_iff (system : FileSystem) {entries : List (String × FileNode)}
    (distinct : (entries.map Prod.fst).Nodup) (path : String) (entry : String × List Visit) :
    entry ∈ (NameMap.ofList (system.entryVisits entries path)).entries ↔
      ∃ child, (entry.1, child) ∈ entries ∧
        system.visitsAt (Path.join path entry.1) entry.1 child = entry.2 := by
  have distinct' : ((system.entryVisits entries path).map (·.1)).Nodup := by
    rw [entryVisits_eq, List.map_map]
    exact distinct
  rw [NameMap.mem_entries_ofList distinct', entryVisits_eq, List.mem_map]
  constructor
  · rintro ⟨⟨name, child⟩, present, rfl⟩
    exact ⟨child, present, rfl⟩
  · rintro ⟨child, present, own⟩
    exact ⟨_, present, Prod.ext rfl own⟩

/-- A directory is visited in order if each of its entries is. -/
theorem ordered_visits_of_entries {entries : List (String × FileNode)}
    (distinct : (entries.map Prod.fst).Nodup) {place : List String} {path : String}
    (found : system.nodeAt? place = some (.directory true entries))
    (each : ∀ name child, (name, child) ∈ entries →
      Ordered (system.visitsAt (Path.join path name) name child)
        fun rest visit => system.Plans place path (name :: rest) visit) :
    Ordered (system.visits (.directory true entries) path) (system.Plans place path) := by
  have here : system.kindAt? place = some (.directory true) := congrArg _ found
  have members := mem_entryVisits_iff system distinct path
  unfold visits
  refine (Ordered.flatten (fun name rest visit => system.Plans place path (name :: rest) visit)
    (NameMap.ofList (system.entryVisits entries path)).ascending
    fun entry member => ?_).congr fun names visit => ?_
  · obtain ⟨child, present, own⟩ := (members entry).mp member
    rw [← own]
    exact each entry.1 child present
  cases names with
  | nil => simp [Plans, here]
  | cons name rest =>
    constructor
    · rintro ⟨_, _, same, _, plan⟩
      cases same
      exact plan
    · intro plan
      obtain ⟨child, at_name⟩ := plan.exists_node
      have present := (NameMap.lookup_eq_some_iff distinct).mp
        ((nodeAt?_append_singleton found name).symm.trans at_name)
      have entry := (members (name, system.visitsAt (Path.join path name) name child)).mpr
        ⟨child, present, rfl⟩
      exact ⟨name, rest, rfl, List.mem_map.mpr ⟨_, entry, rfl⟩, plan⟩

/-- A directory is visited in the order of the names that lead to what is visited. -/
theorem ordered_visits {node : FileNode} (wellFormed : node.WellFormed) {place : List String}
    {path : String} (found : system.nodeAt? place = some node)
    (isDirectory : node.isDirectory = true) :
    Ordered (system.visits node path) (system.Plans place path) := by
  induction wellFormed generalizing place path with
  | file content => cases isDirectory
  | link target => cases isDirectory
  | directory readable entries distinct named inside ih =>
    have here : system.kindAt? place = some (.directory readable) := congrArg _ found
    cases readable with
    | false =>
      unfold visits
      refine .singleton [] fun names visit => ?_
      cases names <;> simp [Plans, here]
    | true =>
      refine ordered_visits_of_entries distinct found fun name child present => ?_
      have at_name : system.nodeAt? (place ++ [name]) = some child :=
        (nodeAt?_append_singleton found name).trans
          ((NameMap.lookup_eq_some_iff distinct).mpr present)
      exact ordered_visitsAt here (congrArg _ at_name) (ih _ present at_name)

/-- The plan of a directory is in the order of the names that lead to what is visited. -/
theorem WellFormed.ordered_plan (wellFormed : system.WellFormed) {directory : String}
    {place : List String} (located : system.locate directory = .ok place)
    (here : system.DirectoryAt place) :
    Ordered (system.plan directory) (system.Plans place directory) := by
  obtain ⟨readable, kind⟩ := here
  obtain ⟨entries, found⟩ := nodeAt?_of_kindAt? kind
  have node_wellFormed := (wellFormed.root.descendant found).2
  unfold plan
  rw [located]
  dsimp only
  rw [found]
  exact ordered_visits node_wellFormed found rfl

/-! ## What is planned -/

variable {directory : String} {place names : List String}

/-- Listing a directory succeeds. -/
def Lists (system : FileSystem) (path : String) : Prop :=
  ∃ place, system.locate path = .ok place ∧ system.kindAt? place = some (.directory true)

/-- Names lead down from a directory, past no link, to the file of some protocols: it has the name
of a YAML file and is neither a directory nor a link to one. -/
structure IsProtocolFile (system : FileSystem) (place names : List String) : Prop where
  /-- Something stands there. -/
  present : ∃ kind, system.kindAt? (place ++ names) = some kind
  /-- It is no directory. -/
  noDirectory : ¬system.DirectoryAt (place ++ names)
  /-- It is no link to a directory. -/
  noLink : ¬system.LinkToDirectory (place ++ names)
  /-- It has the name of a YAML file. -/
  yaml : ∃ name, names.getLast? = some name ∧ Path.isYaml name = true

/-- A protocol file has a name in some directory. -/
theorem IsProtocolFile.ne_nil (isFile : system.IsProtocolFile place names) : names ≠ [] := by
  rintro rfl
  obtain ⟨_, ends, _⟩ := isFile.yaml
  cases ends

/-- A link that leads to a directory from a path below another one is a link to a directory. -/
theorem WellFormed.linkToDirectory_of_leads (wellFormed : system.WellFormed)
    (located : system.locate directory = .ok place) {target : String}
    (there : system.kindAt? (place ++ names) = some (.link target)) (below : names ≠ [])
    (leads : system.leadsToDirectory (Path.descend directory names) = true) :
    system.LinkToDirectory (place ++ names) := by
  obtain ⟨goal, found, isDirectory⟩ := leadsToDirectory_iff.mp leads
  obtain ⟨some_path, links, left, way⟩ := wellFormed.leads_of_link located there below found
  exact ⟨target, links, left, goal, there, some_path, way, isDirectory⟩

/-- Nothing can be read at a link to a directory. -/
theorem WellFormed.readText_ne_ok (wellFormed : system.WellFormed)
    (located : system.locate directory = .ok place)
    (isLink : system.LinkToDirectory (place ++ names)) (below : names ≠ []) (text : String) :
    system.readText (Path.descend directory names) ≠ .ok text := by
  intro read
  obtain ⟨reached, content, found, isFile, _⟩ := readText_eq_ok_iff.mp read
  obtain ⟨target, links, left, goal, there, some_path, way, readable, isDirectory⟩ := isLink
  obtain ⟨_, links', left', way'⟩ := wellFormed.leads_of_link located there below found
  obtain rfl := way.unique way'
  cases isFile.symm.trans isDirectory

/-- A real directory that can be listed is listed at its own place. -/
theorem WellFormed.lists_iff (wellFormed : system.WellFormed)
    (located : system.locate directory = .ok place) {readable : Bool}
    (there : system.kindAt? (place ++ names) = some (.directory readable)) :
    system.Lists (Path.descend directory names) ↔
      readable = true ∧ system.locate (Path.descend directory names) = .ok (place ++ names) := by
  constructor
  · rintro ⟨reached, found, listed⟩
    have own := (wellFormed.locate_descend_iff located there nofun).mpr
      (locate_eq_ok_iff.mp found).2.1
    cases own.symm.trans found
    cases there.symm.trans listed
    exact ⟨rfl, own⟩
  · rintro ⟨rfl, own⟩
    exact ⟨_, own, there⟩

/-- Below a directory, either a directory is gone into or an entry of its own is visited. -/
theorem Plans.cases_cons {name : String} {rest : List String} {visit : Visit}
    (plan : system.Plans place directory (name :: rest) visit) :
    (∃ readable, system.kindAt? (place ++ [name]) = some (.directory readable) ∧
      system.Plans (place ++ [name]) (Path.join directory name) rest visit) ∨
    rest = [] ∧ (∃ kind, system.kindAt? (place ++ [name]) = some kind) ∧
      ¬system.DirectoryAt (place ++ [name]) ∧
      (visit = .passOver (Path.join directory name) ∨
        Path.isYaml name = true ∧ visit = .register (Path.join directory name)) := by
  unfold Plans at plan
  obtain ⟨_, plan⟩ := plan
  unfold DirectoryAt
  cases there : system.kindAt? (place ++ [name]) with
  | none =>
    rw [there] at plan
    exact plan.elim
  | some kind =>
    rw [there] at plan
    cases kind with
    | directory readable => exact .inl ⟨readable, rfl, plan.2⟩
    | file content => exact .inr ⟨plan.1, ⟨_, rfl⟩, nofun, .inr plan.2⟩
    | link target =>
      obtain ⟨alone, plan⟩ := plan
      refine .inr ⟨alone, ⟨_, rfl⟩, nofun, ?_⟩
      split at plan
      · exact .inl plan
      · exact .inr plan

/-- A load fails only at a directory that may not be listed. -/
theorem Plans.unlisted {fault : FileFault}
    (plan : system.Plans place directory names (.fail fault)) :
    fault = .permissionDenied ∧ system.kindAt? (place ++ names) = some (.directory false) := by
  induction names generalizing place directory with
  | nil =>
    obtain ⟨here, same⟩ := plan
    cases same
    exact ⟨rfl, by rwa [List.append_nil]⟩
  | cons name rest ih =>
    rcases plan.cases_cons with ⟨_, _, onward⟩ | ⟨_, _, _, passed | ⟨_, registered⟩⟩
    · rw [List.append_cons]
      exact ih onward
    · cases passed
    · cases registered

/-- A load registers what is no directory and has the name of a YAML file. -/
theorem Plans.registered {path : String}
    (plan : system.Plans place directory names (.register path)) :
    path = Path.descend directory names ∧ (∃ kind, system.kindAt? (place ++ names) = some kind) ∧
      ¬system.DirectoryAt (place ++ names) ∧
      ∃ name, names.getLast? = some name ∧ Path.isYaml name = true := by
  induction names generalizing place directory with
  | nil => cases plan.2
  | cons name rest ih =>
    rcases plan.cases_cons with
      ⟨_, _, onward⟩ | ⟨rfl, present, noDirectory, passed | ⟨yaml, registered⟩⟩
    · obtain ⟨same, present, noDirectory, last, ends, yaml⟩ := ih onward
      rw [List.append_cons]
      refine ⟨same, present, noDirectory, last, ?_, yaml⟩
      rw [List.getLast?_cons, ends]
      rfl
    · cases passed
    · cases registered
      exact ⟨rfl, present, noDirectory, name, rfl, yaml⟩

/-- What is planned in a directory that can be reached is planned above it. -/
theorem Plans.above (wellFormed : system.WellFormed) {above : List String} {visit : Visit}
    (plan : system.Plans (place ++ above) (Path.descend directory above) names visit)
    (located : system.locate directory = .ok place)
    (isDirectory : system.DirectoryAt (place ++ above))
    (lists : ∀ first more, above = first ++ more → more ≠ [] →
      system.Lists (Path.descend directory first))
    (followed : system.pathExists (Path.descend directory above) = true) :
    system.Plans place directory (above ++ names) visit := by
  induction above generalizing place directory with
  | nil => rwa [List.append_nil] at plan
  | cons name rest ih =>
    have here : system.kindAt? place = some (.directory true) := by
      obtain ⟨reached, found, listed⟩ := lists [] (name :: rest) rfl (List.cons_ne_nil _ _)
      cases located.symm.trans found
      exact listed
    have there : system.DirectoryAt (place ++ [name]) := by
      cases rest with
      | nil => exact isDirectory
      | cons next more =>
        obtain ⟨readable, kind⟩ := isDirectory
        rw [List.append_cons] at kind
        exact directoryAt_of_child kind
    have exists_path : system.pathExists (Path.join directory name) = true := by
      cases rest with
      | nil => exact followed
      | cons next more =>
        obtain ⟨reached, found, _⟩ := lists [name] (next :: more) rfl (List.cons_ne_nil _ _)
        exact pathExists_iff.mpr ⟨reached, found⟩
    obtain ⟨reached, found⟩ := pathExists_iff.mp exists_path
    obtain ⟨readable, kind⟩ := there
    have own := (wellFormed.locate_descend_iff located kind nofun).mpr
      (locate_eq_ok_iff.mp found).2.1
    rw [List.append_cons] at plan isDirectory
    have onward := ih plan own isDirectory
      (fun first more parts => lists (name :: first) more (congrArg _ parts)) followed
    rw [List.cons_append]
    unfold Plans
    rw [here, kind]
    exact ⟨rfl, exists_path, onward⟩

/-- A directory that may not be listed ends a load, if all directories above it are listed. -/
theorem WellFormed.plans_fail (wellFormed : system.WellFormed)
    (located : system.locate directory = .ok place)
    (unlisted : system.kindAt? (place ++ names) = some (.directory false))
    (lists : ∀ first more, names = first ++ more → more ≠ [] →
      system.Lists (Path.descend directory first))
    (followed : system.pathExists (Path.descend directory names) = true) :
    system.Plans place directory names (.fail .permissionDenied) := by
  have plan : system.Plans (place ++ names) (Path.descend directory names) []
      (.fail .permissionDenied) := ⟨unlisted, rfl⟩
  have reached := plan.above wellFormed located ⟨false, unlisted⟩ lists followed
  rwa [List.append_nil] at reached

/-- A protocol file is registered, if all directories above it are listed. -/
theorem IsProtocolFile.plans (isFile : system.IsProtocolFile place names)
    (wellFormed : system.WellFormed) (located : system.locate directory = .ok place)
    (lists : ∀ first more, names = first ++ more → more ≠ [] →
      system.Lists (Path.descend directory first)) :
    system.Plans place directory names (.register (Path.descend directory names)) := by
  obtain ⟨⟨kind, there⟩, noDirectory, noLink, last, ends, yaml⟩ := isFile
  obtain ⟨above, rfl⟩ := List.getLast?_eq_some_iff.mp ends
  have listed := lists above [last] rfl (List.cons_ne_nil _ _)
  rw [← List.append_assoc] at there noDirectory noLink
  obtain ⟨readable, here⟩ := directoryAt_of_child there
  obtain ⟨rfl, own⟩ := (wellFormed.lists_iff located here).mp listed
  have plan : system.Plans (place ++ above) (Path.descend directory above) [last]
      (.register (Path.descend directory (above ++ [last]))) := by
    rw [Path.descend_append]
    unfold Plans
    rw [here, there]
    refine ⟨rfl, ?_⟩
    cases kind with
    | file content => exact ⟨rfl, yaml, rfl⟩
    | directory readable => exact absurd ⟨readable, there⟩ noDirectory
    | link target =>
      have leads :
          ¬system.leadsToDirectory (Path.join (Path.descend directory above) last) = true :=
        fun leads => noLink
          (wellFormed.linkToDirectory_of_leads own there (List.cons_ne_nil _ _) leads)
      dsimp only
      rw [if_neg leads]
      exact ⟨rfl, yaml, rfl⟩
  refine plan.above wellFormed located ⟨true, here⟩ (fun first more parts some_more => ?_)
    (pathExists_iff.mpr ⟨_, own⟩)
  exact lists first (more ++ [last]) (by rw [parts, List.append_assoc])
    (List.append_ne_nil_of_left_ne_nil some_more _)

end FileSystem

end Covenant
