import Covenant.Proofs.FileSystem.Plan

/-!
# Loading by going into directories

A plan is a list of visits, and the catalogue goes from one visit to the next. Here a load is the
recursion itself (`FileSystem.loadBelow`): the entries of a directory are loaded in ascending order
of their names, the directories among them by the same recursion; the catalogue goes from each entry
to the next, the counts add up, and the first failure ends it all (`Load.inTurn`). Both are one and
the same load, in what they answer, in what they leave and in what they log
(`Catalogue.loadDirectory_eq_loadBelow`), because visits compose as loads do
(`Catalogue.visit_append`).
-/
namespace Covenant

/-- What is done to a catalogue, with the number of protocols declared on the way. -/
abbrev Load := Catalogue → Effect (Except CatalogueError Nat)

namespace Effect

/-- What comes about after something was counted and logged. -/
def following (count : Nat) (log : List LogRecord) (effect : Effect (Except CatalogueError Nat)) :
    Effect (Except CatalogueError Nat) :=
  ⟨effect.result.map (count + ·), effect.catalogue, log ++ effect.log⟩

/-- Go on with more unless what came before failed, and add up the counts. -/
def andThen (effect : Effect (Except CatalogueError Nat)) (more : Load) :
    Effect (Except CatalogueError Nat) :=
  match effect.result with
  | .error _ => effect
  | .ok count => (more effect.catalogue).following count effect.log

end Effect

namespace Load

/-- Do nothing. -/
def skip : Load := fun catalogue => ⟨.ok 0, catalogue, []⟩

/-- Fail at once. -/
def fail (fault : FileFault) : Load := fun catalogue => ⟨.error (.file fault), catalogue, []⟩

/-- Pass over a link to a directory. -/
def passOver (path : String) : Load := fun catalogue =>
  ⟨.ok 0, catalogue, [.linkPassedOver path]⟩

/-- Register a file. If it is refused, that is logged and nothing is counted. -/
def register (system : FileSystem) (path : String) : Load := fun catalogue =>
  match catalogue.registerFile system path with
  | ⟨.ok count, after, log⟩ => ⟨.ok count, after, log⟩
  | ⟨.error error, after, log⟩ => ⟨.ok 0, after, log ++ [.loadFailed path error]⟩

/-- Do things in order up to the first that fails, and add up the counts. -/
def inTurn : List Load → Load
  | [] => skip
  | first :: rest => fun catalogue => (first catalogue).andThen (inTurn rest)

end Load

namespace FileSystem

variable (system : FileSystem)

/-- Register a file if its name is that of a YAML file. -/
def loadFile (name path : String) : Load :=
  if Path.isYaml name then .register system path else .skip

mutual

/-- Load what stands at a path: the entries of a directory in ascending order of their names. -/
def loadNode : FileNode → String → Load
  | .directory readable entries, path =>
    if readable then .inTurn (NameMap.ofList (entryLoads entries path)).values
    else .fail .permissionDenied
  | .file _, _ => .fail .notDirectory
  | .link _, _ => .fail .notDirectory

/-- What loading each entry of a directory does, under the names of the entries. -/
def entryLoads : List (String × FileNode) → String → List (String × Load)
  | [], _ => []
  | (name, node) :: rest, path =>
    let inside := Path.join path name
    let own := match node with
      | .directory readable entries =>
        if system.pathExists inside then loadNode (.directory readable entries) inside else .skip
      | .link _ =>
        if system.leadsToDirectory inside then .passOver inside else system.loadFile name inside
      | .file _ => system.loadFile name inside
    (name, own) :: entryLoads rest path

end

/-- Load a directory by going into the directories in it; do nothing if it does not exist. -/
def loadBelow (path : String) : Load :=
  match system.locate path with
  | .error _ => .skip
  | .ok place =>
    match system.nodeAt? place with
    | some node => system.loadNode node path
    | none => .skip

end FileSystem

/-! ## One load after another -/

namespace Effect

variable {effect : Effect (Except CatalogueError Nat)} {more : Load}

/-- What was counted and logged in two steps adds up. -/
theorem following_following (first second : Nat) (log log' : List LogRecord) :
    (effect.following second log').following first log =
      effect.following (first + second) (log ++ log') := by
  obtain ⟨result, catalogue, inner⟩ := effect
  unfold following
  rw [List.append_assoc]
  cases result with
  | error error => rfl
  | ok count => exact congrArg (Effect.mk · _ _) (congrArg Except.ok (Nat.add_assoc ..).symm)

/-- After something that was logged and not counted the count is the same. -/
theorem following_zero (log : List LogRecord) :
    effect.following 0 log = { effect with log := log ++ effect.log } := by
  obtain ⟨result, catalogue, inner⟩ := effect
  cases result with
  | error error => rfl
  | ok count => exact congrArg (Effect.mk · _ _) (congrArg Except.ok (Nat.zero_add count))

/-- After success more is done. -/
theorem andThen_of_ok {count : Nat} (done : effect.result = .ok count) :
    effect.andThen more = (more effect.catalogue).following count effect.log := by
  unfold andThen
  rw [done]

/-- After a failure nothing more is done. -/
theorem andThen_of_error {error : CatalogueError} (failed : effect.result = .error error) :
    effect.andThen more = effect := by
  unfold andThen
  rw [failed]

/-- Going on with nothing makes no difference. -/
theorem andThen_skip (effect : Effect (Except CatalogueError Nat)) :
    effect.andThen .skip = effect := by
  obtain ⟨result, catalogue, log⟩ := effect
  cases result with
  | error error => rfl
  | ok count => exact congrArg (Effect.mk _ _) (List.append_nil log)

/-- What was counted and logged before stays in front of what is done later. -/
theorem andThen_following (count : Nat) (log : List LogRecord) :
    (effect.following count log).andThen more = (effect.andThen more).following count log := by
  cases done : effect.result with
  | error error =>
    have failed : (effect.following count log).result = .error error :=
      congrArg (Except.map (count + ·)) done
    rw [andThen_of_error failed, andThen_of_error done]
  | ok others =>
    have succeeded : (effect.following count log).result = .ok (count + others) :=
      congrArg (Except.map (count + ·)) done
    rw [andThen_of_ok succeeded, andThen_of_ok done, following_following]
    rfl

/-- Of two things to go on with, both may be taken as one. -/
theorem andThen_andThen (effect : Effect (Except CatalogueError Nat)) (second third : Load) :
    (effect.andThen second).andThen third =
      effect.andThen fun catalogue => (second catalogue).andThen third := by
  cases done : effect.result with
  | error error => rw [andThen_of_error done, andThen_of_error done, andThen_of_error done]
  | ok count => rw [andThen_of_ok done, andThen_of_ok done, andThen_following]

end Effect

namespace Load

/-- Of things in order, those up to some place and those from there on may each be taken as one. -/
theorem inTurn_append (first second : List Load) (catalogue : Catalogue) :
    inTurn (first ++ second) catalogue = (inTurn first catalogue).andThen (inTurn second) := by
  induction first generalizing catalogue with
  | nil => exact (Effect.following_zero []).symm
  | cons load rest ih =>
    have later : inTurn (rest ++ second) =
        fun catalogue => (inTurn rest catalogue).andThen (inTurn second) := funext ih
    change (load catalogue).andThen (inTurn (rest ++ second)) = _
    rw [later, ← Effect.andThen_andThen]
    rfl

/-- Of things in order, those in each of some groups may be taken as one. -/
theorem inTurn_flatten (groups : List (List Load)) :
    inTurn groups.flatten = inTurn (groups.map inTurn) := by
  funext catalogue
  induction groups generalizing catalogue with
  | nil => rfl
  | cons group rest ih =>
    rw [List.flatten_cons, inTurn_append, funext ih]
    rfl

/-- One thing in order is that thing. -/
theorem inTurn_singleton (load : Load) : inTurn [load] = load :=
  funext fun catalogue => (load catalogue).andThen_skip

end Load

/-! ## Visits -/

/-- What a visit does. -/
def Visit.load (system : FileSystem) : Visit → Load
  | register path => .register system path
  | passOver path => .passOver path
  | fail fault => .fail fault

namespace Catalogue

variable {system : FileSystem}

/-- Registering a file is trying it and counting nothing if it is refused. -/
theorem load_register (catalogue : Catalogue) (path : String) :
    Load.register system path catalogue =
      let tried := catalogue.tryFile system path
      ⟨.ok (tried.result.getD 0), tried.catalogue, tried.log⟩ := by
  unfold Load.register tryFile
  obtain ⟨result, after, log⟩ := catalogue.registerFile system path
  cases result with
  | error error => rfl
  | ok count => rfl

/-- Making visits is doing in turn what each of them does. -/
theorem visit_eq_inTurn (catalogue : Catalogue) (visits : List Visit) :
    catalogue.visit system visits = Load.inTurn (visits.map (Visit.load system)) catalogue := by
  induction visits generalizing catalogue with
  | nil => rfl
  | cons first rest ih =>
    cases first with
    | fail fault => rfl
    | passOver path =>
      change _ = (Load.inTurn (rest.map (Visit.load system)) catalogue).following 0 _
      rw [Effect.following_zero, ← ih]
      rfl
    | register path =>
      change _ = (Load.register system path catalogue).andThen
        (Load.inTurn (rest.map (Visit.load system)))
      rw [load_register, Effect.andThen_of_ok rfl, ← ih]
      rfl

/-- Visits in two lists come to what those in the first and then those in the second come to. -/
theorem visit_append (catalogue : Catalogue) (first second : List Visit) :
    catalogue.visit system (first ++ second) =
      (catalogue.visit system first).andThen (·.visit system second) := by
  have later : (fun middle : Catalogue => middle.visit system second) =
      Load.inTurn (second.map (Visit.load system)) := funext fun _ => visit_eq_inTurn _ _
  rw [later, visit_eq_inTurn, visit_eq_inTurn, List.map_append, Load.inTurn_append]

end Catalogue

/-! ## Both are the same load -/

namespace FileSystem

variable (system : FileSystem)

/-- Loading a file is visiting it. -/
theorem inTurn_fileVisits (name path : String) :
    Load.inTurn ((fileVisits name path).map (Visit.load system)) = system.loadFile name path := by
  unfold fileVisits loadFile
  split
  · exact Load.inTurn_singleton _
  · rfl

/-- Load an entry of a directory, given its path. -/
def loadAt (inside name : String) : FileNode → Load
  | .directory readable entries =>
    if system.pathExists inside then system.loadNode (.directory readable entries) inside else .skip
  | .link _ =>
    if system.leadsToDirectory inside then .passOver inside else system.loadFile name inside
  | .file _ => system.loadFile name inside

/-- Every entry is loaded. -/
theorem entryLoads_eq (entries : List (String × FileNode)) (path : String) :
    system.entryLoads entries path = entries.map fun entry =>
      (entry.1, system.loadAt (Path.join path entry.1) entry.1 entry.2) := by
  induction entries with
  | nil => simp only [entryLoads, List.map_nil]
  | cons entry rest ih =>
    obtain ⟨name, child⟩ := entry
    cases child <;> simp only [entryLoads, loadAt, List.map_cons, ih]

/-- Loading an entry does what is planned for it, if loading it as a directory does. -/
theorem loadAt_eq {node : FileNode} (own : ∀ path, system.loadNode node path =
      Load.inTurn ((system.visits node path).map (Visit.load system))) (inside name : String) :
    system.loadAt inside name node =
      Load.inTurn ((system.visitsAt inside name node).map (Visit.load system)) := by
  cases node with
  | file content => exact (system.inTurn_fileVisits name inside).symm
  | link target =>
    rw [loadAt, visitsAt]
    split
    · exact (Load.inTurn_singleton _).symm
    · exact (system.inTurn_fileVisits name inside).symm
  | directory readable entries =>
    rw [loadAt, visitsAt]
    split
    · exact own inside
    · rfl

/-- Loading a node does what is planned for it. -/
theorem loadNode_eq (node : FileNode) (path : String) : system.loadNode node path =
    Load.inTurn ((system.visits node path).map (Visit.load system)) := by
  induction node using FileNode.induction generalizing path with
  | file content =>
    rw [loadNode, visits]
    exact (Load.inTurn_singleton _).symm
  | link target =>
    rw [loadNode, visits]
    exact (Load.inTurn_singleton _).symm
  | directory readable entries ih =>
    have loads : system.entryLoads entries path = (system.entryVisits entries path).map
        fun entry => (entry.1, Load.inTurn (entry.2.map (Visit.load system))) := by
      rw [entryLoads_eq, entryVisits_eq, List.map_map]
      exact List.map_congr_left fun entry member =>
        Prod.ext rfl (system.loadAt_eq (ih entry member) _ _)
    rw [loadNode, visits]
    split
    · -- The loads stand in the order of the names, as the visits that they are made of do.
      rw [loads, NameMap.values_ofList_map fun entry : String × List Visit =>
        Load.inTurn (entry.2.map (Visit.load system)), List.map_flatten, Load.inTurn_flatten,
        NameMap.values, List.map_map, List.map_map]
      rfl
    · exact (Load.inTurn_singleton _).symm

end FileSystem

namespace Catalogue

/-- Loading a directory goes into the directories in it, one after another in the order of the
names, and adds up what they count: it answers, leaves and logs what the recursion does. -/
theorem loadDirectory_eq_loadBelow (system : FileSystem) (catalogue : Catalogue) (path : String) :
    catalogue.loadDirectory system path = system.loadBelow path catalogue := by
  unfold loadDirectory FileSystem.plan FileSystem.loadBelow
  cases system.locate path with
  | error fault => rfl
  | ok place =>
    dsimp only
    cases system.nodeAt? place with
    | none => rfl
    | some node =>
      dsimp only
      rw [visit_eq_inTurn, system.loadNode_eq]

/-- Loading directories in order goes into each of them in turn. -/
theorem loadEach_eq_inTurn (system : FileSystem) (catalogue : Catalogue) (paths : List String) :
    catalogue.loadEach system paths = Load.inTurn (paths.map system.loadBelow) catalogue := by
  induction paths generalizing catalogue with
  | nil => rfl
  | cons path rest ih =>
    change _ = (system.loadBelow path catalogue).andThen (Load.inTurn (rest.map system.loadBelow))
    rw [loadEach, ← loadDirectory_eq_loadBelow]
    cases done : (catalogue.loadDirectory system path).result with
    | error error =>
      rw [Effect.andThen_of_error done]
      exact congrArg (Effect.mk · _ _) done.symm
    | ok count =>
      rw [Effect.andThen_of_ok done, ← ih]
      rfl

/-- Loading the directories on the search path goes into each of them in turn. -/
theorem loadAll_eq_inTurn (system : FileSystem) (catalogue : Catalogue) : catalogue.loadAll system =
    Load.inTurn (catalogue.searchPaths.map system.loadBelow) catalogue :=
  loadEach_eq_inTurn system catalogue catalogue.searchPaths

end Catalogue

end Covenant
