import ModuleImport.Proofs.Interpreter.Failing
import ModuleImport.Proofs.Interpreter.Sourced
import ModuleImport.Proofs.Repository.Inside

namespace ModuleImport

open ModuleImport.Path Repository

/-- The name and the artifact of a load for which the artifact could not be read or decoded. -/
def LoadError.unread? {ε : Type} : LoadError ε → Option (String × Path)
  | artifactUnreadable name artifact _ => some (name, artifact)
  | corruptArtifact name artifact _ => some (name, artifact)
  | _ => none

theorem unread_of_make {ε : Type} {fs : FileSystem} {entryPoint : Option String}
    {name requested : String} {resolution : Resolution} {artifact : Path} {e : LoadError ε}
    (failed : LoadPlan.make fs entryPoint name resolution = .error e)
    (unread : e.unread? = some (requested, artifact)) :
    requested = name ∧ resolution.artifact? = some artifact := by
  unfold LoadPlan.make at failed
  split at failed
  · cases failed
    cases unread
  · rename_i found isArtifact
    split at failed
    · cases failed
      cases unread
      exact ⟨rfl, isArtifact⟩
    · split at failed
      · cases failed
        cases unread
        exact ⟨rfl, isArtifact⟩
      · cases failed

namespace Interpreter

/-- The states that are reached from a new interpreter by calls over file systems that have the path
`base?` for their working directory, and the entry points that were set on the way. -/
inductive ReachedFrom (base? : Option Path) (config : Config) : List String → Interpreter → Prop
  | new : ReachedFrom base? config config.entryPoint.toList (new config)
  | importModule {mains s t fs name x} : ReachedFrom base? config mains s →
      fs.workingPath? = base? → importModule fs name s = some (x, t) →
      ReachedFrom base? config mains t
  | runMain {mains s t fs name x} : ReachedFrom base? config mains s → fs.workingPath? = base? →
      runMain fs name s = some (x, t) → ReachedFrom base? config (name :: mains) t
  | setEntryPoint {mains s} (entryPoint : Option String) : ReachedFrom base? config mains s →
      ReachedFrom base? config (entryPoint.toList ++ mains) (s.setEntryPoint entryPoint)

variable {base? : Option Path} {entries : List Path} {strict : Prop} {fs : FileSystem}
  {roots : List String} {name : String} {s t u : Interpreter}

/-- Where an interpreter looks for modules: each kept importer below the absolute form of its entry,
and each package along paths that lead down from the configured entries, by the segments of its name
as long as it is `strict` that there is no entry point. -/
structure Rooted (base? : Option Path) (entries : List Path) (strict : Prop) (s : Interpreter) :
    Prop where
  searchPath : s.searchPath = entries
  kept : ∀ key importer, s.importers.get? key = some (some importer) →
    ∃ spelled : Path, spelled.canonicalText = key ∧ spelled.absolute? base? = some importer.root
  modules : ∀ key module, s.lookup key = some module → ∃ directories?,
    s.store.ListsOnly module directories? ∧ ∀ directories ∈ directories?, ∀ p ∈ directories,
      ∃ root steps, IsPlace base? entries root steps ∧ p.same (root.joinNames steps) = true ∧
        (strict → steps = Name.segments key)
  entryless : strict → s.entryPoint = none

theorem rooted_new (base? : Option Path) (config : Config) (strict : Prop)
    (entryless : strict → config.entryPoint = none) :
    (new config).Rooted base? config.searchPath strict where
  searchPath := rfl
  kept _ _ kept := by cases kept
  modules _ _ found := by cases found
  entryless := entryless

/-- What was found along some directories is due to importers that are kept for them. -/
def Supplied (fs : FileSystem) (name : String) (directories : List Path) (s : Interpreter) :
    Found → Prop
  | .loader importer =>
    ∃ entry ∈ directories, s.importers.get? entry.canonicalText = some (some importer)
  | .portions portions => ∀ portion ∈ portions, ∃ entry ∈ directories, ∃ importer,
    s.importers.get? entry.canonicalText = some (some importer) ∧
      importer.resolve fs name = .ok (.portion portion)

theorem Supplied.cons {directories : List Path} {found : Found} (entry : Path)
    (supplied : s.Supplied fs name directories found) :
    s.Supplied fs name (entry :: directories) found := by
  cases found with
  | loader importer =>
    obtain ⟨other, member, kept⟩ := supplied
    exact ⟨other, List.mem_cons_of_mem _ member, kept⟩
  | portions portions =>
    intro portion isPortion
    obtain ⟨other, member, rest⟩ := supplied portion isPortion
    exact ⟨other, List.mem_cons_of_mem _ member, rest⟩

theorem supplied_of_search {directories : List Path} {found : Found}
    (search : s.search fs name directories = (.ok found, t)) :
    t.Supplied fs name directories found := by
  induction directories generalizing s found with
  | nil =>
    cases search
    exact List.forall_mem_nil _
  | cons entry rest ih =>
    have cached := s.importerFor_cached fs entry
    obtain ⟨importer?, u, looked, goesOn⟩ := search_cons_inv search
    rw [looked] at cached
    cases goesOn with
    | closed onwards => exact (ih onwards).cons entry
    | nothing _ onwards => exact (ih onwards).cons entry
    | loader _ _ same =>
      cases same
      exact ⟨entry, List.mem_cons_self, cached⟩
    | @portion importer directory later resolved onwards =>
      have supplied := (ih onwards).cons entry
      cases later with
      | loader other => exact supplied
      | portions portions =>
        -- what is kept for the entry is kept at the end of the search, too
        have caches := caches_search u fs name rest
        rw [onwards] at caches
        exact List.forall_mem_cons.mpr
          ⟨⟨entry, List.mem_cons_self, importer, caches _ _ cached, resolved⟩, supplied⟩

section Ready

variable {parent? : Option Module} {found : Found}

theorem Rooted.isRootFor (isBase : ∀ base ∈ base?, base.isAbsolute = true)
    (rooted : s.Rooted base? entries strict) (ready : Ready fs name parent? found s)
    {directories : List Path} (along : s.directories? parent? = some directories) {entry : Path}
    (member : entry ∈ directories) {importer : Importer}
    (cached : s.importers.get? entry.canonicalText = some (some importer)) :
    ∃ root outer, IsRootFor base? entries strict name root outer importer.root := by
  obtain ⟨spelled, key, formed⟩ := rooted.kept _ _ cached
  have same := same_iff.mpr key
  cases ready.parent with
  | none outermost =>
    have isEntry : entry ∈ entries := by
      rw [← rooted.searchPath, Option.some.inj along]
      exact member
    obtain ⟨root, isRoot⟩ :=
      isRootFor_entry isBase isEntry same formed outermost ready.importable
    exact ⟨root, [], isRoot⟩
  | @some parent package isParent loaded =>
    obtain ⟨directories?, lists, all⟩ := rooted.modules _ _ loaded
    obtain ⟨root, steps, isPlace, there, mirrors⟩ :=
      all directories (lists.searchPath along) entry member
    refine ⟨root, steps, isRootFor_parent isBase isPlace there (fun strictly => ?_) isParent same
      formed⟩
    rw [mirrors strictly, registeredName_eq (rooted.entryless strictly)]

theorem Ready.supplied (ready : Ready fs name parent? found s) :
    ∃ directories, s.directories? parent? = some directories ∧
      s.Supplied fs name directories found := by
  obtain ⟨t, directories, along, search⟩ := ready.searched
  rw [← directories?_of_search search] at along
  exact ⟨directories, along, supplied_of_search search⟩

theorem Rooted.resolved (isBase : ∀ base ∈ base?, base.isAbsolute = true)
    (rooted : s.Rooted base? entries strict) {importer : Importer} {resolution : Resolution}
    (ready : Ready fs name parent? (.loader importer) s)
    (resolved : importer.resolve fs name = .ok resolution) :
    (∀ artifact ∈ resolution.artifact?, ArtifactInside base? entries strict name artifact) ∧
      ∀ directory ∈ resolution.searchPath?,
        DirectoryInside base? entries strict name directory := by
  obtain ⟨directories, along, entry, member, cached⟩ := ready.supplied
  obtain ⟨root, outer, isRoot⟩ := rooted.isRootFor isBase ready along member cached
  exact isRoot.resolved isBase resolved

theorem Rooted.portions (isBase : ∀ base ∈ base?, base.isAbsolute = true)
    (rooted : s.Rooted base? entries strict) {portions : List Path}
    (ready : Ready fs name parent? (.portions portions) s) :
    ∀ portion ∈ portions, DirectoryInside base? entries strict name portion := by
  intro portion isPortion
  obtain ⟨directories, along, supplied⟩ := ready.supplied
  obtain ⟨entry, member, importer, cached, resolved⟩ := supplied portion isPortion
  obtain ⟨root, outer, isRoot⟩ := rooted.isRootFor isBase ready along member cached
  exact (isRoot.resolved isBase resolved).2 portion rfl

/-- The artifact that is loaded stands where the name says, and so does the search path of a package
that is loaded from it. -/
theorem Rooted.loaded (isBase : ∀ base ∈ base?, base.isAbsolute = true)
    (rooted : s.Rooted base? entries strict) {importer : Importer} {plan : LoadPlan}
    (loadable : Loadable fs name parent? importer plan s) :
    ArtifactInside base? entries strict name plan.artifact ∧
      ∀ directory ∈ plan.searchPath?, DirectoryInside base? entries strict name directory := by
  obtain ⟨resolution, resolved, isFor⟩ := LoadPlan.isFor_of_find loadable.found
  obtain ⟨artifact, searchPath⟩ := rooted.resolved isBase loadable.toReady resolved
  rw [isFor.searchPath]
  exact ⟨artifact _ isFor.artifact, searchPath⟩

theorem Rooted.unread (isBase : ∀ base ∈ base?, base.isAbsolute = true)
    (rooted : s.Rooted base? entries strict) {importer : Importer} {entryPoint : Option String}
    (ready : Ready fs name parent? (.loader importer) s) {e : LoadError RunError}
    (failed : LoadPlan.find fs importer entryPoint name = .error e) {requested : String}
    {artifact : Path} (unread : e.unread? = some (requested, artifact)) :
    requested = name ∧ ArtifactInside base? entries strict name artifact := by
  unfold LoadPlan.find at failed
  split at failed
  · cases failed
    cases unread
  · rename_i resolution resolved
    obtain ⟨inside, -⟩ := rooted.resolved isBase ready resolved
    split at failed
    · obtain ⟨same, isArtifact⟩ := unread_of_make failed unread
      exact ⟨same, inside artifact isArtifact⟩
    · cases failed
      cases unread

end Ready

theorem exists_place_of_inside {key : String} {directories? : Option (List Path)}
    (inside : ∀ directories ∈ directories?, ∀ p ∈ directories,
      DirectoryInside base? entries strict name p) (same : strict → key = name) :
    ∀ directories ∈ directories?, ∀ p ∈ directories, ∃ root steps,
      IsPlace base? entries root steps ∧ p.same (root.joinNames steps) = true ∧
        (strict → steps = Name.segments key) := by
  intro directories isOwn p member
  obtain ⟨root, steps, isPlace, mirrors, there⟩ := inside directories isOwn p member
  refine ⟨root, steps, isPlace, there, fun strictly => ?_⟩
  rw [same strictly]
  exact mirrors.segments strictly

theorem Rooted.importerFor (rooted : s.Rooted base? entries strict)
    (there : fs.workingPath? = base?) (entry : Path) :
    ∀ key importer, (s.importerFor fs entry).2.importers.get? key = some (some importer) →
      ∃ spelled : Path, spelled.canonicalText = key ∧
        spelled.absolute? base? = some importer.root := by
  intro key importer cached
  obtain ⟨_, _, same⟩ | ⟨root, _, opened, same⟩ | ⟨_, same⟩ := s.importerFor_cases fs entry
  · rw [same] at cached
    exact rooted.kept key importer cached
  · rw [same, Table.get?_insert] at cached
    split at cached
    · rename_i isEntry
      cases cached
      obtain ⟨formed, -⟩ := openRoot_inv opened
      rw [there] at formed
      exact ⟨entry, isEntry.symm, formed⟩
    · exact rooted.kept key importer cached
  · rw [same, Table.get?_insert] at cached
    split at cached
    · cases cached
    · exact rooted.kept key importer cached

theorem Rooted.change (there : fs.workingPath? = base?) (rooted : s.Rooted base? entries strict)
    (change : Change fs roots s t) : t.Rooted base? entries strict where
  searchPath := change.searchPath.trans rooted.searchPath
  kept := by
    obtain same | ⟨entry, rfl⟩ := change.importers
    · rw [same]
      exact rooted.kept
    · exact rooted.importerFor there entry
  modules key module found := by
    have isBase : ∀ base ∈ base?, base.isAbsolute = true := there ▸ isAbsolute_workingPath fs
    obtain earlier | ⟨name, registers, rfl⟩ := change.registered found
    · obtain ⟨directories?, lists, all⟩ := rooted.modules key module earlier
      exact ⟨directories?, change.listsOnly earlier lists, all⟩
    · have named (strictly : strict) : s.registeredName name = name :=
        registeredName_eq (rooted.entryless strictly) name
      cases registers with
      | @assembled parent? portions _ ready =>
        refine ⟨some portions, listsOnly_assembled s name portions,
          exists_place_of_inside (fun directories isOwn => ?_) named⟩
        cases isOwn
        exact rooted.portions isBase ready
      | @started parent? importer plan _ loadable =>
        refine ⟨_, listsOnly_started loadable.unregistered,
          exists_place_of_inside (fun directories isOwn p member => ?_) named⟩
        obtain ⟨directory, isDirectory, rfl⟩ := Option.map_eq_some_iff.mp isOwn
        cases List.mem_singleton.mp member
        exact (rooted.loaded isBase loadable).2 _ isDirectory
  entryless strictly := change.entryPoint.trans (rooted.entryless strictly)

theorem Rooted.changes (there : fs.workingPath? = base?) (rooted : s.Rooted base? entries strict)
    (changes : Changes fs roots s t) : t.Rooted base? entries strict := by
  induction changes with
  | refl => exact rooted
  | tail _ change ih => exact ih.change there change

theorem ReachedFrom.reached {config : Config} {mains : List String}
    (reached : ReachedFrom base? config mains s) : Reached s := by
  induction reached with
  | new => exact .new config
  | importModule _ _ call ih => exact .called ih (.importModule call)
  | runMain _ _ call ih => exact .called ih (.runMain call)
  | setEntryPoint entryPoint _ ih => exact .called ih (.setEntryPoint _ entryPoint)

theorem Rooted.setEntryPoint {weaker : Prop} (rooted : s.Rooted base? entries strict)
    (entryPoint : Option String) (le : weaker → strict) (entryless : weaker → entryPoint = none) :
    (s.setEntryPoint entryPoint).Rooted base? entries weaker where
  searchPath := rooted.searchPath
  kept := rooted.kept
  modules key module found := by
    obtain ⟨directories?, lists, all⟩ := rooted.modules key module found
    refine ⟨directories?, lists.of_get? fun attr => ?_, fun directories isOwn p member => ?_⟩
    · simp [Store.get?, Store.attributesOf]
    · obtain ⟨root, steps, isPlace, same, mirrors⟩ := all directories isOwn p member
      exact ⟨root, steps, isPlace, same, fun weakly => mirrors (le weakly)⟩
  entryless := entryless

theorem ReachedFrom.rooted {config : Config} {mains : List String}
    (reached : ReachedFrom base? config mains s) :
    s.Rooted base? config.searchPath (mains = []) := by
  induction reached with
  | new =>
    refine rooted_new base? config _ fun none => ?_
    cases isMain : config.entryPoint with
    | none => rfl
    | some main =>
      rw [isMain] at none
      cases none
  | @importModule mains s t fs name x before there call ih =>
    have changes : Changes fs [name] s t :=
      importModule_changes before.reached.consistent List.mem_cons_self call
    exact ih.changes there changes
  | @runMain mains s t fs name x before there call ih =>
    rw [runMain_eq] at call
    have start := (before.setEntryPoint (some name)).reached.consistent
    have changes : Changes fs [name] (s.setEntryPoint (some name)) t :=
      importModule_changes start List.mem_cons_self call
    exact (ih.setEntryPoint (some name) nofun nofun).changes there changes
  | @setEntryPoint mains s entryPoint before ih =>
    cases entryPoint with
    | none => exact ih.setEntryPoint none id fun _ => rfl
    | some main => exact ih.setEntryPoint (some main) nofun nofun

/-- What an event tells to be executed, or to be a portion of a namespace package, stands where the
name says that was asked for. -/
def StandsInside (base? : Option Path) (entries : List Path) (strict : Prop) (roots : List String)
    (s : Interpreter) : Event → Prop
  | .began module _ artifact => ∃ requested, s.Wanted roots requested ∧
    module.name = s.registeredName requested ∧
      ArtifactInside base? entries strict requested artifact
  | .assembled key _ portions => ∃ requested, s.Wanted roots requested ∧
    key = s.registeredName requested ∧
      ∀ portion ∈ portions, DirectoryInside base? entries strict requested portion
  | _ => True

/-- Each artifact that an error says was not readable, or corrupt, stands where the name says that
was asked for. -/
def UnreadInside (base? : Option Path) (entries : List Path) (strict : Prop) (roots : List String)
    (s : Interpreter) (e : RunError) : Prop :=
  ∀ link ∈ e.chain, ∀ requested artifact, link.unread? = some (requested, artifact) →
    s.Wanted roots requested ∧ ArtifactInside base? entries strict requested artifact

variable {event : Event} {e : RunError} {site? : Option Site}

theorem StandsInside.later (inside : s.StandsInside base? entries strict roots event)
    (remembered : ∀ event ∈ s.trace, event ∈ t.trace) (entryPoint : t.entryPoint = s.entryPoint) :
    t.StandsInside base? entries strict roots event := by
  have named : t.registeredName = s.registeredName := by
    unfold registeredName
    rw [entryPoint]
  cases event with
  | began module code artifact =>
    obtain ⟨requested, wanted, same, stands⟩ := inside
    exact ⟨requested, wanted.later remembered, by rw [named, same], stands⟩
  | assembled key module portions =>
    obtain ⟨requested, wanted, same, stand⟩ := inside
    exact ⟨requested, wanted.later remembered, by rw [named, same], stand⟩
  | _ => trivial

theorem Rooted.adds (isBase : ∀ base ∈ base?, base.isAbsolute = true)
    (rooted : s.Rooted base? entries strict) (adds : Adds fs roots s t event) :
    s.StandsInside base? entries strict roots event := by
  cases adds with
  | @assembled name _ _ wanted ready => exact ⟨name, wanted, rfl, rooted.portions isBase ready⟩
  | @began name _ _ _ wanted loadable =>
    refine ⟨name, wanted, ?_, (rooted.loaded isBase loadable).1⟩
    rw [loadable.name_loading, loadable.target]
  | _ => trivial

theorem Rooted.events (there : fs.workingPath? = base?) (rooted : s.Rooted base? entries strict)
    (changes : Changes fs roots s t) :
    ∀ event ∈ t.trace, event ∈ s.trace ∨ t.StandsInside base? entries strict roots event := by
  have isBase : ∀ base ∈ base?, base.isAbsolute = true := there ▸ isAbsolute_workingPath fs
  induction changes with
  | refl => exact fun _ member => .inl member
  | @tail u t before change ih =>
    intro event member
    obtain earlier | added := change.adds member
    · refine (ih event earlier).imp id fun inside => ?_
      exact inside.later change.remembered change.entryPoint
    · right
      exact ((rooted.changes there before).adds isBase added).later change.remembered
        change.entryPoint

theorem Rooted.cause (isBase : ∀ base ∈ base?, base.isAbsolute = true)
    (rooted : s.Rooted base? entries strict) (cause : Cause fs roots s site? e) :
    s.UnreadInside base? entries strict roots e := by
  intro link member requested artifact unread
  cases cause with
  | planFailed wanted ready failed =>
    rw [RunError.chain_of_not_host (LoadPlan.hostError?_of_find failed)] at member
    rw [List.mem_singleton.mp member] at unread
    obtain ⟨rfl, inside⟩ := rooted.unread isBase ready failed unread
    exact ⟨wanted, inside⟩
  | probeFailed =>
    cases List.mem_singleton.mp member
    cases unread
  | _ => cases member

theorem Rooted.fails (there : fs.workingPath? = base?) (rooted : s.Rooted base? entries strict)
    (fails : Fails fs roots site? s e t) : t.UnreadInside base? entries strict roots e := by
  have isBase : ∀ base ∈ base?, base.isAbsolute = true := there ▸ isAbsolute_workingPath fs
  induction fails with
  | cause advances cause => exact (rooted.changes there advances.changes).cause isBase cause
  | inside advances wanted loadable _ continues ih =>
    have start := (rooted.changes there advances.changes).change there (.started wanted loadable)
    intro link member requested artifact unread
    rcases List.mem_cons.mp member with rfl | inner
    · cases unread
    · obtain ⟨asked, inside⟩ := ih start link inner requested artifact unread
      have goesOn : Change fs roots _ _ := .abandoned loadable continues
      exact ⟨asked.later goesOn.remembered, inside⟩

end Interpreter

end ModuleImport
