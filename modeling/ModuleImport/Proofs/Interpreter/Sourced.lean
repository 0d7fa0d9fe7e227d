import ModuleImport.Proofs.Interpreter.Agreement
import ModuleImport.Proofs.Interpreter.Attached
import ModuleImport.Proofs.Interpreter.Registering
import ModuleImport.Proofs.Repository.Origin

namespace ModuleImport

open FileSystem Repository

namespace Store

variable {store : Store} {module other : Module} {attr : String} {value : Value}
  {directories? : Option (List Path)}

/-- The only list that the attributes of a module hold is its directories, if it has any. -/
def ListsOnly (store : Store) (module : Module) (directories? : Option (List Path)) : Prop :=
  ∀ attr items, store.get? module attr = some (.list items) →
    ∃ directories ∈ directories?, .list items = Value.ofPaths directories

/-- What an attribute holds after a write was written just now or was there before. -/
theorem get?_set_cases {key : String} {found : Value}
    (h : (store.set other attr value).get? module key = some found) :
    other.id = module.id ∧ found = value ∨ store.get? module key = some found := by
  simp only [get?, attributesOf, set, Array.getD_eq_getD_getElem?, Array.getElem?_modify] at h ⊢
  by_cases same : other.id = module.id
  · rw [if_pos same] at h
    cases table : store.attributes[module.id]? with
    | none =>
      rw [table] at h
      cases h
    | some table' =>
      rw [table] at h
      change (table'.insert attr value).get? key = some found at h
      rw [Table.get?_insert] at h
      split at h
      · cases h
        exact .inl ⟨same, rfl⟩
      · exact .inr h
  · rw [if_neg same] at h
    exact .inr h

theorem ListsOnly.of_get? {later : Store} (lists : store.ListsOnly module directories?)
    (same : ∀ attr, later.get? module attr = store.get? module attr) :
    later.ListsOnly module directories? := by
  intro attr items found
  rw [same] at found
  exact lists attr items found

theorem ListsOnly.set (lists : store.ListsOnly module directories?)
    (fits : other.id = module.id → ∀ items, value = .list items →
      ∃ directories ∈ directories?, value = Value.ofPaths directories) :
    (store.set other attr value).ListsOnly module directories? := by
  intro key items found
  obtain ⟨same, rfl⟩ | earlier := get?_set_cases found
  · exact fits same items rfl
  · exact lists key items earlier

@[simp] theorem get?_newModule_self (store : Store) (name attr : String) :
    (store.newModule name).2.get? (store.newModule name).1 attr =
      if attr = nameAttribute then some (.str name) else none := by
  simp [get?, attributesOf, newModule, Table.get?_insert]

theorem listsOnly_newModule (store : Store) (name : String) (directories? : Option (List Path)) :
    (store.newModule name).2.ListsOnly (store.newModule name).1 directories? := by
  intro attr items found
  rw [get?_newModule_self] at found
  split at found <;> cases found

theorem ListsOnly.searchPath (lists : store.ListsOnly module directories?) {directories : List Path}
    (h : store.searchPath? module = some directories) : directories? = some directories := by
  obtain ⟨value, found, isPaths⟩ := Option.bind_eq_some_iff.mp h
  cases value with
  | list items =>
    obtain ⟨own, isOwn, same⟩ := lists _ _ found
    rw [same, Value.paths?_ofPaths] at isPaths
    cases isPaths
    exact isOwn
  | _ => cases isPaths

end Store

namespace Interpreter

variable {fs : FileSystem} {roots : List String} {name key : String} {module : Module}
  {s t : Interpreter}

/-- What is kept for an entry is what opening it came to, in some spelling of the entry. -/
inductive Opened (fs : FileSystem) (key : String) : Option Importer → Prop
  | repository {spelled importer} : spelled.canonicalText = key →
      openRoot fs spelled = .ok importer.root → Opened fs key (some importer)
  | none {spelled e} : spelled.canonicalText = key → openRoot fs spelled = .error e →
      Opened fs key none

def Opens (fs : FileSystem) (s : Interpreter) : Prop :=
  ∀ key importer?, s.importers.get? key = some importer? → Opened fs key importer?

theorem Opens.insert {entry : String} {importer? : Option Importer} (opens : s.Opens fs)
    (opened : Opened fs entry importer?)
    (same : t.importers = s.importers.insert entry importer?) : t.Opens fs := by
  intro key kept? kept
  rw [same, Table.get?_insert] at kept
  split at kept
  · rename_i isEntry
    cases kept
    rw [isEntry]
    exact opened
  · exact opens key kept? kept

theorem Opens.importerFor (opens : s.Opens fs) (entry : Path) :
    (s.importerFor fs entry).2.Opens fs := by
  unfold Interpreter.importerFor
  dsimp only
  cases s.importers.get? entry.canonicalText with
  | some importer? => exact opens
  | none =>
    dsimp only
    unfold Store.openImporter
    cases opened : openRoot fs entry with
    | ok root => exact opens.insert (.repository rfl opened) rfl
    | error e => exact opens.insert (.none rfl opened) rfl

theorem contributes_of_none {entry : Path} (opened : Opened fs entry.canonicalText none) :
    Contributes fs name entry .nothing := by
  cases opened with
  | none spelled closed => exact .closed (Path.same_iff.mpr spelled) closed

theorem contributes_of_some {entry : Path} {importer : Importer} {resolution : Resolution}
    (opened : Opened fs entry.canonicalText (some importer))
    (resolved : importer.resolve fs name = .ok resolution) :
    Contributes fs name entry resolution := by
  cases opened with
  | repository spelled opened => exact .opened (Path.same_iff.mpr spelled) opened resolved

/-- A search that finds something makes the module from an origin, whatever the entry point is. -/
inductive Gives (fs : FileSystem) (name : String) : Found → Origin → Prop
  | loader {importer entryPoint plan} :
      LoadPlan.find (ε := RunError) fs importer entryPoint name = .ok plan →
      Gives fs name (.loader importer) (.artifact plan.artifact plan.searchPath? plan.code)
  | portions {directories} : Gives fs name (.portions directories) (.portions directories)

theorem Gives.afterPortion_inv {directory : Path} {found : Found} {origin : Origin}
    (gives : Gives fs name (found.afterPortion directory) origin) :
    ∃ rest, Gives fs name found rest ∧ origin = rest.afterPortion directory := by
  cases found with
  | loader importer =>
    cases gives with
    | loader planned => exact ⟨_, .loader planned, rfl⟩
  | portions directories =>
    cases gives with
    | portions => exact ⟨_, .portions, rfl⟩

theorem comesTo_of_find {entry : Path} {rest : List Path} {importer : Importer}
    {entryPoint : Option String} {plan : LoadPlan}
    (opened : Opened fs entry.canonicalText (some importer))
    (planned : LoadPlan.find (ε := RunError) fs importer entryPoint name = .ok plan) :
    ComesTo fs name (entry :: rest) (.artifact plan.artifact plan.searchPath? plan.code) := by
  obtain ⟨resolution, resolved, isFor⟩ := LoadPlan.isFor_of_find planned
  obtain ⟨bytes, read, decoded⟩ := isFor.code
  rw [isFor.searchPath]
  exact .loaded (contributes_of_some opened resolved) isFor.artifact read decoded

theorem caches_search (s : Interpreter) (fs : FileSystem) (name : String) (directories : List Path) :
    s.Caches (s.search fs name directories).2 :=
  search_induct name (fun t entry later => later.trans (caches_importerFor t fs entry)) directories
    (Caches.of_importers rfl)

/-- A search comes to what the repositories hold, whatever was kept of them before. -/
theorem comesTo_of_search {directories : List Path} {found : Found} {origin : Origin}
    (opens : t.Opens fs) (search : s.search fs name directories = (.ok found, t))
    (gives : Gives fs name found origin) : ComesTo fs name directories origin := by
  induction directories generalizing s found origin with
  | nil =>
    cases search
    cases gives
    exact .nil
  | cons entry rest ih =>
    have kept := s.importerFor_cached fs entry
    obtain ⟨importer?, u, looked, goesOn⟩ := search_cons_inv search
    rw [looked] at kept
    -- what was kept for the entry is kept at the end of the search, too
    have opened {found : Found} (onwards : u.search fs name rest = (.ok found, t)) :
        Opened fs entry.canonicalText importer? := by
      have caches := caches_search u fs name rest
      rw [onwards] at caches
      exact opens _ _ (caches _ _ kept)
    cases goesOn with
    | closed onwards => exact .nothing (contributes_of_none (opened onwards)) (ih onwards gives)
    | loader _ _ same =>
      subst same
      cases gives with
      | loader planned => exact comesTo_of_find (opens _ _ kept) planned
    | nothing resolved onwards =>
      exact .nothing (contributes_of_some (opened onwards) resolved) (ih onwards gives)
    | portion resolved onwards =>
      obtain ⟨later, givesLater, rfl⟩ := gives.afterPortion_inv
      exact .portion (contributes_of_some (opened onwards) resolved) (ih onwards givesLater)

/-- The trace tells that a module was made from an origin. -/
inductive MadeFrom (s : Interpreter) (key : String) (module : Module) : Origin → Prop
  | executed {artifact searchPath? code} : .began module code artifact ∈ s.trace →
      MadeFrom s key module (.artifact artifact searchPath? code)
  | assembled {portions} : .assembled key module portions ∈ s.trace →
      s.bodyEvents module = [] → MadeFrom s key module (.portions portions)

/-- Every registered module was made from what its name originates from, and no search path but its
own has got into it. -/
structure Sourced (fs : FileSystem) (entries : List Path) (s : Interpreter) : Prop where
  searchPath : s.searchPath = entries
  opens : s.Opens fs
  modules : ∀ {key module}, s.lookup key = some module → ∃ origin,
    Originates fs entries key origin ∧ s.MadeFrom key module origin ∧
      s.store.ListsOnly module origin.directories?

theorem sourced_new (fs : FileSystem) (config : Config) :
    (new config).Sourced fs config.searchPath where
  searchPath := rfl
  opens _ _ kept := by cases kept
  modules found := by cases found

/-- A search changes neither the search path of the interpreter nor that of a package. -/
theorem directories?_of_search {parent? : Option Module} {directories : List Path} {found : _}
    (search : s.search fs name directories = (found, t)) :
    t.directories? parent? = s.directories? parent? := by
  have step (u : Interpreter) (entry : Path)
      (same : u.searchPath = s.searchPath ∧ u.store.attributes = s.store.attributes) :
      (u.importerFor fs entry).2.searchPath = s.searchPath ∧
        (u.importerFor fs entry).2.store.attributes = s.store.attributes :=
    ⟨by simp [same.1], by simp [same.2]⟩
  have frame := search_induct (s := s)
    (P := fun u => u.searchPath = s.searchPath ∧ u.store.attributes = s.store.attributes) name step
    directories ⟨rfl, rfl⟩
  rw [search] at frame
  obtain ⟨searchPath, attributes⟩ := frame
  cases parent? with
  | none => exact congrArg some searchPath
  | some parent =>
    unfold directories? Store.searchPath? Store.get? Store.attributesOf
    rw [attributes]

theorem Sourced.originates {entries : List Path} {parent? : Option Module} {found : Found}
    {origin : Origin} (sourced : s.Sourced fs entries) (entryless : s.entryPoint = none)
    (ready : Ready fs name parent? found s) (gives : Gives fs name found origin) :
    Originates fs entries name origin := by
  obtain ⟨t, directories, along, search⟩ := ready.searched
  have comes := comesTo_of_search sourced.opens search gives
  rw [← directories?_of_search search] at along
  cases ready.parent with
  | none top =>
    have same : s.searchPath = directories := Option.some.inj along
    rw [← same, sourced.searchPath] at comes
    exact .top top comes
  | @some _ package isParent loaded =>
    rw [loaded?_eq_lookup entryless] at loaded
    obtain ⟨enclosing, originates, -, lists⟩ := sourced.modules loaded
    exact .sub isParent originates (lists.searchPath along) comes

theorem MadeFrom.change {origin : Origin} (made : s.MadeFrom key module origin)
    (change : Change fs roots s t) (owned : s.Owns module) : t.MadeFrom key module origin := by
  cases made with
  | executed began => exact .executed (change.remembered _ began)
  | assembled event silent =>
    exact .assembled (change.remembered _ event) (change.bodyEvents_eq_nil owned silent)

/-- What a body writes into its module is no list, unless it copies one that the module has. -/
theorem listsOnly_wrote {other : Module} {code : Code} {artifact : Path} {attr : String}
    {value : Value} {directories? : Option (List Path)}
    (lists : s.store.ListsOnly module directories?) (named : s.Named)
    (found : s.lookup key = some module) (running : s.Running other code artifact)
    (obtainable : s.Obtainable other value) :
    (s.assign other attr value).store.ListsOnly module directories? := by
  refine Store.ListsOnly.set lists ?_
  intro same items isList
  have isKey := named.apart running.registered found same
  have registered := running.registered
  rw [isKey, found] at registered
  cases registered
  cases obtainable with
  | constant c => cases c <;> cases isList
  | registered => cases isList
  | copied copied =>
    rw [isList] at copied ⊢
    exact lists _ items copied

theorem Change.listsOnly {directories? : Option (List Path)} (change : Change fs roots s t)
    (found : s.lookup key = some module) (lists : s.store.ListsOnly module directories?) :
    t.store.ListsOnly module directories? := by
  cases change with
  | wrote consistent running _ obtainable =>
    exact listsOnly_wrote lists consistent.named found running obtainable
  | printed => exact lists
  | noted => exact lists
  | completed => exact lists
  | looked entry =>
    exact lists.of_get? (get?_importerFor s fs entry module)
  | @assembled _ name _ portions _ ready =>
    have owned : s.Owns module := ready.consistent.sound.owned found
    apply lists.of_get?
    intro attr
    have new : module.id ≠ (s.register (s.registeredName name)).1.id := Nat.ne_of_lt owned
    exact (Store.get?_set_other _ new _ _ _).trans (Store.get?_newModule owned _ _)
  | started _ loadable =>
    have owned : s.Owns module := loadable.consistent.sound.owned found
    exact lists.of_get? (get?_started loadable.unregistered owned)
  | abandoned loadable =>
    rw [abandoned_of_absent loadable.unregistered]
    exact lists
  | bound =>
    unfold bindOnParent
    split
    · exact Store.ListsOnly.set lists fun _ _ isList => by cases isList
    · exact lists

theorem listsOnly_assembled (s : Interpreter) (name : String) (portions : List Path) :
    (s.assemble name portions).2.store.ListsOnly (s.assemble name portions).1 (some portions) := by
  have new := Store.listsOnly_newModule s.store (s.registeredName name) (some portions)
  exact new.set fun _ _ _ => ⟨portions, rfl, rfl⟩

theorem listsOnly_prepared {importer : Importer} {plan : LoadPlan}
    (lists : s.store.ListsOnly module (plan.searchPath?.map fun directory => [directory])) :
    (s.prepared importer plan module).store.ListsOnly module
      (plan.searchPath?.map fun directory => [directory]) := by
  have told : (s.assign module loaderAttribute (.loader importer)).store.ListsOnly module
      (plan.searchPath?.map fun directory => [directory]) :=
    lists.set fun _ _ isList => by cases isList
  unfold prepared entered
  refine Store.ListsOnly.set (Store.ListsOnly.set ?_ ?_) ?_
  · cases isPath : plan.searchPath? with
    | none =>
      rw [isPath] at told
      exact told
    | some directory =>
      rw [isPath] at told
      exact told.set fun _ _ _ => ⟨[directory], rfl, rfl⟩
  all_goals
    intro _ _ isList
    cases isList

theorem listsOnly_started {importer : Importer} {plan : LoadPlan}
    (absent : s.lookup plan.target = none) :
    (s.started importer plan).store.ListsOnly (s.loading plan)
      (plan.searchPath?.map fun directory => [directory]) := by
  rw [started, loading_of_absent absent, getOrCreate_of_absent absent]
  exact listsOnly_prepared (Store.listsOnly_newModule s.store plan.target _)

theorem Change.searchPath (change : Change fs roots s t) : t.searchPath = s.searchPath := by
  cases change with
  | looked entry => exact searchPath_importerFor s fs entry
  | started _ loadable =>
    rw [Interpreter.started, getOrCreate_of_absent loadable.unregistered]
    unfold prepared
    dsimp only
    split <;> rfl
  | abandoned loadable =>
    rw [abandoned_of_absent loadable.unregistered]
    rfl
  | bound =>
    unfold bindOnParent
    split <;> rfl
  | _ => rfl

theorem Change.importers (change : Change fs roots s t) :
    t.importers = s.importers ∨ ∃ entry, t = (s.importerFor fs entry).2 := by
  cases change with
  | looked entry => exact .inr ⟨entry, rfl⟩
  | started _ loadable => exact .inl (started_of_absent _ loadable.unregistered).importers
  | abandoned => exact .inl importers_abandoned
  | bound => exact .inl (importers_bindOnParent _ _ _ _)
  | _ => exact .inl rfl

theorem Change.opens (change : Change fs roots s t) (opens : s.Opens fs) : t.Opens fs := by
  obtain same | ⟨entry, rfl⟩ := change.importers
  · unfold Opens
    rw [same]
    exact opens
  · exact opens.importerFor entry

theorem Sourced.change {entries : List Path} (sourced : s.Sourced fs entries)
    (entryless : s.entryPoint = none) (change : Change fs roots s t) : t.Sourced fs entries where
  searchPath := change.searchPath.trans sourced.searchPath
  opens := change.opens sourced.opens
  modules {key module} found := by
    obtain earlier | ⟨name, registers, same⟩ := change.registered found
    · obtain ⟨origin, originates, made, lists⟩ := sourced.modules earlier
      have owned := change.consistent.sound.owned earlier
      exact ⟨origin, originates, made.change change owned, change.listsOnly earlier lists⟩
    · rw [registeredName_eq entryless] at same
      subst same
      cases registers with
      | @assembled parent? portions _ ready =>
        refine ⟨_, sourced.originates entryless ready .portions, .assembled ?_ ?_, ?_⟩
        · have event : .assembled (s.registeredName key) (s.assemble key portions).1 portions ∈
              (s.assemble key portions).2.trace := List.mem_cons_self
          rw [registeredName_eq entryless] at event
          exact event
        · exact (bodyEvents_assembled ready).2
        · exact listsOnly_assembled s key portions
      | @started parent? importer plan _ loadable =>
        refine ⟨_, sourced.originates entryless loadable.toReady (.loader loadable.found),
          .executed ?_, ?_⟩
        · exact began_mem_started loadable.unregistered
        · exact listsOnly_started loadable.unregistered

theorem Sourced.changes {entries : List Path} (sourced : s.Sourced fs entries)
    (entryless : s.entryPoint = none) (changes : Changes fs roots s t) : t.Sourced fs entries := by
  induction changes with
  | refl => exact sourced
  | tail before change ih =>
    exact ih.change ((entryPoint_of_changes before).trans entryless) change

end Interpreter

end ModuleImport
