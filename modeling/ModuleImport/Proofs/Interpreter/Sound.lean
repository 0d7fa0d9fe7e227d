import ModuleImport.Proofs.Interpreter.Level

namespace ModuleImport

/-- The module whose body an event tells of. -/
def Event.body? : Event → Option Module
  | began module _ _ => some module
  | finished module _ => some module
  | stopped module _ => some module
  | _ => none

namespace Store

@[simp] theorem size_set (s : Store) (module : Module) (attr : String) (value : Value) :
    (s.set module attr value).attributes.size = s.attributes.size := by
  simp [set]

@[simp] theorem size_newModule (s : Store) (name : String) :
    (s.newModule name).2.attributes.size = s.attributes.size + 1 := by
  simp [newModule]

@[simp] theorem entryPointOf_newImporter (s : Store) (root : Path) (entryPoint : Option String)
    (importer : Importer) :
    (s.newImporter root entryPoint).2.entryPointOf importer =
      if importer.id = s.entryPoints.size then entryPoint else s.entryPointOf importer := by
  simp only [entryPointOf, newImporter, Array.getD_eq_getD_getElem?, Array.getElem?_push]
  split <;> rfl

theorem entryPointOf_setEntryPoint (s : Store) (importer other : Importer)
    (entryPoint : Option String) :
    (s.setEntryPoint importer entryPoint).entryPointOf other =
      if other.id = importer.id ∧ other.id < s.entryPoints.size then entryPoint
      else s.entryPointOf other := by
  simp only [entryPointOf, setEntryPoint, Array.getD_eq_getD_getElem?, Array.getElem?_setIfInBounds]
  by_cases same : importer.id = other.id
  · by_cases within : other.id < s.entryPoints.size
    · simp [same, within]
    · simp [same, within]
  · have ne : other.id ≠ importer.id := Ne.symm same
    simp [same, ne]

end Store

namespace Interpreter

/-- Whether a module is an object of the interpreter's store. -/
def Owns (s : Interpreter) (module : Module) : Prop :=
  module.id < s.store.attributes.size

structure Sound (s : Interpreter) : Prop where
  owned : ∀ {key module}, s.lookup key = some module → s.Owns module
  known : ∀ {entry importer}, s.importers.get? entry = some (some importer) →
    importer.id < s.store.entryPoints.size
  agreed : ∀ {entry importer}, s.importers.get? entry = some (some importer) →
    s.store.entryPointOf importer = s.entryPoint
  traced : ∀ {event module}, event ∈ s.trace → event.body? = some module → s.Owns module

/-- States that differ at most in the attributes of modules and in the output. -/
structure Alike (s t : Interpreter) : Prop where
  registry : t.registry = s.registry
  importers : t.importers = s.importers
  entryPoint : t.entryPoint = s.entryPoint
  entryPoints : t.store.entryPoints = s.store.entryPoints
  size : t.store.attributes.size = s.store.attributes.size
  trace : t.trace = s.trace

variable {s t u : Interpreter}

theorem Alike.refl (s : Interpreter) : s.Alike s :=
  ⟨rfl, rfl, rfl, rfl, rfl, rfl⟩

theorem Alike.assign (alike : s.Alike t) (module : Module) (attr : String) (value : Value) :
    s.Alike (t.assign module attr value) :=
  ⟨alike.registry, alike.importers, alike.entryPoint, alike.entryPoints,
    (Store.size_set _ _ _ _).trans alike.size, alike.trace⟩

theorem Alike.println (alike : s.Alike t) (line : String) : s.Alike (t.println line) :=
  ⟨alike.registry, alike.importers, alike.entryPoint, alike.entryPoints, alike.size, alike.trace⟩

theorem Alike.record (alike : s.Alike t) (event : Event) :
    (s.record event).Alike (t.record event) :=
  ⟨alike.registry, alike.importers, alike.entryPoint, alike.entryPoints, alike.size,
    congrArg (event :: ·) alike.trace⟩

theorem Alike.sound (alike : s.Alike t) (sound : s.Sound) : t.Sound where
  owned h := by
    unfold Owns
    rw [alike.size]
    unfold lookup at h
    rw [alike.registry] at h
    exact sound.owned h
  known h := by
    rw [alike.importers] at h
    rw [alike.entryPoints]
    exact sound.known h
  agreed h := by
    rw [alike.importers] at h
    rw [Store.entryPointOf, alike.entryPoints, alike.entryPoint]
    exact sound.agreed h
  traced h about := by
    unfold Owns
    rw [alike.size]
    rw [alike.trace] at h
    exact sound.traced h about

theorem sound_new (config : Config) : (new config).Sound where
  owned h := by cases h
  known h := by cases h
  agreed h := by cases h
  traced h := by cases h

theorem Sound.record (sound : s.Sound) {e : Event}
    (owned : ∀ module, e.body? = some module → s.Owns module) : (s.record e).Sound where
  owned := sound.owned
  known := sound.known
  agreed := sound.agreed
  traced h about := by
    rcases List.mem_cons.mp h with rfl | h
    · exact owned _ about
    · exact sound.traced h about

@[simp] theorem lookup_record (s : Interpreter) (event : Event) (key : String) :
    (s.record event).lookup key = s.lookup key := rfl

@[simp] theorem lookup_assign (s : Interpreter) (module : Module) (attr : String) (value : Value)
    (key : String) : (s.assign module attr value).lookup key = s.lookup key := rfl

@[simp] theorem lookup_remove (s : Interpreter) (name key : String) :
    (s.remove name).lookup key = if key = name then none else s.lookup key :=
  Table.get?_erase _ _ _

theorem Sound.remove (sound : s.Sound) (name : String) : (s.remove name).Sound := by
  have erased : ({ s with registry := s.registry.erase name } : Interpreter).Sound := by
    refine ⟨?_, sound.known, sound.agreed, sound.traced⟩
    intro key module h
    change (s.remove name).lookup key = some module at h
    rw [lookup_remove] at h
    split at h
    · cases h
    · exact sound.owned h
  exact erased.record (fun _ about => by cases about)

@[simp] theorem size_register (s : Interpreter) (name : String) :
    (s.register name).2.store.attributes.size = s.store.attributes.size + 1 :=
  Store.size_newModule _ _

@[simp] theorem lookup_register (s : Interpreter) (name key : String) :
    (s.register name).2.lookup key =
      if key = name then some (s.register name).1 else s.lookup key :=
  Table.get?_insert _ _ _ _

@[simp] theorem id_register (s : Interpreter) (name : String) :
    (s.register name).1.id = s.store.attributes.size := rfl

/-- The module that is registered is a new object. -/
@[simp] theorem not_owns_register (s : Interpreter) (name : String) :
    ¬s.Owns (s.register name).1 := by
  simp [Owns]

@[simp] theorem owns_register (s : Interpreter) (name : String) :
    (s.register name).2.Owns (s.register name).1 := by
  simp [Owns]

theorem Owns.register {module : Module} (owned : s.Owns module) (name : String) :
    (s.register name).2.Owns module := by
  unfold Owns at owned ⊢
  rw [size_register]
  omega

theorem Sound.register (sound : s.Sound) (name : String) : (s.register name).2.Sound := by
  refine ⟨?_, sound.known, sound.agreed, fun h about => (sound.traced h about).register name⟩
  intro key module h
  rw [lookup_register] at h
  split at h
  · cases h
    simp
  · exact (sound.owned h).register name

theorem getOrCreate_of_absent {name : String} (absent : s.lookup name = none) :
    s.getOrCreate name = (⟨(s.register name).1, true⟩,
      (s.register name).2.record (.registered name (s.register name).1)) := by
  rw [getOrCreate, absent]

theorem importerFor_cases (s : Interpreter) (fs : FileSystem) (entry : Path) :
    (∃ importer?, s.importers.get? entry.canonicalText = some importer? ∧
      s.importerFor fs entry = (importer?, s)) ∨
    (∃ root, s.importers.get? entry.canonicalText = none ∧
      Repository.openRoot fs entry = .ok root ∧
      s.importerFor fs entry = (some (s.store.newImporter root s.entryPoint).1,
        { s with
          importers := s.importers.insert entry.canonicalText
            (some (s.store.newImporter root s.entryPoint).1)
          store := (s.store.newImporter root s.entryPoint).2 })) ∨
    (s.importers.get? entry.canonicalText = none ∧ s.importerFor fs entry =
      (none, { s with importers := s.importers.insert entry.canonicalText none })) := by
  cases hcached : s.importers.get? entry.canonicalText with
  | some importer? =>
    left
    exact ⟨importer?, rfl, by simp only [importerFor, hcached]⟩
  | none =>
    right
    cases hopen : Repository.openRoot fs entry with
    | ok root =>
      left
      refine ⟨root, rfl, rfl, ?_⟩
      simp only [importerFor, hcached, Store.openImporter, hopen, Except.map]
    | error e =>
      right
      refine ⟨rfl, ?_⟩
      simp only [importerFor, hcached, Store.openImporter, hopen, Except.map]

section Frame

variable (s : Interpreter) (fs : FileSystem) (entry : Path)

@[simp] theorem registry_importerFor : (s.importerFor fs entry).2.registry = s.registry := by
  obtain ⟨_, _, h⟩ | ⟨_, _, _, h⟩ | ⟨_, h⟩ := s.importerFor_cases fs entry <;> rw [h]

@[simp] theorem entryPoint_importerFor : (s.importerFor fs entry).2.entryPoint = s.entryPoint := by
  obtain ⟨_, _, h⟩ | ⟨_, _, _, h⟩ | ⟨_, h⟩ := s.importerFor_cases fs entry <;> rw [h]

@[simp] theorem searchPath_importerFor : (s.importerFor fs entry).2.searchPath = s.searchPath := by
  obtain ⟨_, _, h⟩ | ⟨_, _, _, h⟩ | ⟨_, h⟩ := s.importerFor_cases fs entry <;> rw [h]

@[simp] theorem trace_importerFor : (s.importerFor fs entry).2.trace = s.trace := by
  obtain ⟨_, _, h⟩ | ⟨_, _, _, h⟩ | ⟨_, h⟩ := s.importerFor_cases fs entry <;> rw [h]

@[simp] theorem output_importerFor : (s.importerFor fs entry).2.output = s.output := by
  obtain ⟨_, _, h⟩ | ⟨_, _, _, h⟩ | ⟨_, h⟩ := s.importerFor_cases fs entry <;> rw [h]

@[simp] theorem attributes_importerFor :
    (s.importerFor fs entry).2.store.attributes = s.store.attributes := by
  obtain ⟨_, _, h⟩ | ⟨_, _, _, h⟩ | ⟨_, h⟩ := s.importerFor_cases fs entry <;>
    simp [h, Store.newImporter]

@[simp] theorem lookup_importerFor (key : String) :
    (s.importerFor fs entry).2.lookup key = s.lookup key := by
  simp [lookup]

@[simp] theorem get?_importerFor (module : Module) (attr : String) :
    (s.importerFor fs entry).2.store.get? module attr = s.store.get? module attr := by
  simp [Store.get?, Store.attributesOf]

end Frame

theorem Sound.importerFor (sound : s.Sound) (fs : FileSystem) (entry : Path) :
    (s.importerFor fs entry).2.Sound := by
  obtain ⟨importer?, _, h⟩ | ⟨root, _, _, h⟩ | ⟨_, h⟩ := s.importerFor_cases fs entry
  · rw [h]
    exact sound
  · rw [h]
    refine ⟨sound.owned, ?_, ?_, sound.traced⟩
    · intro key importer cached
      change importer.id < (s.store.entryPoints.push s.entryPoint).size
      rw [Array.size_push]
      change (s.importers.insert _ _).get? key = _ at cached
      rw [Table.get?_insert] at cached
      split at cached
      · cases cached
        exact Nat.lt_succ_self _
      · have := sound.known cached
        omega
    · intro key importer cached
      change (s.store.newImporter root s.entryPoint).2.entryPointOf importer = s.entryPoint
      rw [Store.entryPointOf_newImporter]
      change (s.importers.insert _ _).get? key = _ at cached
      rw [Table.get?_insert] at cached
      split at cached
      · cases cached
        exact if_pos rfl
      · have := sound.known cached
        rw [if_neg (by omega)]
        exact sound.agreed cached
  · rw [h]
    have older {key importer}
        (cached : (s.importers.insert entry.canonicalText none).get? key = some (some importer)) :
        s.importers.get? key = some (some importer) := by
      rw [Table.get?_insert] at cached
      split at cached
      · cases cached
      · exact cached
    exact ⟨sound.owned, fun cached => sound.known (older cached),
      fun cached => sound.agreed (older cached), sound.traced⟩

@[simp] theorem importerFor_cached (s : Interpreter) (fs : FileSystem) (entry : Path) :
    (s.importerFor fs entry).2.importers.get? entry.canonicalText =
      some (s.importerFor fs entry).1 := by
  have inserted (importer? : Option Importer) :
      (s.importers.insert entry.canonicalText importer?).get? entry.canonicalText =
        some importer? := by
    simp
  obtain ⟨importer?, cached, same⟩ | ⟨root, _, _, same⟩ | ⟨_, same⟩ := s.importerFor_cases fs entry
  · rw [same]
    exact cached
  · rw [same]
    exact inserted _
  · rw [same]
    exact inserted none

/-- What holds of the state before a search and is kept by looking up entries holds after it. -/
theorem search_induct {P : Interpreter → Prop} {fs : FileSystem} (name : String)
    (step : ∀ t entry, P t → P (t.importerFor fs entry).2) (directories : List Path)
    (start : P s) : P (s.search fs name directories).2 := by
  induction directories generalizing s with
  | nil => exact start
  | cons entry rest ih =>
    have looked := step s entry start
    rw [search]
    cases hfor : s.importerFor fs entry with
    | mk importer? t =>
      rw [hfor] at looked
      cases importer? with
      | none => exact ih looked
      | some importer =>
        dsimp only
        cases importer.offer fs name with
        | error e => exact looked
        | ok offer =>
          cases offer with
          | loader => exact looked
          | nothing => exact ih looked
          | portion directory => exact ih looked

/-- How a search that finds something goes on from `u` when it has looked up its first entry. -/
inductive GoesOn (fs : FileSystem) (name : String) (rest : List Path) (u t : Interpreter) :
    Option Importer → Found → Prop
  | closed {found} : u.search fs name rest = (.ok found, t) → GoesOn fs name rest u t none found
  | loader {importer resolution} : importer.resolve fs name = .ok resolution →
      resolution.offer = .loader → u = t → GoesOn fs name rest u t (some importer) (.loader importer)
  | nothing {importer found} : importer.resolve fs name = .ok .nothing →
      u.search fs name rest = (.ok found, t) → GoesOn fs name rest u t (some importer) found
  | portion {importer directory found} : importer.resolve fs name = .ok (.portion directory) →
      u.search fs name rest = (.ok found, t) →
      GoesOn fs name rest u t (some importer) (found.afterPortion directory)

theorem offer_inv {fs : FileSystem} {name : String} {importer : Importer} {offer : Offer}
    (offered : importer.offer fs name = .ok offer) :
    ∃ resolution, importer.resolve fs name = .ok resolution ∧ resolution.offer = offer := by
  unfold Importer.offer at offered
  cases resolved : importer.resolve fs name with
  | error e =>
    rw [resolved] at offered
    cases offered
  | ok resolution =>
    rw [resolved] at offered
    cases offered
    exact ⟨resolution, rfl, rfl⟩

theorem search_cons_inv {fs : FileSystem} {name : String} {entry : Path} {rest : List Path}
    {found : Found} (h : s.search fs name (entry :: rest) = (.ok found, t)) :
    ∃ importer? u, s.importerFor fs entry = (importer?, u) ∧
      GoesOn fs name rest u t importer? found := by
  rw [search] at h
  cases looked : s.importerFor fs entry with
  | mk importer? u =>
    refine ⟨importer?, u, rfl, ?_⟩
    rw [looked] at h
    cases importer? with
    | none => exact .closed h
    | some importer =>
      dsimp only at h
      cases offered : importer.offer fs name with
      | error e =>
        rw [offered] at h
        cases h
      | ok offer =>
        rw [offered] at h
        obtain ⟨resolution, resolved, offers⟩ := offer_inv offered
        cases offer with
        | loader =>
          cases h
          exact .loader resolved offers rfl
        | nothing =>
          cases resolution <;> cases offers
          exact .nothing resolved h
        | portion directory =>
          cases resolution <;> cases offers
          dsimp only at h
          cases onwards : u.search fs name rest with
          | mk result v =>
            rw [onwards] at h
            cases result with
            | error e => cases h
            | ok later =>
              cases h
              exact .portion resolved onwards

/-- A search ends with a loader that the interpreter keeps, and that has offered to load. -/
theorem search_loader {fs : FileSystem} {name : String} {directories : List Path}
    {importer : Importer} (h : s.search fs name directories = (.ok (.loader importer), t)) :
    (∃ entry, t.importers.get? entry = some (some importer)) ∧
      ∃ resolution, importer.resolve fs name = .ok resolution ∧ resolution.offer = .loader := by
  induction directories generalizing s with
  | nil => cases h
  | cons entry rest ih =>
    have kept := s.importerFor_cached fs entry
    obtain ⟨importer?, u, looked, goesOn⟩ := search_cons_inv h
    rw [looked] at kept
    generalize isLoader : Found.loader importer = found at goesOn
    cases goesOn with
    | closed onwards =>
      subst isLoader
      exact ih onwards
    | @loader _ resolution resolved offers same =>
      cases isLoader
      cases same
      exact ⟨⟨_, kept⟩, resolution, resolved, offers⟩
    | nothing _ onwards =>
      subst isLoader
      exact ih onwards
    | @portion _ directory later _ onwards =>
      cases later with
      | loader other =>
        cases isLoader
        exact ih onwards
      | portions directories => cases isLoader

theorem search_registry (fs : FileSystem) (name : String) (directories : List Path)
    (s : Interpreter) : (s.search fs name directories).2.registry = s.registry := by
  refine search_induct (P := fun t => t.registry = s.registry) name ?_ directories rfl
  intro t entry same
  rw [registry_importerFor, same]

theorem search_entryPoint (fs : FileSystem) (name : String) (directories : List Path)
    (s : Interpreter) : (s.search fs name directories).2.entryPoint = s.entryPoint := by
  refine search_induct (P := fun t => t.entryPoint = s.entryPoint) name ?_ directories rfl
  intro t entry same
  rw [entryPoint_importerFor, same]

end Interpreter

end ModuleImport
