import Mathlib.Logic.Relation
import ModuleImport.Proofs.Interpreter.Continued

namespace ModuleImport

theorem Store.openImporter_inv {fs : FileSystem} {store store' : Store} {path : Path}
    {main : Option String} {importer : Importer}
    (h : store.openImporter fs path main = .ok (importer, store')) :
    ∃ root, store' = (store.newImporter root main).2 := by
  unfold openImporter at h
  cases opened : Repository.openRoot fs path with
  | error e =>
    rw [opened] at h
    cases h
  | ok root =>
    rw [opened] at h
    cases h
    exact ⟨root, rfl⟩

namespace Interpreter

/-- What an interpreter can be asked for, and what can be done besides with importers and with module
objects, which are all objects of its store. Only importers that it does not keep are given another
entry point by somebody else. -/
inductive Operation : Interpreter → Interpreter → Prop
  | called {s t} : Called s t → Operation s t
  | getOrCreate (s name) : Operation s (s.getOrCreate name).2
  | remove (s name) : Operation s (s.remove name)
  | execute {s t fs module code artifact x} : s.Owns module →
      execute fs module code artifact s = some (x, t) → Operation s t
  | newModule (s name) : Operation s (s.newModule name).2
  | assign (s module attr value) : Operation s (s.assign module attr value)
  | load {s t fs importer name resolution x} :
      load fs importer name resolution s = some (x, t) → Operation s t
  | loadModule {s t fs importer name x} :
      loadModule fs importer name s = some (x, t) → Operation s t
  | openImporter {s fs path main importer store} :
      s.store.openImporter fs path main = .ok (importer, store) → Operation s { s with store }
  | setMain {s importer} (main) :
      (∀ entry kept, s.importers.get? entry = some (some kept) → kept.id ≠ importer.id) →
      Operation s { s with store := s.store.setEntryPoint importer main }

variable {s t u : Interpreter} {fs : FileSystem}

/-- What is kept for the entries of search paths is kept for good, also that there is no importer. -/
def Caches (s t : Interpreter) : Prop :=
  ∀ entry importer?, s.importers.get? entry = some importer? →
    t.importers.get? entry = some importer?

theorem Caches.of_importers (same : t.importers = s.importers) : s.Caches t := by
  intro entry importer? cached
  rw [same]
  exact cached

theorem Caches.trans (st : s.Caches t) (tu : t.Caches u) : s.Caches u :=
  fun entry importer? cached => tu entry importer? (st entry importer? cached)

theorem caches_insert {entry : String} (absent : s.importers.get? entry = none)
    {importer? : Option Importer} (same : t.importers = s.importers.insert entry importer?) :
    s.Caches t := by
  intro key cached? cached
  rw [same, Table.get?_insert, if_neg]
  · exact cached
  · rintro rfl
    rw [absent] at cached
    cases cached

@[simp] theorem importers_abandoned {plan : LoadPlan} : (s.abandoned plan t).importers = t.importers := by
  unfold abandoned
  dsimp only
  split <;> rfl

theorem caches_importerFor (s : Interpreter) (fs : FileSystem) (entry : Path) :
    s.Caches (s.importerFor fs entry).2 := by
  obtain ⟨_, _, h⟩ | ⟨_, absent, _, h⟩ | ⟨absent, h⟩ := s.importerFor_cases fs entry <;> rw [h]
  · exact .of_importers rfl
  · exact caches_insert absent rfl
  · exact caches_insert absent rfl

theorem kept_caches (fs : FileSystem) : Kept fs Caches where
  trans _ := Caches.trans
  alike h := .of_importers h.importers
  noted _ _ _ := .of_importers rfl
  looked {s} entry _ := caches_importerFor s fs entry
  assembled _ _ _ := .of_importers rfl
  completed _ _ _ _ body := Caches.trans (.of_importers rfl) body
  abandoned _ _ _ _ body :=
    Caches.trans (Caches.trans (.of_importers rfl) body) (.of_importers importers_abandoned)

/-- What is shown of every operation. -/
structure Coheres (s t : Interpreter) : Prop where
  consistent : t.Consistent
  caches : s.Caches t

theorem Coheres.trans (st : s.Coheres t) (tu : t.Coheres u) : s.Coheres u :=
  ⟨tu.consistent, st.caches.trans tu.caches⟩

/-- The relation by which imports keep states coherent. -/
abbrev KeepsCoherent (s t : Interpreter) : Prop :=
  s.Caches t ∧ (s.Named → t.Named)

theorem kept_coherent (fs : FileSystem) : Kept fs KeepsCoherent :=
  (kept_caches fs).and (kept_named fs)

theorem Follows.coheres (follows : Follows KeepsCoherent s t) (consistent : s.Consistent) :
    s.Coheres t :=
  ⟨⟨follows.sound, follows.kept.2 consistent.named⟩, follows.kept.1⟩

section Bodies

variable {depth : Nat} {module : Module} {code : Code} {artifact : Path} {plan : LoadPlan}
  {importer : Importer}

theorem body_coheres (consistent : s.Consistent) (owned : s.Owns module)
    {instructions : List Instruction} {x : Except RunError Unit}
    (h : Body.runInstructions (importWithin fs depth) module artifact instructions s =
      some (x, t)) : s.Coheres (t.record (.ofEnd module artifact x)) := by
  have follows := runInstructions_follows (kept_coherent fs)
    (importWithin_follows (kept_coherent fs) depth) consistent.sound h
  obtain ⟨after, caches⟩ := follows.coheres consistent
  refine ⟨⟨after.sound.record fun other about => ?_, after.named.of_registry rfl⟩, caches⟩
  have own : other = module := by cases x <;> exact (Option.some.inj about).symm
  rw [own]
  exact Nat.lt_of_lt_of_le owned follows.grows

theorem coheres_execute (consistent : s.Consistent) (owned : s.Owns module)
    {x : Except RunError Unit} (h : execute fs module code artifact s = some (x, t)) :
    s.Coheres t := by
  obtain ⟨u, body, rfl⟩ := Body.run_inv h
  have start := consistent_entered consistent owned code artifact
  have still := (alike_entered s module code artifact).owns owned
  exact Coheres.trans ⟨start, .of_importers rfl⟩ (body_coheres start still body)

@[simp] theorem importers_getOrCreate (s : Interpreter) (name : String) :
    (s.getOrCreate name).2.importers = s.importers := by
  unfold getOrCreate
  split <;> rfl

theorem coheres_getOrCreate (consistent : s.Consistent) (name : String) :
    s.Coheres (s.getOrCreate name).2 :=
  ⟨(consistent_getOrCreate consistent name).1, .of_importers (importers_getOrCreate s name)⟩

theorem coheres_carryOut (consistent : s.Consistent) {x : Except (LoadError RunError) Module}
    (h : (host (importWithin fs depth)).carryOut importer plan s = some (x, t)) : s.Coheres t := by
  have owned := (consistent_getOrCreate consistent plan.target).2
  have alike := alike_prepared (s.getOrCreate plan.target).2 importer plan (s.loading plan)
  have start : s.Coheres (s.started importer plan) :=
    ⟨consistent_started importer plan consistent,
      .of_importers (alike.importers.trans (importers_getOrCreate s plan.target))⟩
  have still : (s.started importer plan).Owns (s.loading plan) := alike.owns owned
  obtain ⟨u, body, -, rfl⟩ | ⟨e, u, body, -, rfl⟩ := carryOut_inv h
  · exact start.trans (body_coheres start.consistent still body)
  · have stopped := start.trans (body_coheres start.consistent still body)
    unfold abandoned
    dsimp only
    split
    · exact stopped.trans ⟨⟨stopped.consistent.sound.remove _, stopped.consistent.named.remove _⟩,
        .of_importers rfl⟩
    · exact stopped

theorem coheres_load (consistent : s.Consistent) {name : String} {resolution : Resolution}
    {x : Except RunError Module} (h : load fs importer name resolution s = some (x, t)) :
    s.Coheres t := by
  rw [load, Run.look_bind] at h
  obtain ⟨y, ended, rfl⟩ := Run.adapt_inv h
  unfold Host.load at ended
  cases made : LoadPlan.make (ε := RunError) fs (s.store.entryPointOf importer) name resolution with
  | error e =>
    rw [made] at ended
    obtain ⟨_, rfl⟩ := Run.throw_inv ended
    exact ⟨consistent, .of_importers rfl⟩
  | ok plan =>
    rw [made] at ended
    exact coheres_carryOut consistent ended

theorem coheres_loadModule (consistent : s.Consistent) {name : String} {x : Except RunError Module}
    (h : loadModule fs importer name s = some (x, t)) : s.Coheres t := by
  rw [loadModule, Run.look_bind] at h
  obtain ⟨y, ended, rfl⟩ := Run.adapt_inv h
  rw [Host.loadModule_eq] at ended
  cases found : LoadPlan.find (ε := RunError) fs importer (s.store.entryPointOf importer) name with
  | error e =>
    rw [found] at ended
    obtain ⟨_, rfl⟩ := Run.throw_inv ended
    exact ⟨consistent, .of_importers rfl⟩
  | ok plan =>
    rw [found] at ended
    exact coheres_carryOut consistent ended

end Bodies

theorem Consistent.newModule (consistent : s.Consistent) (name : String) :
    (s.newModule name).2.Consistent where
  sound := by
    have grows {module : Module} (owned : s.Owns module) : (s.newModule name).2.Owns module := by
      unfold Owns at owned ⊢
      change module.id < (s.store.newModule name).2.attributes.size
      rw [Store.size_newModule]
      omega
    exact ⟨fun found => grows (consistent.sound.owned found), consistent.sound.known,
      consistent.sound.agreed, fun member about => grows (consistent.sound.traced member about)⟩
  named := consistent.named.of_registry rfl

/-- A state whose store has only got other importers, or other entry points for importers that are
not kept, is as consistent as before. -/
theorem Consistent.withStore (consistent : s.Consistent) {store : Store}
    (attributes : store.attributes = s.store.attributes)
    (known : s.store.entryPoints.size ≤ store.entryPoints.size)
    (same : ∀ {entry importer}, s.importers.get? entry = some (some importer) →
      store.entryPointOf importer = s.store.entryPointOf importer) :
    ({ s with store } : Interpreter).Consistent where
  sound := by
    have owns {module : Module} (owned : s.Owns module) :
        ({ s with store } : Interpreter).Owns module := by
      unfold Owns at owned ⊢
      change module.id < store.attributes.size
      rw [attributes]
      exact owned
    exact ⟨fun found => owns (consistent.sound.owned found),
      fun cached => Nat.lt_of_lt_of_le (consistent.sound.known cached) known,
      fun cached => (same cached).trans (consistent.sound.agreed cached),
      fun member about => owns (consistent.sound.traced member about)⟩
  named := consistent.named.of_registry rfl

theorem Operation.coheres (operation : Operation s t) (consistent : s.Consistent) :
    s.Coheres t := by
  cases operation with
  | called called =>
    refine (called.follows kept_coherent (fun _ _ => ⟨.of_importers rfl, ?_⟩)
      consistent.sound).coheres consistent
    exact fun named => named.of_registry rfl
  | getOrCreate name => exact coheres_getOrCreate consistent name
  | remove name =>
    exact ⟨⟨consistent.sound.remove name, consistent.named.remove name⟩, .of_importers rfl⟩
  | execute owned ended => exact coheres_execute consistent owned ended
  | newModule name => exact ⟨consistent.newModule name, .of_importers rfl⟩
  | assign module attr value =>
    have alike := (Alike.refl s).assign module attr value
    exact ⟨⟨alike.sound consistent.sound, consistent.named.of_registry rfl⟩, .of_importers rfl⟩
  | load ended => exact coheres_load consistent ended
  | loadModule ended => exact coheres_loadModule consistent ended
  | @openImporter fs path main importer store opened =>
    obtain ⟨root, rfl⟩ := Store.openImporter_inv opened
    refine ⟨consistent.withStore rfl ?_ (fun {entry kept} cached => ?_), .of_importers rfl⟩
    · change _ ≤ (s.store.entryPoints.push main).size
      rw [Array.size_push]
      omega
    · have := consistent.sound.known cached
      exact (Store.entryPointOf_newImporter _ _ _ _).trans (if_neg (by omega))
  | @setMain importer main foreign =>
    refine ⟨consistent.withStore rfl ?_ (fun {entry kept} cached => ?_), .of_importers rfl⟩
    · exact Nat.le_of_eq Array.size_setIfInBounds.symm
    · rw [Store.entryPointOf_setEntryPoint, if_neg]
      exact fun same => foreign entry kept cached same.1

/-- Whatever operations have led to a state, every importer that the interpreter keeps knows its
entry point, so that both register each name in the same way, and whatever is kept for an entry of a
search path stays kept. -/
theorem kept_importers_agree {config : Config}
    (reached : Relation.ReflTransGen Operation (new config) s) :
    (∀ entry importer, s.importers.get? entry = some (some importer) →
      s.store.entryPointOf importer = s.entryPoint ∧
        ∀ name, Name.registered (s.store.entryPointOf importer) name = s.registeredName name) ∧
    ∀ t, Relation.ReflTransGen Operation s t → ∀ entry importer?,
      s.importers.get? entry = some importer? → t.importers.get? entry = some importer? := by
  have coheres {s t : Interpreter} (consistent : s.Consistent)
      (operations : Relation.ReflTransGen Operation s t) : s.Coheres t := by
    induction operations with
    | refl => exact ⟨consistent, .of_importers rfl⟩
    | tail _ operation ih => exact ih.trans (operation.coheres ih.consistent)
  have consistent := (coheres (Reached.consistent (.new config)) reached).consistent
  constructor
  · intro entry importer kept
    have agreed := consistent.sound.agreed kept
    exact ⟨agreed, fun name => by rw [agreed]; rfl⟩
  · exact fun t later => (coheres consistent later).caches

/-- An importer is kept when `n` is imported, the entry point becomes `a`, another importer of the
same repository fails to load `b` and is told an entry point of its own, and `a` fails. -/
theorem kept_importers_agree_brokenFiles :
    ∃ s importer, Relation.ReflTransGen Operation fresh s ∧
      s.importers.get? "/r" = some (some importer) ∧ s.entryPoint = some "a" ∧
      s.store.entryPointOf importer = s.entryPoint := by
  have ran : ((importModule brokenFiles "n" fresh).bind fun (_, s) =>
      ((s.setEntryPoint (some "a")).store.openImporter brokenFiles ⟨"/r"⟩ none).toOption.bind
        fun (importer, store) =>
      (loadModule brokenFiles importer "b" { s.setEntryPoint (some "a") with store }).bind
        fun (_, t) =>
      (importModule brokenFiles "a"
        { t with store := t.store.setEntryPoint importer (some "b") }).map fun (_, u) =>
      (t.importers.entries.all fun kept => kept.2.all (·.id ≠ importer.id),
        u.importers.get? "/r", u.entryPoint)) =
      some (true, some (some ⟨0, ⟨"/r"⟩⟩), some "a") := by decide +kernel
  obtain ⟨⟨x, s⟩, first, ran⟩ := Option.bind_eq_some_iff.mp ran
  obtain ⟨⟨importer, store⟩, opened, ran⟩ := Option.bind_eq_some_iff.mp ran
  obtain ⟨⟨y, t⟩, loaded, ran⟩ := Option.bind_eq_some_iff.mp ran
  obtain ⟨⟨z, u⟩, last, ran⟩ := Option.map_eq_some_iff.mp ran
  simp only [Prod.mk.injEq] at ran
  obtain ⟨others, kept, entryPoint⟩ := ran
  have opens : (s.setEntryPoint (some "a")).store.openImporter brokenFiles ⟨"/r"⟩ none =
      .ok (importer, store) := by
    cases result : (s.setEntryPoint (some "a")).store.openImporter brokenFiles ⟨"/r"⟩ none with
    | error e =>
      rw [result] at opened
      cases opened
    | ok made =>
      rw [result] at opened
      exact congrArg Except.ok (Option.some.inj opened)
  have foreign (entry : String) (other : Importer)
      (cached : t.importers.get? entry = some (some other)) : other.id ≠ importer.id := by
    have one := List.all_eq_true.mp others _ (Table.mem_of_lookupIn cached)
    exact of_decide_eq_true one
  have reached : Relation.ReflTransGen Operation fresh u :=
    .tail (.tail (.tail (.tail (.tail (.single (.called (.importModule first)))
      (.called (.setEntryPoint s (some "a")))) (.openImporter opens)) (.loadModule loaded))
      (.setMain (some "b") foreign)) (.called (.importModule last))
  exact ⟨u, _, reached, kept, entryPoint, ((kept_importers_agree reached).1 _ _ kept).1⟩

end Interpreter

end ModuleImport
