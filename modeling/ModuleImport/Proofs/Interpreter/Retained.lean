import ModuleImport.Proofs.Interpreter.Continued
import ModuleImport.Proofs.Interpreter.Instruction
import ModuleImport.Proofs.Interpreter.Rollback

namespace ModuleImport

open Run

namespace Interpreter

/-- What is registered in the first state is registered in the second, to the same module. -/
def Retains (s t : Interpreter) : Prop :=
  ∀ key module, s.lookup key = some module → t.lookup key = some module

variable {s t u : Interpreter}

theorem Retains.of_registry (same : t.registry = s.registry) : s.Retains t := by
  intro key module registered
  unfold lookup at registered ⊢
  rw [same]
  exact registered

theorem Retains.refl (s : Interpreter) : s.Retains s :=
  .of_registry rfl

theorem Retains.trans (st : s.Retains t) (tu : t.Retains u) : s.Retains u :=
  fun key module registered => tu key module (st key module registered)

theorem retains_register {name : String} (absent : s.lookup name = none) :
    s.Retains (s.register name).2 := by
  intro key module registered
  have other : key ≠ name := by
    rintro rfl
    rw [absent] at registered
    cases registered
  simpa [other] using registered

theorem retains_getOrCreate (s : Interpreter) (name : String) :
    s.Retains (s.getOrCreate name).2 := by
  cases found : s.lookup name with
  | none =>
    rw [getOrCreate_of_absent found]
    exact retains_register found
  | some module =>
    rw [getOrCreate, found]
    exact .refl s

@[simp] theorem lookup_getOrCreate (s : Interpreter) (name : String) :
    (s.getOrCreate name).2.lookup name = some (s.getOrCreate name).1.module := by
  cases found : s.lookup name with
  | none =>
    rw [getOrCreate_of_absent found]
    exact (lookup_register s name name).trans (if_pos rfl)
  | some module =>
    rw [getOrCreate, found]
    exact found

section Loads

variable {importer : Importer} {plan : LoadPlan}

theorem registry_started (importer : Importer) (plan : LoadPlan) (s : Interpreter) :
    (s.started importer plan).registry = (s.getOrCreate plan.target).2.registry :=
  (alike_prepared _ importer plan (s.loading plan)).registry

theorem retains_started (importer : Importer) (plan : LoadPlan) (s : Interpreter) :
    s.Retains (s.started importer plan) :=
  (retains_getOrCreate s plan.target).trans (.of_registry (registry_started importer plan s))

@[simp] theorem lookup_loading (importer : Importer) (plan : LoadPlan) (s : Interpreter) :
    (s.started importer plan).lookup plan.target = some (s.loading plan) := by
  have registered := lookup_getOrCreate s plan.target
  unfold lookup at registered ⊢
  rw [registry_started]
  exact registered

theorem Retains.completed (body : (s.started importer plan).Retains t) :
    s.Retains (s.completed plan t) ∧
      (s.completed plan t).lookup plan.target = some (s.loading plan) := by
  have registered := body _ _ (lookup_loading importer plan s)
  exact ⟨(retains_started importer plan s).trans body, registered⟩

theorem Retains.abandoned (body : (s.started importer plan).Retains t) :
    s.Retains (s.abandoned plan t) ∧
      ((s.abandoned plan t).lookup plan.target = none ↔ s.lookup plan.target = none) := by
  have retained := (retains_started importer plan s).trans body
  cases found : s.lookup plan.target with
  | none =>
    constructor
    · intro key module registered
      have other : key ≠ plan.target := by
        rintro rfl
        rw [found] at registered
        cases registered
      simpa [found, other] using retained key module registered
    · simp [found]
  | some module =>
    have kept : (s.abandoned plan t).registry = t.registry := by
      rw [Interpreter.abandoned, getOrCreate, found]
      rfl
    have retained := retained.trans (.of_registry kept)
    refine ⟨retained, ?_⟩
    simp [retained _ _ found]

end Loads

/-- The imports that are done inside others take nothing away. -/
def Retaining (inner : String → Run Module) : Prop :=
  ∀ ⦃name s x t⦄, inner name s = some (x, t) → s.Retains t

section Imports

variable {fs : FileSystem} {inner : String → Run Module}

theorem retains_instruction (retaining : Retaining inner) {module : Module} {artifact : Path}
    {instruction : Instruction} {x : Except RunError Unit}
    (h : Body.runInstruction inner module artifact instruction s = some (x, t)) : s.Retains t := by
  cases Body.instructed_of_runInstruction h with
  | stored => exact .of_registry rfl
  | importFailed failed => exact retaining failed
  | bound imported => exact (retaining imported).trans (.of_registry rfl)
  | boundItself imported _ => exact (retaining imported).trans (.of_registry rfl)
  | outermostFailed imported failed => exact (retaining imported).trans (retaining failed)
  | boundOutermost imported again =>
    exact ((retaining imported).trans (retaining again)).trans (.of_registry rfl)
  | copied _ => exact .of_registry rfl
  | missing _ => exact .refl _
  | printed => exact .of_registry rfl
  | raised => exact .refl _

theorem retains_body (retaining : Retaining inner) {module : Module} {artifact : Path}
    {instructions : List Instruction} {x : Except RunError Unit}
    (h : Body.runInstructions inner module artifact instructions s = some (x, t)) :
    s.Retains t := by
  have step {u v : Interpreter} {y : Except RunError Unit} {instruction : Instruction}
      (before : s.Retains u)
      (ran : Body.runInstruction inner module artifact instruction u = some (y, v)) :
      s.Retains v := before.trans (retains_instruction retaining ran)
  obtain ⟨_, retained⟩ | ⟨e, _, retained⟩ := Body.runInstructions_induct (P := s.Retains)
    (Q := fun _ => s.Retains) (fun _ _ => step) (fun _ _ => step) (.refl s) h
  · exact retained
  · exact retained

theorem retains_importParent (retaining : Retaining inner) {name : String}
    {x : Except RunError (Option Module)} (h : importParent inner name s = some (x, t)) :
    s.Retains t := by
  obtain ⟨_, _, rfl⟩ | ⟨parent, y, _, imported, _⟩ := importParent_inv h
  · exact .refl _
  · exact retaining imported

theorem retains_search {name : String} {directories : List Path} {found : Except ProbeError Found}
    (h : s.search fs name directories = (found, t)) : s.Retains t := by
  have searched := search_registry fs name directories s
  rw [h] at searched
  exact .of_registry searched

theorem Searching.retains (retaining : Retaining inner) {name : String} {parent? : Option Module}
    {directories : List Path} (searching : Searching inner name s parent? directories t)
    {found : Except ProbeError Found} (h : t.search fs name directories = (found, u)) :
    s.Retains u :=
  (retains_importParent retaining searching.parent).trans (retains_search h)

theorem retains_assemble {name : String} (absent : s.loaded? name = none) (portions : List Path) :
    s.Retains (s.assemble name portions).2 :=
  (retains_register absent).trans (.of_registry rfl)

theorem retains_bindOnParent (s : Interpreter) (parent? : Option Module) (name : String)
    (module : Module) : s.Retains (s.bindOnParent parent? name module) :=
  .of_registry (registry_bindOnParent s parent? name module)

theorem retains_level (retaining : Retaining inner) {name : String} {x : Except RunError Module}
    (level : Level fs inner name s x t) : s.Retains t := by
  cases level with
  | unimportable _ => exact .refl _
  | registered _ _ => exact .refl _
  | parentFailed _ _ parent => exact retains_importParent retaining parent
  | notAPackage _ _ parent _ => exact retains_importParent retaining parent
  | registeredByParent _ _ parent _ _ => exact retains_importParent retaining parent
  | probeFailed searching search => exact searching.retains retaining search
  | notFound searching search => exact searching.retains retaining search
  | planFailed searching search _ => exact searching.retains retaining search
  | @assembled parent? directories portions v u searching search _ =>
    have absent : u.loaded? name = none := loaded?_of_search searching.stillAbsent search
    exact ((searching.retains retaining search).trans (retains_assemble absent portions)).trans
      (retains_bindOnParent _ _ _ _)
  | loaded searching search _ body =>
    have completed := (Retains.completed (retains_body retaining body)).1
    exact ((searching.retains retaining search).trans completed).trans
      (retains_bindOnParent _ _ _ _)
  | bodyFailed searching search _ body =>
    exact (searching.retains retaining search).trans
      (Retains.abandoned (retains_body retaining body)).1

theorem retaining_importWithin (fs : FileSystem) (depth : Nat) :
    Retaining (importWithin fs depth) := by
  induction depth with
  | zero =>
    intro name s x t h
    cases h
  | succ depth ih =>
    intro name s x t h
    obtain ⟨d, u, same, level, rfl⟩ := importWithin_inv h
    cases same
    have retained := retains_level ih level
    cases x with
    | ok module => exact retained.trans (.of_registry rfl)
    | error e => exact retained

/-- What a load does to the registry: it takes nothing away, and its module is registered under its
target if it ends well. A failed load leaves the target as it was, registered or not. -/
structure LoadsInto (target : String) (s : Interpreter) (x : Except RunError Module)
    (t : Interpreter) : Prop where
  retains : s.Retains t
  ok : ∀ module, x = .ok module → t.lookup target = some module
  error : ∀ e, x = .error e → (t.lookup target = none ↔ s.lookup target = none)

theorem loadsInto_of_carryOut (retaining : Retaining inner) {importer : Importer} {plan : LoadPlan}
    {x : Except (LoadError RunError) Module}
    (h : (host inner).carryOut importer plan s = some (x, t)) :
    LoadsInto plan.target s (x.mapError .failedLoad) t := by
  obtain ⟨u, body, rfl, rfl⟩ | ⟨e, u, body, rfl, rfl⟩ := carryOut_inv h
  · obtain ⟨retains, registered⟩ := Retains.completed (retains_body retaining body)
    exact ⟨retains, fun _ same => by cases same; exact registered, nofun⟩
  · obtain ⟨retains, same⟩ := Retains.abandoned (retains_body retaining body)
    exact ⟨retains, nofun, fun _ _ => same⟩

end Imports

/-- What an interpreter can be asked for that brings in modules: an import, as the main module or
not, or a load through any importer, of a given resolution or of what the importer finds. -/
inductive Request where
  | toImport (name : String)
  | toRunMain (name : String)
  | toLoad (importer : Importer) (name : String) (resolution : Resolution)
  | toLoadModule (importer : Importer) (name : String)

namespace Request

def run (fs : FileSystem) : Request → Run Module
  | toImport name => importModule fs name
  | toRunMain name => runMain fs name
  | toLoad importer name resolution => load fs importer name resolution
  | toLoadModule importer name => loadModule fs importer name

/-- The name that a load registers its module under. -/
def target? (s : Interpreter) : Request → Option String
  | toImport _ | toRunMain _ => none
  | toLoad importer name _ | toLoadModule importer name =>
    some (Name.registered (s.store.entryPointOf importer) name)

end Request

/-- A load has no plan and changes nothing, or it carries out a plan for its target. -/
theorem load_inv {request : Request} {fs : FileSystem} {target : String}
    {x : Except RunError Module} (isLoad : request.target? s = some target)
    (h : request.run fs s = some (x, t)) :
    (∃ e, x = .error e ∧ t = s) ∨ ∃ importer plan y, plan.target = target ∧
      (loadingHost fs).carryOut importer plan s = some (y, t) ∧ x = y.mapError .failedLoad := by
  cases request with
  | toImport => cases isLoad
  | toRunMain => cases isLoad
  | toLoad importer name resolution =>
    cases isLoad
    rw [Request.run, load, look_bind] at h
    obtain ⟨y, carried, rfl⟩ := adapt_inv h
    rw [Host.load] at carried
    cases made : LoadPlan.make (ε := RunError) fs (s.store.entryPointOf importer) name
      resolution with
    | error e =>
      rw [made] at carried
      obtain ⟨rfl, rfl⟩ := throw_inv carried
      exact .inl ⟨_, rfl, rfl⟩
    | ok plan =>
      rw [made] at carried
      exact .inr ⟨importer, plan, y, (LoadPlan.isFor_of_make made).target, carried, rfl⟩
  | toLoadModule importer name =>
    cases isLoad
    rw [Request.run, loadModule, look_bind] at h
    obtain ⟨y, carried, rfl⟩ := adapt_inv h
    rw [Host.loadModule_eq] at carried
    cases found : LoadPlan.find (ε := RunError) fs importer (s.store.entryPointOf importer)
      name with
    | error e =>
      rw [found] at carried
      obtain ⟨rfl, rfl⟩ := throw_inv carried
      exact .inl ⟨_, rfl, rfl⟩
    | ok plan =>
      rw [found] at carried
      exact .inr ⟨importer, plan, y, LoadPlan.find_target found, carried, rfl⟩

theorem loadsInto_of_target {request : Request} {fs : FileSystem} {target : String}
    {x : Except RunError Module} (isLoad : request.target? s = some target)
    (h : request.run fs s = some (x, t)) : LoadsInto target s x t := by
  obtain ⟨e, rfl, rfl⟩ | ⟨importer, plan, y, rfl, carried, rfl⟩ := load_inv isLoad h
  · exact ⟨.refl t, nofun, fun _ _ => .rfl⟩
  · exact loadsInto_of_carryOut (retaining_importWithin fs (importDepth fs [])) carried

/-- No request takes away what is registered or exchanges it, whether it ends well or fails. A load
that ends well has registered its module, and after one that fails its name is registered exactly if
it was before. -/
theorem registered_retained {request : Request} {fs : FileSystem} {x : Except RunError Module}
    (ended : request.run fs s = some (x, t)) :
    (∀ key module, s.lookup key = some module → t.lookup key = some module) ∧
      ∀ target, request.target? s = some target →
        (∀ module, x = .ok module → t.lookup target = some module) ∧
        ∀ e, x = .error e → (t.lookup target ≠ none ↔ s.lookup target ≠ none) := by
  constructor
  · cases request with
    | toImport name => exact retaining_importWithin fs _ ended
    | toRunMain name =>
      have started : s.Retains (s.setEntryPoint (some name)) := .of_registry rfl
      exact started.trans (retaining_importWithin fs _ ended)
    | toLoad => exact (loadsInto_of_target rfl ended).retains
    | toLoadModule => exact (loadsInto_of_target rfl ended).retains
  · intro target isLoad
    have loads := loadsInto_of_target isLoad ended
    exact ⟨loads.ok, fun e failed => not_congr (loads.error e failed)⟩

/-- The package's body fails when it is loaded for the second time, from files that have changed:
the package stays registered. In a new interpreter the same load leaves its submodule only. -/
theorem registered_retained_strandedFiles :
    ∃ s e t e' t', importModule (strandedFiles (.print "done")) "p" fresh =
        some (.ok ⟨0, "p"⟩, s) ∧
      (Request.toLoadModule ⟨0, ⟨"/r"⟩⟩ "p").run (strandedFiles (.raise "no")) s =
        some (.error e, t) ∧ t.lookup "p" = some ⟨0, "p"⟩ ∧
      (Request.toLoadModule ⟨0, ⟨"/r"⟩⟩ "p").run (strandedFiles (.raise "no")) fresh =
        some (.error e', t') ∧ t'.lookup "p" = none ∧ t'.modules = ["p.c"] := by
  have first : (importModule (strandedFiles (.print "done")) "p" fresh).map
      (fun p => (p.1.toOption, p.2.lookup "p")) = some (some ⟨0, "p"⟩, some ⟨0, "p"⟩) := by
    decide +kernel
  have again : ((importModule (strandedFiles (.print "done")) "p" fresh).bind fun p =>
      (Request.toLoadModule ⟨0, ⟨"/r"⟩⟩ "p").run (strandedFiles (.raise "no")) p.2).map
      (fun p => p.1.toOption) = some none := by
    decide +kernel
  have anew : ((Request.toLoadModule ⟨0, ⟨"/r"⟩⟩ "p").run (strandedFiles (.raise "no")) fresh).map
      (fun p => (p.1.toOption, p.2.modules)) = some (none, ["p.c"]) := by
    decide +kernel
  obtain ⟨⟨x, s⟩, imported, same⟩ := Option.map_eq_some_iff.mp first
  obtain ⟨ok, registered⟩ := Prod.mk.inj same
  rw [imported, Option.bind_some] at again
  obtain ⟨⟨y, t⟩, reloaded, failed⟩ := Option.map_eq_some_iff.mp again
  obtain ⟨⟨z, t'⟩, loaded, same⟩ := Option.map_eq_some_iff.mp anew
  obtain ⟨failed', modules⟩ := Prod.mk.inj same
  cases x with
  | error _ => cases ok
  | ok module =>
    cases ok
    cases y with
    | ok _ => cases failed
    | error e =>
      cases z with
      | ok _ => cases failed'
      | error e' =>
        have stays := (registered_retained reloaded).1 "p" ⟨0, "p"⟩ registered
        have target : (Request.toLoadModule ⟨0, ⟨"/r"⟩⟩ "p").target? fresh = some "p" := by
          decide +kernel
        have disappears := ((registered_retained loaded).2 "p" target).2 e' rfl
        refine ⟨s, e, t, e', t', imported, reloaded, stays, loaded, ?_, modules⟩
        by_contra still
        exact disappears.1 still rfl

end Interpreter

end ModuleImport
