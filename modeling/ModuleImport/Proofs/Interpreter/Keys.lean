import ModuleImport.Proofs.Interpreter.Agreement
import ModuleImport.Proofs.Interpreter.Passing

namespace ModuleImport

namespace Interpreter

/-- What can be done with an interpreter, and with the modules and importers of its store. -/
inductive Act where
  | request (request : Request)
  | setEntryPoint (main : Option String)
  | getOrCreate (name : String)
  | remove (name : String)
  | execute (module : Module) (code : Code) (artifact : Path)
  | assign (module : Module) (attr : String) (value : Value)
  | newModule (name : String)
  | openImporter (path : Path) (main : Option String)
  /-- Any importer is told an entry point, also one that the interpreter keeps. -/
  | setMain (importer : Importer) (main : Option String)

namespace Act

/-- The state in which an act ends, well or with an error. -/
inductive Ends (fs : FileSystem) (s : Interpreter) : Act → Interpreter → Prop
  | request {request x t} : Request.run fs request s = some (x, t) → Ends fs s (.request request) t
  | setEntryPoint (main) : Ends fs s (.setEntryPoint main) (s.setEntryPoint main)
  | getOrCreate (name) : Ends fs s (.getOrCreate name) (s.getOrCreate name).2
  | remove (name) : Ends fs s (.remove name) (s.remove name)
  | execute {module code artifact x t} :
      Interpreter.execute fs module code artifact s = some (x, t) →
      Ends fs s (.execute module code artifact) t
  | assign (module attr value) : Ends fs s (.assign module attr value) (s.assign module attr value)
  | newModule (name) : Ends fs s (.newModule name) (s.newModule name).2
  | opened {path main importer store} :
      s.store.openImporter fs path main = .ok (importer, store) →
      Ends fs s (.openImporter path main) { s with store }
  | invalid {path main e} : s.store.openImporter fs path main = .error e →
      Ends fs s (.openImporter path main) s
  | setMain (importer main) :
      Ends fs s (.setMain importer main) { s with store := s.store.setEntryPoint importer main }

/-- The states that an act comes through, that of its beginning and those of its end included. -/
inductive Passes (fs : FileSystem) (s : Interpreter) : Act → Interpreter → Prop
  | start {act} : Passes fs s act s
  | importing {name u} : ImportPasses fs (importDepth fs [name]) name s u →
      Passes fs s (.request (.toImport name)) u
  | running {name u} :
      ImportPasses fs (importDepth fs [name]) name (s.setEntryPoint (some name)) u →
      Passes fs s (.request (.toRunMain name)) u
  | loading {importer name resolution plan u} :
      LoadPlan.make (ε := RunError) fs (s.store.entryPointOf importer) name resolution = .ok plan →
      LoadPasses (ImportPasses fs (importDepth fs [])) (importWithin fs (importDepth fs []))
        importer plan s u →
      Passes fs s (.request (.toLoad importer name resolution)) u
  | finding {importer name plan u} :
      LoadPlan.find (ε := RunError) fs importer (s.store.entryPointOf importer) name = .ok plan →
      LoadPasses (ImportPasses fs (importDepth fs [])) (importWithin fs (importDepth fs []))
        importer plan s u →
      Passes fs s (.request (.toLoadModule importer name)) u
  | executing {module code artifact u} :
      Body.RunPasses (ImportPasses fs (importDepth fs code.imports))
        (importWithin fs (importDepth fs code.imports)) module artifact code s u →
      Passes fs s (.execute module code artifact) u
  | ended {act t} : Ends fs s act t → Passes fs s act t

variable {fs : FileSystem} {act : Act} {s t u : Interpreter}

theorem edits_request {request : Request} {x : Except RunError Module}
    (h : request.run fs s = some (x, t)) : Edits fs s t := by
  cases target : request.target? s with
  | some target =>
    obtain ⟨e, -, rfl⟩ | ⟨importer, plan, y, -, carried, -⟩ := load_inv target h
    · exact .refl
    · exact edits_carryOut (editing_importWithin fs _) carried
  | none =>
    cases request with
    | toImport name => exact editing_importWithin fs _ h
    | toRunMain name =>
      exact .trans (.single (.setEntryPoint s (some name))) (editing_importWithin fs _ h)
    | toLoad => cases target
    | toLoadModule => cases target

theorem Ends.edits (ends : Ends fs s act t) : Edits fs s t := by
  cases ends with
  | request ran => exact edits_request ran
  | setEntryPoint main => exact .single (.setEntryPoint s main)
  | getOrCreate name => exact edits_getOrCreate s name
  | remove name => exact .single (.remove s name)
  | execute ran => exact edits_run (editing_importWithin fs _) ran
  | assign module attr value => exact .single (.assign s module attr value)
  | newModule name => exact .single (.newModule s name)
  | opened opened =>
    obtain ⟨root, rfl⟩ := Store.openImporter_inv opened
    exact .single (.importers rfl)
  | invalid _ => exact .refl
  | setMain importer main => exact .single (.importers rfl)

theorem Passes.edits (passes : Passes fs s act u) : Edits fs s u := by
  cases passes with
  | start => exact .refl
  | importing passes => exact passes.edits
  | @running name u passes =>
    exact .trans (.single (.setEntryPoint s (some name))) passes.edits
  | loading _ passes => exact passes.edits (editing_importWithin fs _) ImportPasses.edits
  | finding _ passes => exact passes.edits (editing_importWithin fs _) ImportPasses.edits
  | executing passes =>
    exact passes.edits (editing_importWithin fs _) ImportPasses.edits
  | ended ends => exact ends.edits

end Act

/-- Modules are registered under their own names, and those that will be registered are new. -/
structure Keyed (s : Interpreter) : Prop where
  named : s.Named
  owned : ∀ {key module}, s.lookup key = some module → s.Owns module

variable {fs : FileSystem} {s t u : Interpreter}

theorem keyed_new (config : Config) : (new config).Keyed where
  named := named_new config
  owned h := by cases h

theorem Keyed.of_registry (keyed : s.Keyed) (same : t.registry = s.registry)
    (grows : s.store.attributes.size ≤ t.store.attributes.size) : t.Keyed where
  named := keyed.named.of_registry same
  owned h := by
    unfold lookup at h
    rw [same] at h
    exact Nat.lt_of_lt_of_le (keyed.owned h) grows

theorem Keyed.register (keyed : s.Keyed) (name : String) : (s.register name).2.Keyed where
  named := keyed.named.register keyed.owned name
  owned {key module} h := by
    rw [lookup_register] at h
    split at h
    · cases h
      simp
    · exact (keyed.owned h).register name

theorem Keyed.remove (keyed : s.Keyed) (name : String) : (s.remove name).Keyed where
  named := keyed.named.remove name
  owned {key module} h := by
    rw [lookup_remove] at h
    split at h
    · cases h
    · exact keyed.owned h

theorem Edit.keyed (edit : Edit fs s t) (keyed : s.Keyed) : t.Keyed := by
  cases edit with
  | assign module attr value =>
    exact keyed.of_registry rfl (by simp)
  | println => exact keyed.of_registry rfl (Nat.le_refl _)
  | record => exact keyed.of_registry rfl (Nat.le_refl _)
  | register name => exact keyed.register name
  | remove name => exact keyed.remove name
  | importerFor entry =>
    exact keyed.of_registry (registry_importerFor s fs entry) (by simp)
  | setEntryPoint main => exact keyed.of_registry rfl (by simp)
  | newModule name => exact keyed.of_registry rfl (by simp [Interpreter.newModule])
  | importers same => exact keyed.of_registry rfl (Nat.le_of_eq (congrArg Array.size same).symm)

theorem keyed_of_edits (edits : Edits fs s t) (keyed : s.Keyed) : t.Keyed := by
  induction edits with
  | refl => exact keyed
  | tail _ edit ih => exact edit.keyed ih

/-- Something has been done from one state to the other, whatever the files held then. -/
def Acted (s t : Interpreter) : Prop :=
  ∃ fs act, Act.Ends fs s act t

theorem keyed_of_acted {config : Config} (acted : Relation.ReflTransGen Acted (new config) s) :
    s.Keyed := by
  induction acted with
  | refl => exact keyed_new config
  | tail _ last ih =>
    obtain ⟨fs, act, ends⟩ := last
    exact keyed_of_edits ends.edits ih

/-- In every state that an interpreter comes to, also in the middle of what is done with it, each
module bears the name that it is registered under, and modules under different names are different
objects. -/
theorem registered_under_own_name {config : Config} {act : Act}
    (acted : Relation.ReflTransGen Acted (new config) s) (passes : act.Passes fs s u) :
    (∀ key module, u.lookup key = some module → module.name = key) ∧
      ∀ key key' module module', u.lookup key = some module → u.lookup key' = some module' →
        key ≠ key' → module.id ≠ module'.id := by
  have keyed := keyed_of_edits passes.edits (keyed_of_acted acted)
  constructor
  · exact fun key module registered => keyed.named.name registered
  · exact fun key key' module module' registered registered' other same =>
      other (keyed.named.apart registered registered' same)

/-- While the body of `p` still runs, `p` is registered and its submodule asks for it. -/
theorem registered_under_own_name_cyclicFiles :
    ∃ u, (Act.request (.toImport "p")).Passes cyclicFiles fresh u ∧
      u.lookup "p" = some ⟨0, "p"⟩ ∧
      ∀ key module, u.lookup key = some module → key ≠ "p" → module.id ≠ 0 := by
  obtain ⟨q, asked, -, registered⟩ := asks_cyclicFiles
  have passes : ImportPasses cyclicFiles (importDepth cyclicFiles ["p"]) "p" fresh q.state :=
    passes_of_asked asked
  have importing := Act.Passes.importing passes
  have untouched : Relation.ReflTransGen Acted (new ⟨[⟨"/r"⟩], none, .silent⟩) fresh := .refl
  obtain ⟨-, apart⟩ := registered_under_own_name untouched importing
  exact ⟨q.state, importing, registered, fun key module found other =>
    apart key "p" module ⟨0, "p"⟩ found registered other⟩

end Interpreter

end ModuleImport
