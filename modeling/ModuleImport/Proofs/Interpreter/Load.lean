import ModuleImport.Proofs.Interpreter.Run

namespace ModuleImport

namespace LoadPlan

/-- What an importer is about to load for a name. -/
def find {ε : Type} (fs : FileSystem) (importer : Importer) (entryPoint : Option String)
    (name : String) : Except (LoadError ε) LoadPlan :=
  match importer.resolve fs name with
  | .error cause => .error (.probe cause)
  | .ok resolution =>
    if resolution.isLoadable then make fs entryPoint name resolution else .error (.nameNotFound name)

section Made

variable {ε : Type} {fs : FileSystem} {importer : Importer} {entryPoint : Option String}
  {name : String} {resolution : Resolution} {plan : LoadPlan}

/-- A plan is what was read from the artifact that its resolution leads to. -/
structure IsFor (fs : FileSystem) (entryPoint : Option String) (name : String)
    (resolution : Resolution) (plan : LoadPlan) : Prop where
  target : plan.target = Name.registered entryPoint name
  artifact : resolution.artifact? = some plan.artifact
  searchPath : plan.searchPath? = resolution.searchPath?
  code : ∃ bytes, fs.read plan.artifact = .ok bytes ∧ Artifact.decode bytes = .ok plan.code

theorem isFor_of_make (h : make (ε := ε) fs entryPoint name resolution = .ok plan) :
    IsFor fs entryPoint name resolution plan := by
  unfold make at h
  split at h
  · cases h
  · rename_i artifact isArtifact
    split at h
    · cases h
    · rename_i bytes read
      split at h
      · cases h
      · rename_i code decoded
        cases h
        exact ⟨rfl, isArtifact, rfl, bytes, read, decoded⟩

theorem isFor_of_find (h : find (ε := ε) fs importer entryPoint name = .ok plan) :
    ∃ resolution, importer.resolve fs name = .ok resolution ∧
      IsFor fs entryPoint name resolution plan := by
  unfold find at h
  split at h
  · cases h
  · rename_i resolution resolved
    split at h
    · exact ⟨resolution, resolved, isFor_of_make h⟩
    · cases h

theorem find_target (h : find (ε := ε) fs importer entryPoint name = .ok plan) :
    plan.target = Name.registered entryPoint name := by
  obtain ⟨_, -, isFor⟩ := isFor_of_find h
  exact isFor.target

end Made

end LoadPlan

theorem Host.loadModule_eq {m : Type → Type} [Monad m] {μ ε : Type} (host : Host m μ ε)
    (fs : FileSystem) (importer : Importer) (entryPoint : Option String) (name : String) :
    host.loadModule fs importer entryPoint name =
      match LoadPlan.find fs importer entryPoint name with
      | .error e => throw e
      | .ok plan => host.carryOut importer plan := by
  unfold Host.loadModule LoadPlan.find
  cases importer.resolve fs name with
  | error cause => rfl
  | ok resolution =>
    dsimp only
    split <;> rfl

def Event.ofEnd (module : Module) (artifact : Path) : Except RunError Unit → Event
  | .ok _ => finished module artifact
  | .error _ => stopped module artifact

namespace Interpreter

/-- The state in which the first instruction of a body runs. -/
def entered (module : Module) (code : Code) (artifact : Path) (s : Interpreter) : Interpreter :=
  ((s.assign module nameAttribute (.str module.name)).assign module fileAttribute
    (.path artifact)).record (.began module code artifact)

/-- The state in which the body of a module starts after it was told where it comes from. -/
def prepared (importer : Importer) (plan : LoadPlan) (module : Module) (s : Interpreter) :
    Interpreter :=
  let s := s.assign module loaderAttribute (.loader importer)
  let s := match plan.searchPath? with
    | some directory => s.assign module searchPathAttribute (.ofPaths [directory])
    | none => s
  s.entered module plan.code plan.artifact

def loading (plan : LoadPlan) (s : Interpreter) : Module :=
  (s.getOrCreate plan.target).1.module

/-- The state in which a load has the body run. -/
def started (importer : Importer) (plan : LoadPlan) (s : Interpreter) : Interpreter :=
  (s.getOrCreate plan.target).2.prepared importer plan (s.loading plan)

/-- The state that a failed load leaves when its body has stopped in `t`. -/
def abandoned (plan : LoadPlan) (s t : Interpreter) : Interpreter :=
  let t := t.record (.stopped (s.loading plan) plan.artifact)
  if (s.getOrCreate plan.target).1.created then t.remove plan.target else t

/-- The state that a load leaves when its body has ended in `t`. -/
def completed (plan : LoadPlan) (s t : Interpreter) : Interpreter :=
  t.record (.finished (s.loading plan) plan.artifact)

end Interpreter

open Run Interpreter

variable {fs : FileSystem} {inner : String → Run Module} {name : String} {s s' : Interpreter}

theorem Body.run_inv {module : Module} {code : Code} {artifact : Path} {x : Except RunError Unit}
    (h : Body.run inner module code artifact s = some (x, s')) :
    ∃ t, Body.runInstructions inner module artifact code.instructions
        (s.entered module code artifact) = some (x, t) ∧
      s' = t.record (.ofEnd module artifact x) := by
  unfold Body.run at h
  rw [change_bind, change_bind, change_bind] at h
  obtain ⟨e, caught, rfl⟩ | ⟨_, t, caught, ended⟩ := bind_inv h
  · obtain ⟨_, _, absurd⟩ | ⟨e', t, instructions, rethrown⟩ := tryCatch_inv caught
    · cases absurd
    · rw [change_bind] at rethrown
      obtain ⟨same, rfl⟩ := throw_inv rethrown
      cases same
      exact ⟨t, instructions, rfl⟩
  · obtain ⟨_, instructions, _⟩ | ⟨e, t', _, rethrown⟩ := tryCatch_inv caught
    · cases ended
      exact ⟨t, instructions, rfl⟩
    · rw [change_bind] at rethrown
      obtain ⟨absurd, _⟩ := throw_inv rethrown
      cases absurd

theorem Body.run_of_instructions {module : Module} {code : Code} {artifact : Path}
    {x : Except RunError Unit}
    (h : Body.runInstructions inner module artifact code.instructions
      (s.entered module code artifact) = some (x, s')) :
    Body.run inner module code artifact s = some (x, s'.record (.ofEnd module artifact x)) := by
  unfold Body.run
  rw [change_bind, change_bind, change_bind]
  cases x with
  | ok _ => exact bind_of_ok (tryCatch_of_ok h)
  | error e => exact bind_of_error (tryCatch_of_error h)

theorem setSearchPath_eq (plan : LoadPlan) (module : Module) :
    (host inner).setSearchPath plan module s =
      some (.ok (), match plan.searchPath? with
        | some directory => s.assign module searchPathAttribute (.ofPaths [directory])
        | none => s) := by
  unfold Host.setSearchPath
  cases plan.searchPath? <;> rfl

theorem fill_eq (inner : String → Run Module) (importer : Importer) (plan : LoadPlan)
    (module : Module) (s : Interpreter) :
    (host inner).fill importer plan module s =
      ExceptT.adapt (LoadError.execution plan.target)
        (Body.run inner module plan.code plan.artifact)
        (match plan.searchPath? with
          | some directory => (s.assign module loaderAttribute (.loader importer)).assign module
              searchPathAttribute (.ofPaths [directory])
          | none => s.assign module loaderAttribute (.loader importer)) := by
  have told : (host inner).setAttribute module (.loader importer) s =
      some (.ok (), s.assign module loaderAttribute (.loader importer)) := rfl
  rw [Host.fill, bind_of_ok (adapt_of_ok _ told),
    bind_of_ok (adapt_of_ok _ (setSearchPath_eq plan module))]
  rfl

theorem fill_inv {importer : Importer} {plan : LoadPlan} {module : Module}
    {x : Except (LoadError RunError) Unit}
    (h : (host inner).fill importer plan module s = some (x, s')) :
    ∃ y t, Body.runInstructions inner module plan.artifact plan.code.instructions
        (s.prepared importer plan module) = some (y, t) ∧
      x = y.mapError (.execution plan.target) ∧
      s' = t.record (.ofEnd module plan.artifact y) := by
  rw [fill_eq] at h
  obtain ⟨y, ran, failed⟩ := adapt_inv h
  obtain ⟨t, instructions, ended⟩ := Body.run_inv ran
  exact ⟨y, t, instructions, failed, ended⟩

theorem takeBack_eq {α : Type} (inner : String → Run Module) (target : String) (created : Bool)
    (e : LoadError RunError) (s : Interpreter) :
    (do (host inner).takeBack target created; throw e : Failing (LoadError RunError) α) s =
      some (.error e, if created then s.remove target else s) := by
  cases created <;> rfl

theorem takeBack_inv {α : Type} {target : String} {created : Bool} {e : LoadError RunError}
    {x : Except (LoadError RunError) α}
    (h : (do (host inner).takeBack target created; throw e : Failing (LoadError RunError) α) s =
      some (x, s')) :
    x = .error e ∧ s' = if created then s.remove target else s := by
  rw [takeBack_eq] at h
  cases h
  exact ⟨rfl, rfl⟩

theorem carryOut_inv {importer : Importer} {plan : LoadPlan}
    {x : Except (LoadError RunError) Module}
    (h : (host inner).carryOut importer plan s = some (x, s')) :
    (∃ t, Body.runInstructions inner (s.loading plan) plan.artifact plan.code.instructions
        (s.started importer plan) = some (.ok (), t) ∧
      x = .ok (s.loading plan) ∧ s' = s.completed plan t) ∨
    ∃ e t, Body.runInstructions inner (s.loading plan) plan.artifact plan.code.instructions
        (s.started importer plan) = some (.error e, t) ∧
      x = .error (.execution plan.target e) ∧ s' = s.abandoned plan t := by
  have registered : (host inner).getOrCreate plan.target s =
      some (.ok (s.getOrCreate plan.target).1, (s.getOrCreate plan.target).2) := rfl
  rw [Host.carryOut, bind_of_ok (adapt_of_ok _ registered)] at h
  obtain ⟨e, caught, rfl⟩ | ⟨_, u, caught, ended⟩ := bind_inv h
  · right
    obtain ⟨_, _, absurd⟩ | ⟨e', u, filled, rethrown⟩ := tryCatch_inv caught
    · cases absurd
    · obtain ⟨y, t, instructions, failed, rfl⟩ := fill_inv filled
      obtain ⟨same, rfl⟩ := takeBack_inv rethrown
      cases y with
      | ok _ => cases failed
      | error cause =>
        cases failed
        cases same
        exact ⟨cause, t, instructions, rfl, rfl⟩
  · left
    obtain ⟨_, filled, _⟩ | ⟨e, v, _, rethrown⟩ := tryCatch_inv caught
    · obtain ⟨y, t, instructions, ran, rfl⟩ := fill_inv filled
      obtain ⟨rfl, rfl⟩ := pure_inv ended
      cases y with
      | error _ => cases ran
      | ok _ => exact ⟨t, instructions, rfl, rfl⟩
    · obtain ⟨absurd, _⟩ := takeBack_inv rethrown
      cases absurd

theorem carryOut_of_body {importer : Importer} {plan : LoadPlan} {x : Except RunError Unit}
    (body : Body.runInstructions inner (s.loading plan) plan.artifact plan.code.instructions
      (s.started importer plan) = some (x, s')) :
    (host inner).carryOut importer plan s = match x with
      | .ok _ => some (.ok (s.loading plan), s.completed plan s')
      | .error e => some (.error (.execution plan.target e), s.abandoned plan s') := by
  have registered : (host inner).getOrCreate plan.target s =
      some (.ok (s.getOrCreate plan.target).1, (s.getOrCreate plan.target).2) := rfl
  have ran := Body.run_of_instructions body
  have filled : (host inner).fill importer plan (s.loading plan) (s.getOrCreate plan.target).2 =
      some (x.mapError (.execution plan.target),
        s'.record (.ofEnd (s.loading plan) plan.artifact x)) := by
    rw [fill_eq, adapt_eq, ran]
    rfl
  rw [Host.carryOut, bind_of_ok (adapt_of_ok _ registered)]
  cases x with
  | ok _ => exact bind_of_ok (tryCatch_of_ok filled)
  | error e => exact bind_of_error ((tryCatch_of_error filled).trans (takeBack_eq _ _ _ _ _))

end ModuleImport
