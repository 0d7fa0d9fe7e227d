import Mathlib.Logic.Relation
import ModuleImport.Proofs.Interpreter.Asked

namespace ModuleImport

open Run

namespace Interpreter

/-- A single change of an interpreter, or of the objects of its store by somebody else. Only the look
at an entry of a search path depends on the files. -/
inductive Edit (fs : FileSystem) : Interpreter → Interpreter → Prop
  | assign (s module attr value) : Edit fs s (s.assign module attr value)
  | println (s line) : Edit fs s (s.println line)
  | record (s event) : Edit fs s (s.record event)
  | register (s name) : Edit fs s (s.register name).2
  | remove (s name) : Edit fs s (s.remove name)
  | importerFor (s entry) : Edit fs s (s.importerFor fs entry).2
  | setEntryPoint (s main) : Edit fs s (s.setEntryPoint main)
  | newModule (s name) : Edit fs s (s.newModule name).2
  /-- Importers are made, or told another entry point. -/
  | importers {s : Interpreter} {store} : store.attributes = s.store.attributes →
      Edit fs s { s with store }

abbrev Edits (fs : FileSystem) : Interpreter → Interpreter → Prop :=
  Relation.ReflTransGen (Edit fs)

variable {fs : FileSystem} {s t u : Interpreter} {importer : Importer} {plan : LoadPlan}

/-- The state of a load that has told its module where it comes from and is about to run its body. -/
def told (importer : Importer) (plan : LoadPlan) (module : Module) (s : Interpreter) :
    Interpreter :=
  let s := s.assign module loaderAttribute (.loader importer)
  match plan.searchPath? with
  | some directory => s.assign module searchPathAttribute (.ofPaths [directory])
  | none => s

theorem prepared_eq (importer : Importer) (plan : LoadPlan) (module : Module) (s : Interpreter) :
    s.prepared importer plan module =
      (s.told importer plan module).entered module plan.code plan.artifact := rfl

theorem edits_getOrCreate (s : Interpreter) (name : String) : Edits fs s (s.getOrCreate name).2 := by
  cases registered : s.lookup name with
  | some module =>
    have same : (s.getOrCreate name).2 = s := by rw [getOrCreate, registered]
    rw [same]
  | none =>
    rw [getOrCreate_of_absent registered]
    exact .tail (.single (.register s name)) (.record _ _)

theorem edits_told (importer : Importer) (plan : LoadPlan) (module : Module) (s : Interpreter) :
    Edits fs s (s.told importer plan module) := by
  have loader : Edits fs s (s.assign module loaderAttribute (.loader importer)) :=
    .single (.assign _ _ _ _)
  unfold told
  cases plan.searchPath? with
  | none => exact loader
  | some directory => exact loader.tail (.assign _ _ _ _)

theorem edits_entered (s : Interpreter) (module : Module) (code : Code) (artifact : Path) :
    Edits fs s (s.entered module code artifact) := by
  have named : Edits fs s (s.assign module nameAttribute (.str module.name)) :=
    .single (.assign _ _ _ _)
  exact (named.tail (.assign _ _ _ _)).tail (.record _ _)

theorem edits_started (importer : Importer) (plan : LoadPlan) (s : Interpreter) :
    Edits fs s (s.started importer plan) := by
  rw [started, prepared_eq]
  exact ((edits_getOrCreate s plan.target).trans (edits_told importer plan _ _)).trans
    (edits_entered _ _ _ _)

theorem edits_abandoned (body : Edits fs (s.started importer plan) t) :
    Edits fs s (s.abandoned plan t) := by
  have stopped := ((edits_started importer plan s).trans body).tail
    (.record t (.stopped (s.loading plan) plan.artifact))
  unfold abandoned
  dsimp only
  split
  · exact stopped.tail (.remove _ _)
  · exact stopped

theorem edits_completed (body : Edits fs (s.started importer plan) t) :
    Edits fs s (s.completed plan t) :=
  ((edits_started importer plan s).trans body).tail (.record _ _)

theorem edits_search (fs : FileSystem) (name : String) (directories : List Path)
    (s : Interpreter) : Edits fs s (s.search fs name directories).2 :=
  search_induct (P := Edits fs s) name (fun t entry edits => edits.tail (.importerFor t entry))
    directories .refl

theorem edits_assemble (s : Interpreter) (name : String) (portions : List Path) :
    Edits fs s (s.assemble name portions).2 := by
  have registered : Edits fs s (s.register (s.registeredName name)).2 := .single (.register _ _)
  exact (registered.tail (.assign _ _ _ _)).tail (.record _ _)

theorem edits_bindOnParent (s : Interpreter) (parent? : Option Module) (name : String)
    (module : Module) : Edits fs s (s.bindOnParent parent? name module) := by
  unfold bindOnParent
  split
  · exact .single (.assign _ _ _ _)
  · exact .refl

/-- The imports that are done inside others change the state by edits. -/
def Editing (fs : FileSystem) (inner : String → Run Module) : Prop :=
  ∀ ⦃name s x t⦄, inner name s = some (x, t) → Edits fs s t

section Ends

variable {inner : String → Run Module} {module : Module} {artifact : Path}
  {name : String}

theorem edits_instruction (editing : Editing fs inner) {instruction : Instruction}
    {x : Except RunError Unit}
    (h : Body.runInstruction inner module artifact instruction s = some (x, t)) : Edits fs s t := by
  cases Body.instructed_of_runInstruction h with
  | stored => exact .single (.assign _ _ _ _)
  | importFailed failed => exact editing failed
  | bound imported => exact (editing imported).tail (.assign _ _ _ _)
  | boundItself imported _ => exact (editing imported).tail (.assign _ _ _ _)
  | outermostFailed imported failed => exact (editing imported).trans (editing failed)
  | boundOutermost imported again =>
    exact ((editing imported).trans (editing again)).tail (.assign _ _ _ _)
  | copied _ => exact .single (.assign _ _ _ _)
  | missing _ => exact .refl
  | printed => exact .single (.println _ _)
  | raised => exact .refl

theorem edits_body (editing : Editing fs inner) {instructions : List Instruction}
    {x : Except RunError Unit}
    (h : Body.runInstructions inner module artifact instructions s = some (x, t)) : Edits fs s t := by
  have step {u v : Interpreter} {y : Except RunError Unit} {instruction : Instruction}
      (before : Edits fs s u)
      (ran : Body.runInstruction inner module artifact instruction u = some (y, v)) :
      Edits fs s v := before.trans (edits_instruction editing ran)
  obtain ⟨_, edits⟩ | ⟨e, _, edits⟩ := Body.runInstructions_induct (P := Edits fs s)
    (Q := fun _ => Edits fs s) (fun _ _ => step) (fun _ _ => step) .refl h
  · exact edits
  · exact edits

theorem edits_run (editing : Editing fs inner) {code : Code} {x : Except RunError Unit}
    (h : Body.run inner module code artifact s = some (x, t)) : Edits fs s t := by
  obtain ⟨u, body, rfl⟩ := Body.run_inv h
  exact ((edits_entered s module code artifact).trans (edits_body editing body)).tail (.record _ _)

theorem edits_carryOut (editing : Editing fs inner) {x : Except (LoadError RunError) Module}
    (h : (host inner).carryOut importer plan s = some (x, t)) : Edits fs s t := by
  obtain ⟨u, body, -, rfl⟩ | ⟨e, u, body, -, rfl⟩ := carryOut_inv h
  · exact edits_completed (edits_body editing body)
  · exact edits_abandoned (edits_body editing body)

theorem edits_importParent (editing : Editing fs inner) {x : Except RunError (Option Module)}
    (h : importParent inner name s = some (x, t)) : Edits fs s t := by
  obtain ⟨_, _, rfl⟩ | ⟨parent, y, _, imported, _⟩ := importParent_inv h
  · exact .refl
  · exact editing imported

theorem Searching.edits (editing : Editing fs inner) {parent? : Option Module}
    {directories : List Path} (searching : Searching inner name s parent? directories t)
    {found : Except ProbeError Found} (search : t.search fs name directories = (found, u)) :
    Edits fs s u := by
  have searched := edits_search fs name directories t
  rw [search] at searched
  exact (edits_importParent editing searching.parent).trans searched

theorem edits_level (editing : Editing fs inner) {x : Except RunError Module}
    (level : Level fs inner name s x t) : Edits fs s t := by
  cases level with
  | unimportable _ => exact .refl
  | registered _ _ => exact .refl
  | parentFailed _ _ parent => exact edits_importParent editing parent
  | notAPackage _ _ parent _ => exact edits_importParent editing parent
  | registeredByParent _ _ parent _ _ => exact edits_importParent editing parent
  | probeFailed searching search => exact searching.edits editing search
  | notFound searching search => exact searching.edits editing search
  | planFailed searching search _ => exact searching.edits editing search
  | @assembled _ _ portions _ u searching search _ =>
    exact ((searching.edits editing search).trans (edits_assemble u name portions)).trans
      (edits_bindOnParent _ _ _ _)
  | loaded searching search _ body =>
    exact ((searching.edits editing search).trans (edits_completed (edits_body editing body))).trans
      (edits_bindOnParent _ _ _ _)
  | bodyFailed searching search _ body =>
    exact (searching.edits editing search).trans (edits_abandoned (edits_body editing body))

theorem editing_importWithin (fs : FileSystem) (depth : Nat) :
    Editing fs (importWithin fs depth) := by
  induction depth with
  | zero =>
    intro name s x t h
    cases h
  | succ depth ih =>
    intro name s x t h
    obtain ⟨d, u, same, level, rfl⟩ := importWithin_inv h
    cases same
    have edits := edits_level ih level
    cases x with
    | ok module => exact edits.tail (.record _ _)
    | error e => exact edits

end Ends

end Interpreter

section Bodies

-- which states the imports inside others come through is left open, like these imports themselves
variable (within : String → Interpreter → Interpreter → Prop) (inner : String → Run Module)
  (module : Module) (artifact : Path)

/-- The states that the instructions of a body come through: those before and after each, and those
inside the imports that it asks for. -/
inductive Body.Passes : List Instruction → Interpreter → Interpreter → Prop
  | here {instructions s} : Passes instructions s s
  | inside {name bind rest s u} : within name s u → Passes (.importName name bind :: rest) s u
  | insideOutermost {name rest imported s t u} : inner name s = some (.ok imported, t) →
      Name.top name ≠ name → within (Name.top name) t u →
      Passes (.importName name none :: rest) s u
  | failed {instruction rest e s t} :
      Body.runInstruction inner module artifact instruction s = some (.error e, t) →
      Passes (instruction :: rest) s t
  | later {instruction rest s t u} :
      Body.runInstruction inner module artifact instruction s = some (.ok (), t) →
      Passes rest t u → Passes (instruction :: rest) s u

/-- The states that code comes through when it is run as the body of a module. -/
inductive Body.RunPasses (code : Code) (s : Interpreter) : Interpreter → Prop
  | start : RunPasses code s s
  | named : RunPasses code s (s.assign module nameAttribute (.str module.name))
  | located : RunPasses code s ((s.assign module nameAttribute (.str module.name)).assign module
      fileAttribute (.path artifact))
  | instructions {u} :
      Body.Passes within inner module artifact code.instructions (s.entered module code artifact)
        u → RunPasses code s u
  | ended {x t} : Body.run inner module code artifact s = some (x, t) → RunPasses code s t

end Bodies

namespace Interpreter

section Imports

variable (within : String → Interpreter → Interpreter → Prop) (inner : String → Run Module)

/-- The states that a load comes through when it carries out its plan. -/
inductive LoadPasses (importer : Importer) (plan : LoadPlan) (s : Interpreter) :
    Interpreter → Prop
  | start : LoadPasses importer plan s s
  | registered : LoadPasses importer plan s (s.getOrCreate plan.target).2
  | toldLoader : LoadPasses importer plan s
      ((s.getOrCreate plan.target).2.assign (s.loading plan) loaderAttribute (.loader importer))
  | body {u} : Body.RunPasses within inner (s.loading plan) plan.artifact plan.code
      ((s.getOrCreate plan.target).2.told importer plan (s.loading plan)) u →
      LoadPasses importer plan s u
  | ended {x t} : (host inner).carryOut importer plan s = some (x, t) →
      LoadPasses importer plan s t

/-- The states that one level of an import comes through. A search comes through a state after each
of the entries that it looks at. -/
inductive LevelPasses (fs : FileSystem) (name : String) (s : Interpreter) : Interpreter → Prop
  | start : LevelPasses fs name s s
  | parent {parent u} : Name.isImportable name = true → s.loaded? name = none →
      Name.parent? name = some parent → within parent s u → LevelPasses fs name s u
  | searched {parent? directories t} (count : Nat) :
      Searching inner name s parent? directories t →
      LevelPasses fs name s (t.search fs name (directories.take count)).2
  | loads {parent? directories importer plan t u v} :
      Searching inner name s parent? directories t →
      t.search fs name directories = (.ok (.loader importer), u) →
      LoadPlan.find (ε := RunError) fs importer (u.store.entryPointOf importer) name = .ok plan →
      LoadPasses within inner importer plan u v → LevelPasses fs name s v
  | registered {parent? directories portions t u} :
      Searching inner name s parent? directories t →
      t.search fs name directories = (.ok (.portions portions), u) → portions ≠ [] →
      LevelPasses fs name s (u.register (u.registeredName name)).2
  | assembled {parent? directories portions t u} :
      Searching inner name s parent? directories t →
      t.search fs name directories = (.ok (.portions portions), u) → portions ≠ [] →
      LevelPasses fs name s (u.assemble name portions).2
  | ended {x t} : Level fs inner name s x t → LevelPasses fs name s t

end Imports

/-- The states that an import comes through which nests at most the given number of imports. -/
def ImportPasses (fs : FileSystem) : Nat → String → Interpreter → Interpreter → Prop
  | 0, _, s, u => u = s
  | depth + 1, name, s, u =>
    LevelPasses (ImportPasses fs depth) (importWithin fs depth) fs name s u ∨
      ∃ x, importWithin fs (depth + 1) name s = some (x, u)

end Interpreter

section Edits

open Interpreter

variable {within : String → Interpreter → Interpreter → Prop} {inner : String → Run Module}
  {fs : FileSystem} {name : String} {module : Module} {artifact : Path} {importer : Importer}
  {plan : LoadPlan} {s u : Interpreter}

theorem Body.Passes.edits (editing : Editing fs inner)
    (inside : ∀ {name s u}, within name s u → Edits fs s u) {instructions : List Instruction}
    (passes : Body.Passes within inner module artifact instructions s u) : Edits fs s u := by
  induction passes with
  | here => exact .refl
  | inside passes => exact inside passes
  | insideOutermost imported _ passes => exact (editing imported).trans (inside passes)
  | failed ran => exact edits_instruction editing ran
  | later ran _ ih => exact (edits_instruction editing ran).trans ih

theorem Body.RunPasses.edits (editing : Editing fs inner)
    (inside : ∀ {name s u}, within name s u → Edits fs s u) {code : Code}
    (passes : Body.RunPasses within inner module artifact code s u) : Edits fs s u := by
  cases passes with
  | start => exact .refl
  | named => exact .single (.assign _ _ _ _)
  | located => exact .tail (.single (.assign _ _ _ _)) (.assign _ _ _ _)
  | instructions passes =>
    exact (edits_entered s module code artifact).trans (passes.edits editing inside)
  | ended ran => exact edits_run editing ran

theorem Interpreter.LoadPasses.edits (editing : Editing fs inner)
    (inside : ∀ {name s u}, within name s u → Edits fs s u)
    (passes : LoadPasses within inner importer plan s u) : Edits fs s u := by
  have registered : Edits fs s (s.getOrCreate plan.target).2 := edits_getOrCreate s plan.target
  cases passes with
  | start => exact .refl
  | registered => exact registered
  | toldLoader => exact registered.tail (.assign _ _ _ _)
  | body passes =>
    have told := registered.trans (edits_told importer plan (s.loading plan) _)
    exact told.trans (passes.edits editing inside)
  | ended carried => exact edits_carryOut editing carried

theorem Interpreter.LevelPasses.edits (editing : Editing fs inner)
    (inside : ∀ {name s u}, within name s u → Edits fs s u)
    (passes : LevelPasses within inner fs name s u) : Edits fs s u := by
  cases passes with
  | start => exact .refl
  | parent _ _ _ passes => exact inside passes
  | @searched parent? directories t count searching =>
    exact (edits_importParent editing searching.parent).trans (edits_search fs name _ t)
  | loads searching search _ passes =>
    exact (searching.edits editing search).trans (passes.edits editing inside)
  | registered searching search _ =>
    exact (searching.edits editing search).tail (.register _ _)
  | assembled searching search _ =>
    exact (searching.edits editing search).trans (edits_assemble _ _ _)
  | ended level => exact edits_level editing level

/-- Every state that an import comes through is reached by edits, however deeply imports are
nested. -/
theorem Interpreter.ImportPasses.edits {depth : Nat} (passes : ImportPasses fs depth name s u) :
    Edits fs s u := by
  induction depth generalizing name s u with
  | zero =>
    cases passes
    exact .refl
  | succ depth ih =>
    obtain level | ⟨x, ended⟩ := passes
    · exact level.edits (editing_importWithin fs depth) ih
    · exact editing_importWithin fs (depth + 1) ended

theorem Body.Asks.passes {instructions : List Instruction} {t : Interpreter}
    (asks : Body.Asks inner module artifact instructions s name t) (passes : within name t u) :
    Body.Passes within inner module artifact instructions s u := by
  induction asks with
  | named => exact .inside passes
  | outermost imported other => exact .insideOutermost imported other passes
  | later ran _ ih => exact .later ran (ih passes)

/-- And so does an import, through those that its body asks for and through that of its parent. -/
theorem Interpreter.Query.Asks.passes {q q' : Query} (asks : Query.Asks fs q q')
    (passes : ImportPasses fs q'.depth q'.name q'.state u) :
    ImportPasses fs q.depth q.name q.state u := by
  cases asks with
  | intro asked =>
    left
    cases asked with
    | parent importable absent parent => exact .parent importable absent parent passes
    | body searching search found asks =>
      exact .loads searching search found (.body (.instructions (asks.passes passes)))

theorem Interpreter.ImportPasses.start (fs : FileSystem) (depth : Nat) (name : String)
    (s : Interpreter) : ImportPasses fs depth name s s := by
  cases depth with
  | zero => rfl
  | succ depth => exact .inl .start

/-- An import comes through the states in which the imports begin that are nested in it. -/
theorem Interpreter.passes_of_asked {q q' : Query} (asked : Relation.TransGen (Query.Asks fs) q q') :
    ImportPasses fs q.depth q.name q.state q'.state := by
  induction asked using Relation.TransGen.head_induction_on with
  | single asks => exact asks.passes (.start fs _ _ _)
  | head asks _ ih => exact asks.passes ih

end Edits

end ModuleImport
