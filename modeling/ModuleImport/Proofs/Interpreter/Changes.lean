import Mathlib.Logic.Relation
import ModuleImport.Proofs.Interpreter.Maintained

namespace ModuleImport

open Run Body

namespace Interpreter

/-- The names that may be imported next when those of `roots` have been asked for: with a name its
parent, and what the code of every body that has begun imports. -/
inductive Wanted (roots : List String) (s : Interpreter) : String → Prop
  | requested {name} : name ∈ roots → Wanted roots s name
  | parent {name parent} : Wanted roots s name → Name.parent? name = some parent →
      Wanted roots s parent
  | imported {module code artifact name} : .began module code artifact ∈ s.trace →
      name ∈ code.imports → Wanted roots s name

/-- The values that a body can give to the attributes of its module. -/
inductive Obtainable (s : Interpreter) (module : Module) : Value → Prop
  | constant (c) : Obtainable s module (.ofConstant c)
  | registered {name other} : s.loaded? name = some other → Obtainable s module (.module other)
  | copied {attr value} : s.store.get? module attr = some value → Obtainable s module value

/-- The body of a module has begun, and the module is registered. -/
structure Running (s : Interpreter) (module : Module) (code : Code) (artifact : Path) : Prop where
  registered : s.lookup module.name = some module
  began : .began module code artifact ∈ s.trace

/-- The single changes that imports of `roots` are made of. -/
inductive Change (fs : FileSystem) (roots : List String) : Interpreter → Interpreter → Prop
  | wrote {s module code artifact attr value} : s.Consistent → s.Running module code artifact →
      attr ∈ code.writes → s.Obtainable module value → Change fs roots s (s.assign module attr value)
  | printed {s} (line) : s.Consistent → Change fs roots s (s.println line)
  | noted {s name module} : s.Consistent → s.loaded? name = some module →
      Change fs roots s (s.record (.imported name module))
  | looked {s} (entry) : s.Consistent → Change fs roots s (s.importerFor fs entry).2
  | assembled {s name parent? portions} : s.Wanted roots name →
      Ready fs name parent? (.portions portions) s →
      Change fs roots s (s.assemble name portions).2
  | started {s name parent? importer plan} : s.Wanted roots name →
      Loadable fs name parent? importer plan s → Change fs roots s (s.started importer plan)
  /-- A body has run to its end, so that all that it imports is registered. -/
  | completed {s t name parent? importer plan} : Loadable fs name parent? importer plan s →
      (s.started importer plan).Continues t →
      (∀ other ∈ plan.code.imports, t.loaded? other ≠ none) →
      Change fs roots t (s.completed plan t)
  | abandoned {s t name parent? importer plan} : Loadable fs name parent? importer plan s →
      (s.started importer plan).Continues t → Change fs roots t (s.abandoned plan t)
  | bound {s name parent? module} : s.Consistent → s.ParentOf name parent? →
      s.loaded? name = some module → Change fs roots s (s.bindOnParent parent? name module)

/-- Any number of changes one after the other. -/
abbrev Changes (fs : FileSystem) (roots : List String) : Interpreter → Interpreter → Prop :=
  Relation.ReflTransGen (Change fs roots)

variable {fs : FileSystem} {roots : List String} {name : String} {depth : Nat}
  {s t u : Interpreter}

theorem Wanted.later (wanted : s.Wanted roots name)
    (remembered : ∀ event ∈ s.trace, event ∈ t.trace) : t.Wanted roots name := by
  induction wanted with
  | requested member => exact .requested member
  | parent _ isParent ih => exact .parent ih isParent
  | imported began member => exact .imported (remembered _ began) member

theorem Wanted.top (wanted : s.Wanted roots name) (importable : Name.isImportable name = true) :
    s.Wanted roots (Name.top name) := by
  have enclosing := Name.prefixes_induct (P := s.Wanted roots)
    (fun isParent wanted => .parent wanted isParent) wanted
  exact enclosing _ (Name.top_mem_prefixes importable)

section Loads

variable {parent? : Option Module} {importer : Importer} {plan : LoadPlan}

theorem Loadable.name_loading (loadable : Loadable fs name parent? importer plan s) :
    (s.loading plan).name = plan.target := by
  rw [loading_of_absent loadable.unregistered]
  rfl

theorem Loadable.running (loadable : Loadable fs name parent? importer plan s) :
    (s.started importer plan).Running (s.loading plan) plan.code plan.artifact where
  registered := by
    rw [loadable.name_loading]
    simp [loadable.unregistered]
  began := began_mem_started loadable.unregistered

theorem Running.later {module : Module} {code : Code} {artifact : Path}
    (running : s.Running module code artifact) (continues : s.Continues t) :
    t.Running module code artifact :=
  ⟨continues.settles.registered _ _ running.registered,
    continues.settles.remembered _ running.began⟩

theorem Loadable.loaded? (loadable : Loadable fs name parent? importer plan s)
    (continues : (s.started importer plan).Continues t) :
    t.loaded? name = some (s.loading plan) := by
  have registered := (loadable.running.later continues).registered
  have started := (started_of_absent importer loadable.unregistered).entryPoint
  have same : t.registeredName name = (s.loading plan).name := by
    rw [continues.registeredName, loadable.name_loading, loadable.target]
    exact congrArg (Name.registered · name) started
  rw [Interpreter.loaded?, same]
  exact registered

theorem Loadable.parentOf (loadable : Loadable fs name parent? importer plan s)
    (continues : (s.started importer plan).Continues t) : t.ParentOf name parent? := by
  have started := (started_of_absent importer loadable.unregistered).entryPoint
  refine loadable.parent.later (fun key module found => ?_) (continues.entryPoint.trans started)
  apply continues.settles.registered
  have other : key ≠ plan.target := by
    rintro rfl
    rw [loadable.unregistered] at found
    cases found
  simp [loadable.unregistered, other, found]

theorem Loadable.consistent_completed (loadable : Loadable fs name parent? importer plan s)
    (continues : (s.started importer plan).Continues t) : (s.completed plan t).Consistent where
  sound := by
    have registered := (loadable.running.later continues).registered
    refine continues.consistent.sound.record (fun module about => ?_)
    cases about
    exact continues.consistent.sound.owned registered
  named := continues.consistent.named.of_registry rfl

theorem consistent_assembled {portions : List Path}
    (ready : Ready fs name parent? (.portions portions) s) :
    s.Continues (s.assemble name portions).2 :=
  (Follows.assembled (kept_keeps fs) ready.consistent.sound ready.absent portions).continues
    ready.consistent

end Loads

/-- What is shown of imports that are nested less deeply. -/
def Chains (fs : FileSystem) (roots : List String) (depth : Nat) : Prop :=
  ∀ {name s x t}, s.Wanted roots name → s.Consistent →
    importWithin fs depth name s = some (x, t) → Changes fs roots s t

theorem instruction_changes (nested : Chains fs roots depth) (consistent : s.Consistent)
    {module : Module} {code : Code} {artifact : Path} (running : s.Running module code artifact)
    {instruction : Instruction} (imports : ∀ name ∈ instruction.imports, name ∈ code.imports)
    (writes : ∀ attr ∈ instruction.writes, attr ∈ code.writes) {x : Except RunError Unit}
    (h : Instructed (importWithin fs depth) module artifact instruction s x t) :
    Changes fs roots s t := by
  have wanted {name : String} (member : name ∈ code.imports) : s.Wanted roots name :=
    .imported running.began member
  -- a binding after an import is a write in the state that the import leaves
  have bound {name attr : String} {imported : Module} {u : Interpreter} (later : s.Continues u)
      (found : u.loaded? name = some imported) (member : attr ∈ code.writes) :
      Change fs roots u (u.assign module attr (.module imported)) :=
    .wrote later.consistent (running.later later) member (.registered found)
  cases h with
  | stored =>
    exact .single (.wrote consistent running (writes _ List.mem_cons_self) (.constant _))
  | copied found =>
    exact .single (.wrote consistent running (writes _ List.mem_cons_self) (.copied found))
  | printed => exact .single (.printed _ consistent)
  | missing => exact .refl
  | raised => exact .refl
  | importFailed failed => exact nested (wanted (imports _ List.mem_cons_self)) consistent failed
  | bound got =>
    have chain := nested (wanted (imports _ List.mem_cons_self)) consistent got
    have found := loaded?_of_importWithin consistent got rfl
    exact chain.tail
      (bound (importWithin_continues consistent got) found (writes _ List.mem_cons_self))
  | boundItself got =>
    have chain := nested (wanted (imports _ List.mem_cons_self)) consistent got
    have found := loaded?_of_importWithin consistent got rfl
    exact chain.tail
      (bound (importWithin_continues consistent got) found (writes _ List.mem_cons_self))
  | outermostFailed got failed =>
    have asked := wanted (imports _ List.mem_cons_self)
    have first := importWithin_continues consistent got
    have outermost := (asked.top (isImportable_of_importWithin got)).later first.settles.remembered
    exact (nested asked consistent got).trans (nested outermost first.consistent failed)
  | boundOutermost got package =>
    have asked := wanted (imports _ List.mem_cons_self)
    have first := importWithin_continues consistent got
    have outermost := (asked.top (isImportable_of_importWithin got)).later first.settles.remembered
    have second := importWithin_continues first.consistent package
    have found := loaded?_of_importWithin first.consistent package rfl
    have chain := (nested asked consistent got).trans (nested outermost first.consistent package)
    exact chain.tail (bound (first.trans second) found (writes _ List.mem_cons_self))

theorem body_changes (nested : Chains fs roots depth) (consistent : s.Consistent)
    {module : Module} {code : Code} {artifact : Path} (running : s.Running module code artifact)
    {x : Except RunError Unit}
    (h : runInstructions (importWithin fs depth) module artifact code.instructions s =
      some (x, t)) : Changes fs roots s t := by
  have step {u v : Interpreter} {y : Except RunError Unit} {instruction : Instruction}
      (member : instruction ∈ code.instructions) (before : s.Continues u ∧ Changes fs roots s u)
      (ran : runInstruction (importWithin fs depth) module artifact instruction u = some (y, v)) :
      s.Continues v ∧ Changes fs roots s v := by
    obtain ⟨later, chain⟩ := before
    refine ⟨later.trans (instruction_continues later.consistent ran), chain.trans ?_⟩
    refine instruction_changes nested later.consistent (running.later later) ?_ ?_
      (instructed_of_runInstruction ran)
    · exact fun name asked => List.mem_flatMap.mpr ⟨instruction, member, asked⟩
    · exact fun attr bound => List.mem_flatMap.mpr ⟨instruction, member, bound⟩
  obtain ⟨-, -, chain⟩ | ⟨-, -, -, chain⟩ := runInstructions_induct
    (P := fun u => s.Continues u ∧ Changes fs roots s u)
    (Q := fun _ u => s.Continues u ∧ Changes fs roots s u)
    (fun _ member => step member) (fun _ member => step member) ⟨.refl consistent, .refl⟩ h
  · exact chain
  · exact chain

theorem continues_assign (consistent : s.Consistent) (module : Module) (attr : String)
    (value : Value) : s.Continues (s.assign module attr value) := by
  have alike := (Alike.refl s).assign module attr value
  exact ⟨.of_same alike.size rfl rfl, rfl, alike.sound consistent.sound,
    consistent.named.of_registry rfl⟩

theorem imports_loaded {module : Module} {artifact : Path} {instructions : List Instruction}
    (consistent : s.Consistent)
    (h : runInstructions (importWithin fs depth) module artifact instructions s =
      some (.ok (), t)) :
    ∀ other ∈ instructions.flatMap Instruction.imports, t.loaded? other ≠ none := by
  induction instructions generalizing s with
  | nil =>
    intro other member
    cases member
  | cons instruction rest ih =>
    rw [runInstructions] at h
    obtain ⟨e, -, absurd⟩ | ⟨_, u, ran, ended⟩ := bind_inv h
    · cases absurd
    have first := instruction_continues consistent ran
    intro other member
    rcases List.mem_append.mp member with own | later
    · have rest := body_continues first.consistent ended
      -- the import of this instruction is registered where it has ended, and stays so
      have stays {v : Interpreter} {imported : Module} (onwards : v.Continues t)
          (found : v.loaded? other = some imported) : t.loaded? other ≠ none := by
        rw [onwards.loaded? found]
        exact Option.some_ne_none imported
      have ended := instructed_of_runInstruction ran
      cases ended with
      | @bound _ target imported _ u got =>
        cases List.mem_singleton.mp own
        have after := importWithin_continues consistent got
        have written := continues_assign after.consistent module target (.module imported)
        exact stays (written.trans rest) (loaded?_of_importWithin consistent got rfl)
      | @boundItself _ imported _ u got _ =>
        cases List.mem_singleton.mp own
        have after := importWithin_continues consistent got
        have written := continues_assign after.consistent module (Name.top other) (.module imported)
        exact stays (written.trans rest) (loaded?_of_importWithin consistent got rfl)
      | @boundOutermost _ _ package _ u v got outermost =>
        cases List.mem_singleton.mp own
        have after := importWithin_continues consistent got
        have second := importWithin_continues after.consistent outermost
        have written := continues_assign second.consistent module (Name.top other) (.module package)
        exact stays (second.trans (written.trans rest)) (loaded?_of_importWithin consistent got rfl)
      | _ => cases own
    · exact ih first.consistent ended other later

theorem importParent_changes (nested : Chains fs roots depth) (consistent : s.Consistent)
    (wanted : s.Wanted roots name) {x : Except RunError (Option Module)}
    (h : importParent (importWithin fs depth) name s = some (x, t)) : Changes fs roots s t := by
  obtain ⟨-, -, rfl⟩ | ⟨parent, y, isParent, imported, -⟩ := importParent_inv h
  · exact .refl
  · exact nested (.parent wanted isParent) consistent imported

theorem search_changes (consistent : s.Consistent) {directories : List Path} {found : _}
    (h : s.search fs name directories = (found, t)) : Changes fs roots s t := by
  have both : s.Continues (s.search fs name directories).2 ∧
      Changes fs roots s (s.search fs name directories).2 := by
    refine search_induct (P := fun u => s.Continues u ∧ Changes fs roots s u) name
      (fun u entry before => ?_) directories ⟨.refl consistent, .refl⟩
    obtain ⟨later, chain⟩ := before
    have follows := Follows.looked (kept_keeps fs) later.consistent.sound entry
    exact ⟨later.trans (follows.continues later.consistent),
      chain.tail (.looked entry later.consistent)⟩
  rw [h] at both
  exact both.2

theorem searching_changes (nested : Chains fs roots depth) (consistent : s.Consistent)
    (wanted : s.Wanted roots name) {parent? : Option Module} {directories : List Path} {found : _}
    (searching : Searching (importWithin fs depth) name s parent? directories t)
    (search : t.search fs name directories = (found, u)) :
    Changes fs roots s u ∧ u.Wanted roots name := by
  have parent := importParent_continues consistent searching.parent
  have looked := search_continues parent.consistent search
  have chain := importParent_changes nested consistent wanted searching.parent
  exact ⟨chain.trans (search_changes parent.consistent search),
    wanted.later (parent.trans looked).settles.remembered⟩

theorem assembled_changes {parent? : Option Module} {portions : List Path}
    (ready : Ready fs name parent? (.portions portions) s) :
    Changes fs roots (s.assemble name portions).2
      ((s.assemble name portions).2.bindOnParent parent? name (s.assemble name portions).1) := by
  have continues := consistent_assembled ready
  have parentOf := ready.parent.later continues.settles.registered continues.entryPoint
  have loaded : (s.assemble name portions).2.loaded? name = some (s.assemble name portions).1 :=
    (lookup_register s _ _).trans (if_pos rfl)
  exact .single (.bound continues.consistent parentOf loaded)

theorem load_changes (nested : Chains fs roots depth) {parent? : Option Module}
    {importer : Importer} {plan : LoadPlan} (loadable : Loadable fs name parent? importer plan s)
    (body : runInstructions (importWithin fs depth) (s.loading plan) plan.artifact
      plan.code.instructions (s.started importer plan) = some (.ok (), t)) :
    Changes fs roots (s.started importer plan)
      ((s.completed plan t).bindOnParent parent? name (s.loading plan)) := by
  have start := consistent_started importer plan loadable.consistent
  have continues := body_continues start body
  have ran := body_changes nested start loadable.running body
  have ended := ran.tail (.completed loadable continues (imports_loaded start body))
  have parentOf : (s.completed plan t).ParentOf name parent? :=
    (loadable.parentOf continues).later (fun _ _ found => found) rfl
  have loaded : (s.completed plan t).loaded? name = some (s.loading plan) := by
    change t.loaded? name = some (s.loading plan)
    exact loadable.loaded? continues
  exact ended.tail (.bound (loadable.consistent_completed continues) parentOf loaded)

theorem level_changes (nested : Chains fs roots depth) (consistent : s.Consistent)
    (wanted : s.Wanted roots name) {x : Except RunError Module}
    (level : Level fs (importWithin fs depth) name s x t) : Changes fs roots s t := by
  have searches {parent? directories found t u}
      (searching : Searching (importWithin fs depth) name s parent? directories t)
      (search : t.search fs name directories = (found, u)) :=
    searching_changes nested consistent wanted searching search
  cases level with
  | unimportable => exact .refl
  | registered => exact .refl
  | parentFailed _ _ failed => exact importParent_changes nested consistent wanted failed
  | notAPackage _ _ parent _ => exact importParent_changes nested consistent wanted parent
  | registeredByParent _ _ parent _ _ => exact importParent_changes nested consistent wanted parent
  | probeFailed searching search => exact (searches searching search).1
  | notFound searching search => exact (searches searching search).1
  | planFailed searching search _ => exact (searches searching search).1
  | assembled searching search _ =>
    obtain ⟨before, asked⟩ := searches searching search
    have ready := ready_of_search consistent searching search
    exact (before.tail (.assembled asked ready)).trans (assembled_changes ready)
  | loaded searching search found body =>
    obtain ⟨before, asked⟩ := searches searching search
    have loadable := loadable_of_search consistent searching search found
    exact (before.tail (.started asked loadable)).trans (load_changes nested loadable body)
  | @bodyFailed _ _ importer plan _ _ u v searching search found body =>
    obtain ⟨before, asked⟩ := searches searching search
    have loadable := loadable_of_search consistent searching search found
    have start := consistent_started importer plan loadable.consistent
    have ran := body_changes nested start loadable.running body
    exact ((before.tail (.started asked loadable)).trans ran).tail
      (.abandoned loadable (body_continues start body))

theorem importWithin_changes (fs : FileSystem) (roots : List String) (depth : Nat) :
    Chains fs roots depth := by
  induction depth with
  | zero =>
    intro name s x t _ _ h
    cases h
  | succ depth ih =>
    intro name s x t wanted consistent h
    obtain ⟨d, u, same, level, rfl⟩ := importWithin_inv h
    cases same
    have chain := level_changes ih consistent wanted level
    cases x with
    | error e => exact chain
    | ok module =>
      have continues := level_continues consistent level
      exact chain.tail (.noted continues.consistent (level_loaded consistent level rfl))

theorem importModule_changes (consistent : s.Consistent) (requested : name ∈ roots)
    {x : Except RunError Module} (h : importModule fs name s = some (x, t)) :
    Changes fs roots s t :=
  importWithin_changes fs roots _ (.requested requested) consistent h

end Interpreter

end ModuleImport
