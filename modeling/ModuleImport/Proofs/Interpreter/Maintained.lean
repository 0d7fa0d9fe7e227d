import ModuleImport.Proofs.Interpreter.Continued
import ModuleImport.Proofs.Interpreter.Instruction
import ModuleImport.Proofs.Interpreter.Mentioned

namespace ModuleImport

open Run Body

namespace Interpreter

/-- The module that is registered for the parent of a name, if the name has a parent. -/
inductive ParentOf (s : Interpreter) (name : String) : Option Module → Prop
  | none : Name.parent? name = none → ParentOf s name none
  | some {parent module} : Name.parent? name = some parent → s.loaded? parent = some module →
      ParentOf s name (some module)

/-- A search for a name that is not registered has just ended with what was found, along the search
path of its parent. -/
structure Ready (fs : FileSystem) (name : String) (parent? : Option Module) (found : Found)
    (s : Interpreter) : Prop where
  consistent : s.Consistent
  importable : Name.isImportable name = true
  absent : s.loaded? name = none
  parent : s.ParentOf name parent?
  searched : ∃ (t : Interpreter) (directories : List Path),
    t.directories? parent? = some directories ∧ t.search fs name directories = (.ok found, s)

/-- A search is ready to load what an importer has planned for a name. -/
structure Loadable (fs : FileSystem) (name : String) (parent? : Option Module) (importer : Importer)
    (plan : LoadPlan) (s : Interpreter) : Prop
    extends Ready fs name parent? (.loader importer) s where
  found : LoadPlan.find (ε := RunError) fs importer (s.store.entryPointOf importer) name = .ok plan
  target : plan.target = s.registeredName name
  unregistered : s.lookup plan.target = none

/-- A relation, of a state to how a run ends and to the state that it leaves, that single changes and
loads maintain. The names that are imported are among those of `N`. -/
structure Maintained (fs : FileSystem) (N : String → Prop)
    (R : Interpreter → Except RunError Unit → Interpreter → Prop) : Prop where
  refl : ∀ s, R s (.ok ()) s
  failed : ∀ s e, R s (.error e) s
  trans : ∀ {s t u x}, s.Consistent → s.Continues t → R s (.ok ()) t → R t x u → R s x u
  printed : ∀ s line, R s (.ok ()) (s.println line)
  written : ∀ {s module code artifact attr} value, s.Consistent → s.Owns module →
    .began module code artifact ∈ s.trace → attr ∈ code.writes →
    R s (.ok ()) (s.assign module attr value)
  noted : ∀ {s name module}, s.Consistent → s.loaded? name = some module →
    R s (.ok ()) (s.record (.imported name module))
  looked : ∀ {s} entry, s.Consistent → R s (.ok ()) (s.importerFor fs entry).2
  assembled : ∀ {s name parent? portions}, N name → Ready fs name parent? (.portions portions) s →
    R s (.ok ())
      ((s.assemble name portions).2.bindOnParent parent? name (s.assemble name portions).1)
  completed : ∀ {s t name parent? importer plan}, N name →
    Loadable fs name parent? importer plan s →
    (s.started importer plan).Continues t → R (s.started importer plan) (.ok ()) t →
    R s (.ok ()) ((s.completed plan t).bindOnParent parent? name (s.loading plan))
  abandoned : ∀ {s t name parent? importer plan e}, N name →
    Loadable fs name parent? importer plan s →
    (s.started importer plan).Continues t → R (s.started importer plan) (.error e) t →
    R s (.error (.failedLoad (.execution plan.target e))) (s.abandoned plan t)

/-- How an import ends, whatever module it gives. -/
def outcome (x : Except RunError Module) : Except RunError Unit :=
  x.map fun _ => ()

variable {fs : FileSystem} {N : String → Prop}
  {R : Interpreter → Except RunError Unit → Interpreter → Prop} {depth : Nat} {name : String}
  {s t u : Interpreter}

/-- What is shown of imports that are nested less deeply. -/
def Maintains (fs : FileSystem) (N : String → Prop)
    (R : Interpreter → Except RunError Unit → Interpreter → Prop) (depth : Nat) : Prop :=
  ∀ {name s x t}, N name → s.Consistent → importWithin fs depth name s = some (x, t) →
    R s (outcome x) t

theorem ParentOf.later {parent? : Option Module} (parentOf : s.ParentOf name parent?)
    (registered : ∀ key module, s.lookup key = .some module → t.lookup key = .some module)
    (entryPoint : t.entryPoint = s.entryPoint) : t.ParentOf name parent? := by
  cases parentOf with
  | none none => exact .none none
  | some isParent loaded =>
    refine .some isParent ?_
    unfold loaded? registeredName at loaded ⊢
    rw [entryPoint]
    exact registered _ _ loaded

theorem instruction_maintains (maintained : Maintained fs N R) (closed : Closed fs N)
    (nested : Maintains fs N R depth) (consistent : s.Consistent) {module : Module} {code : Code}
    {artifact origin : Path} (owned : s.Owns module)
    (began : .began module code origin ∈ s.trace) {instruction : Instruction}
    (imports : ∀ name ∈ instruction.imports, N name)
    (writes : ∀ attr ∈ instruction.writes, attr ∈ code.writes) {x : Except RunError Unit}
    (h : Instructed (importWithin fs depth) module artifact instruction s x t) : R s x t := by
  -- a binding after an import is a write in the state that the import leaves
  have bound {name attr : String} {imported : Module} {u : Interpreter} {value : Value}
      (wanted : N name) (got : importWithin fs depth name s = some (.ok imported, u))
      (member : attr ∈ code.writes) : R s (.ok ()) (u.assign module attr value) := by
    have after := importWithin_continues consistent got
    refine maintained.trans consistent after (nested wanted consistent got) ?_
    exact maintained.written value after.consistent (Nat.lt_of_lt_of_le owned after.settles.grows)
      (after.settles.remembered _ began) member
  cases h with
  | stored => exact maintained.written _ consistent owned began (writes _ List.mem_cons_self)
  | copied => exact maintained.written _ consistent owned began (writes _ List.mem_cons_self)
  | printed => exact maintained.printed s _
  | missing => exact maintained.failed s _
  | raised => exact maintained.failed s _
  | importFailed failed => exact nested (imports _ List.mem_cons_self) consistent failed
  | bound got => exact bound (imports _ List.mem_cons_self) got (writes _ List.mem_cons_self)
  | boundItself got => exact bound (imports _ List.mem_cons_self) got (writes _ List.mem_cons_self)
  | outermostFailed got failed =>
    have wanted := imports _ List.mem_cons_self
    have after := importWithin_continues consistent got
    refine maintained.trans consistent after (nested wanted consistent got) ?_
    exact nested (closed.top wanted (isImportable_of_importWithin got)) after.consistent failed
  | boundOutermost got package =>
    have wanted := imports _ List.mem_cons_self
    have first := importWithin_continues consistent got
    have second := importWithin_continues first.consistent package
    have after := first.trans second
    refine maintained.trans consistent after (maintained.trans consistent first
      (nested wanted consistent got) (nested (closed.top wanted (isImportable_of_importWithin got))
        first.consistent package)) ?_
    exact maintained.written _ after.consistent (Nat.lt_of_lt_of_le owned after.settles.grows)
      (after.settles.remembered _ began) (writes _ List.mem_cons_self)

theorem body_maintains (maintained : Maintained fs N R) (closed : Closed fs N)
    (nested : Maintains fs N R depth) (consistent : s.Consistent) {module : Module} {code : Code}
    {artifact origin : Path} (owned : s.Owns module)
    (began : .began module code origin ∈ s.trace) (imports : ∀ name ∈ code.imports, N name)
    {x : Except RunError Unit}
    (h : runInstructions (importWithin fs depth) module artifact code.instructions s =
      some (x, t)) : R s x t := by
  have step {u v : Interpreter} {y : Except RunError Unit} {instruction : Instruction}
      (member : instruction ∈ code.instructions) (before : s.Continues u ∧ R s (.ok ()) u)
      (ran : runInstruction (importWithin fs depth) module artifact instruction u = some (y, v)) :
      s.Continues v ∧ R s y v := by
    obtain ⟨su, maintains⟩ := before
    refine ⟨su.trans (instruction_continues su.consistent ran),
      maintained.trans consistent su maintains ?_⟩
    refine instruction_maintains maintained closed nested su.consistent
      (Nat.lt_of_lt_of_le owned su.settles.grows) (su.settles.remembered _ began) ?_ ?_
      (instructed_of_runInstruction ran)
    · exact fun name wanted => imports name (List.mem_flatMap.mpr ⟨instruction, member, wanted⟩)
    · exact fun attr bound => List.mem_flatMap.mpr ⟨instruction, member, bound⟩
  obtain ⟨rfl, -, ended⟩ | ⟨e, rfl, failed⟩ := runInstructions_induct
    (P := fun u => s.Continues u ∧ R s (.ok ()) u) (Q := fun e u => R s (.error e) u)
    (fun _ member => step member) (fun _ member before ran => (step member before ran).2)
    ⟨.refl consistent, maintained.refl s⟩ h
  · exact ended
  · exact failed

theorem importParent_maintains (maintained : Maintained fs N R) (closed : Closed fs N)
    (nested : Maintains fs N R depth) (consistent : s.Consistent) (wanted : N name)
    {x : Except RunError (Option Module)}
    (h : importParent (importWithin fs depth) name s = some (x, t)) :
    R s (x.map fun _ => ()) t := by
  obtain ⟨_, rfl, rfl⟩ | ⟨parent, y, isParent, imported, rfl⟩ := importParent_inv h
  · exact maintained.refl _
  · have := nested (closed.parent wanted isParent) consistent imported
    cases y <;> exact this

theorem parentOf_of_importParent (consistent : s.Consistent) {parent? : Option Module}
    (h : importParent (importWithin fs depth) name s = some (.ok parent?, t)) :
    t.ParentOf name parent? := by
  obtain ⟨none, same, rfl⟩ | ⟨parent, y, isParent, imported, same⟩ := importParent_inv h
  · cases same
    exact .none none
  · cases y with
    | error e => cases same
    | ok module =>
      cases same
      exact .some isParent (loaded?_of_importWithin consistent imported rfl)

theorem search_maintains (maintained : Maintained fs N R) (consistent : s.Consistent)
    {directories : List Path} {found : _} (h : s.search fs name directories = (found, t)) :
    R s (.ok ()) t := by
  have both : s.Continues (s.search fs name directories).2 ∧
      R s (.ok ()) (s.search fs name directories).2 := by
    refine search_induct (P := fun u => s.Continues u ∧ R s (.ok ()) u) name
      (fun u entry before => ?_) directories ⟨.refl consistent, maintained.refl s⟩
    obtain ⟨su, maintains⟩ := before
    have follows := Follows.looked (kept_keeps fs) su.consistent.sound entry
    exact ⟨su.trans (follows.continues su.consistent),
      maintained.trans consistent su maintains (maintained.looked entry su.consistent)⟩
  rw [h] at both
  exact both.2

theorem searching_maintains (maintained : Maintained fs N R) (closed : Closed fs N)
    (nested : Maintains fs N R depth) (consistent : s.Consistent) (wanted : N name)
    {parent? : Option Module} {directories : List Path} {found : _}
    (searching : Searching (importWithin fs depth) name s parent? directories t)
    (search : t.search fs name directories = (found, u)) :
    s.Continues u ∧ R s (.ok ()) u := by
  have parent := importParent_continues consistent searching.parent
  have looked := search_continues parent.consistent search
  refine ⟨parent.trans looked, maintained.trans consistent parent ?_
    (search_maintains maintained parent.consistent search)⟩
  exact importParent_maintains maintained closed nested consistent wanted searching.parent

theorem ready_of_search (consistent : s.Consistent) {parent? : Option Module}
    {directories : List Path} {found : Found}
    (searching : Searching (importWithin fs depth) name s parent? directories t)
    (search : t.search fs name directories = (.ok found, u)) : Ready fs name parent? found u := by
  have parent := importParent_continues consistent searching.parent
  have looked := search_continues parent.consistent search
  refine ⟨looked.consistent, searching.importable, loaded?_of_search searching.stillAbsent search, ?_,
    t, directories, searching.directories, search⟩
  cases parentOf_of_importParent consistent searching.parent with
  | none none => exact .none none
  | some isParent registered => exact .some isParent (looked.loaded? registered)

theorem loadable_of_search (consistent : s.Consistent) {parent? : Option Module}
    {directories : List Path} {importer : Importer} {plan : LoadPlan}
    (searching : Searching (importWithin fs depth) name s parent? directories t)
    (search : t.search fs name directories = (.ok (.loader importer), u))
    (found : LoadPlan.find (ε := RunError) fs importer (u.store.entryPointOf importer) name =
      .ok plan) : Loadable fs name parent? importer plan u where
  toReady := ready_of_search consistent searching search
  found := found
  target := target_of_search (ready_of_search consistent searching search).consistent search found
  unregistered := lookup_target_of_search
    (ready_of_search consistent searching search).consistent.sound searching.stillAbsent search found

theorem began_mem_started {importer : Importer} {plan : LoadPlan}
    (absent : s.lookup plan.target = none) :
    .began (s.loading plan) plan.code plan.artifact ∈ (s.started importer plan).trace := by
  rw [(started_of_absent importer absent).trace, loading_of_absent absent]
  exact List.mem_cons_self

theorem Loadable.body_maintains {parent? : Option Module} {importer : Importer} {plan : LoadPlan}
    (loadable : Loadable fs name parent? importer plan s) (maintained : Maintained fs N R)
    (closed : Closed fs N) (nested : Maintains fs N R depth) {x : Except RunError Unit}
    (h : runInstructions (importWithin fs depth) (s.loading plan) plan.artifact
      plan.code.instructions (s.started importer plan) = some (x, t)) :
    (s.started importer plan).Continues t ∧ R (s.started importer plan) x t := by
  have started := consistent_started importer plan loadable.consistent
  have registered := (lookup_started importer loadable.unregistered plan.target).trans (if_pos rfl)
  refine ⟨body_continues started h, Interpreter.body_maintains maintained closed nested started
    (started.sound.owned registered) (began_mem_started loadable.unregistered) ?_ h⟩
  exact fun other member => closed.imported (LoadPlan.imports_of_find loadable.found member)

theorem level_maintains (maintained : Maintained fs N R) (closed : Closed fs N)
    (nested : Maintains fs N R depth) (consistent : s.Consistent) (wanted : N name)
    {x : Except RunError Module} (level : Level fs (importWithin fs depth) name s x t) :
    R s (outcome x) t := by
  have parents {y : Except RunError (Option Module)} {u : Interpreter}
      (h : importParent (importWithin fs depth) name s = some (y, u)) :=
    importParent_maintains maintained closed nested consistent wanted h
  have searches {parent? directories found t u}
      (searching : Searching (importWithin fs depth) name s parent? directories t)
      (search : t.search fs name directories = (found, u)) :=
    searching_maintains maintained closed nested consistent wanted searching search
  cases level with
  | unimportable => exact maintained.failed s _
  | registered => exact maintained.refl s
  | parentFailed _ _ failed => exact parents failed
  | notAPackage _ _ parent _ =>
    exact maintained.trans consistent (importParent_continues consistent parent) (parents parent)
      (maintained.failed t _)
  | registeredByParent _ _ parent _ _ => exact parents parent
  | probeFailed searching search =>
    obtain ⟨su, before⟩ := searches searching search
    exact maintained.trans consistent su before (maintained.failed t _)
  | notFound searching search =>
    obtain ⟨su, before⟩ := searches searching search
    exact maintained.trans consistent su before (maintained.failed t _)
  | planFailed searching search _ =>
    obtain ⟨su, before⟩ := searches searching search
    exact maintained.trans consistent su before (maintained.failed t _)
  | assembled searching search _ =>
    obtain ⟨su, before⟩ := searches searching search
    exact maintained.trans consistent su before
      (maintained.assembled wanted (ready_of_search consistent searching search))
  | loaded searching search found body =>
    obtain ⟨su, before⟩ := searches searching search
    have loadable := loadable_of_search consistent searching search found
    obtain ⟨continues, ran⟩ := loadable.body_maintains maintained closed nested body
    exact maintained.trans consistent su before (maintained.completed wanted loadable continues ran)
  | bodyFailed searching search found body =>
    obtain ⟨su, before⟩ := searches searching search
    have loadable := loadable_of_search consistent searching search found
    obtain ⟨continues, ran⟩ := loadable.body_maintains maintained closed nested body
    exact maintained.trans consistent su before (maintained.abandoned wanted loadable continues ran)

theorem importWithin_maintains (maintained : Maintained fs N R) (closed : Closed fs N)
    (depth : Nat) : Maintains fs N R depth := by
  induction depth with
  | zero =>
    intro name s x t _ _ h
    cases h
  | succ depth ih =>
    intro name s x t wanted consistent h
    obtain ⟨d, u, same, level, rfl⟩ := importWithin_inv h
    cases same
    have ran := level_maintains maintained closed ih consistent wanted level
    cases x with
    | error e => exact ran
    | ok module =>
      have continues := level_continues consistent level
      exact maintained.trans consistent continues ran
        (maintained.noted continues.consistent (level_loaded consistent level rfl))

end Interpreter

end ModuleImport
