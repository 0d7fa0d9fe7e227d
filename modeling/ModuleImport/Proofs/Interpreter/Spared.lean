import ModuleImport.Proofs.Interpreter.Attached
import ModuleImport.Proofs.Interpreter.Failing
import ModuleImport.Proofs.Interpreter.Retained

namespace ModuleImport

open Run Body

theorem Store.get?_congr (store : Store) {module other : Module} (same : module.id = other.id)
    (attr : String) : store.get? module attr = store.get? other attr := by
  unfold get? attributesOf
  rw [same]

theorem Output.lines_println (output : Output) (line : String) :
    output.lines <+: (output.println line).lines := by
  cases output with
  | stdout => exact List.prefix_rfl
  | buffer kept => exact List.prefix_append kept [line]
  | silent => exact List.prefix_rfl

namespace Interpreter

/-- A new module is bound on a module as an attribute, by an import that has imported both: the
module for the parent of the name that it has imported the new one for. -/
structure BoundOn (s t : Interpreter) (done : List Event) (module : Module) (attr : String)
    (submodule : Module) : Prop where
  new : ¬s.Owns submodule
  registered : t.lookup submodule.name = some submodule
  value : t.store.get? module attr = some (.module submodule)
  imported : ∃ name parent package, Name.parent? name = some parent ∧
    Name.lastSegment? name = some attr ∧ .imported name submodule ∈ done ∧
    .imported parent package ∈ done ∧ package.id = module.id

/-- A part of a run that leaves alone the modules whose identities are below a limit, and keeps what
was registered and printed before. -/
structure Spares (limit : Nat) (s t : Interpreter) (done : List Event) : Prop where
  grows : s.store.attributes.size ≤ t.store.attributes.size
  retains : s.Retains t
  trace : t.trace = done ++ s.trace
  printed : s.output.lines <+: t.output.lines
  kept : ∀ module attr, module.id < limit →
    t.store.get? module attr = s.store.get? module attr ∨
      ∃ submodule, BoundOn s t done module attr submodule

variable {fs : FileSystem} {limit depth : Nat} {name : String} {s t u : Interpreter}
  {done done' : List Event}

theorem Spares.quiet (registry : t.registry = s.registry)
    (attributes : t.store.attributes = s.store.attributes) (output : t.output = s.output)
    (trace : t.trace = done ++ s.trace) : Spares limit s t done where
  grows := by rw [attributes]
  retains := .of_registry registry
  trace := trace
  printed := output ▸ List.prefix_rfl
  kept module attr _ := by
    left
    unfold Store.get? Store.attributesOf
    rw [attributes]

theorem Spares.refl (limit : Nat) (s : Interpreter) : Spares limit s s [] :=
  .quiet rfl rfl rfl rfl

theorem Spares.record (limit : Nat) (s : Interpreter) (event : Event) :
    Spares limit s (s.record event) [event] :=
  .quiet rfl rfl rfl rfl

theorem Spares.println (limit : Nat) (s : Interpreter) (line : String) :
    Spares limit s (s.println line) [] where
  grows := Nat.le_refl _
  retains := .of_registry rfl
  trace := rfl
  printed := s.output.lines_println line
  kept _ _ _ := .inl rfl

theorem Spares.assign (s : Interpreter) {module : Module} (newer : limit ≤ module.id)
    (attr : String) (value : Value) : Spares limit s (s.assign module attr value) [] where
  grows := by simp
  retains := .of_registry rfl
  trace := rfl
  printed := List.prefix_rfl
  kept other key old := .inl (Store.get?_set_other _ (by omega) _ _ _)

/-- What was bound in a part of a run was bound in the whole, if the attribute is left alone then. -/
theorem BoundOn.widen {r : Interpreter} {module submodule : Module} {attr : String}
    (bound : BoundOn s t done module attr submodule)
    (grows : r.store.attributes.size ≤ s.store.attributes.size)
    (registered : u.lookup submodule.name = some submodule) (more : done ⊆ done')
    (same : u.store.get? module attr = t.store.get? module attr) :
    BoundOn r u done' module attr submodule where
  new early := bound.new (Nat.lt_of_lt_of_le early grows)
  registered := registered
  value := same.trans bound.value
  imported := by
    obtain ⟨name, parent, package, isParent, isLast, imported, given, object⟩ := bound.imported
    exact ⟨name, parent, package, isParent, isLast, more imported, more given, object⟩

theorem Spares.trans (st : Spares limit s t done) (tu : Spares limit t u done') :
    Spares limit s u (done' ++ done) where
  grows := Nat.le_trans st.grows tu.grows
  retains := st.retains.trans tu.retains
  trace := by rw [tu.trace, st.trace, List.append_assoc]
  printed := st.printed.trans tu.printed
  kept module attr old := by
    rcases tu.kept module attr old with same | ⟨submodule, bound⟩
    · rcases st.kept module attr old with unchanged | ⟨submodule, bound⟩
      · exact .inl (same.trans unchanged)
      · exact .inr ⟨submodule, bound.widen (Nat.le_refl _)
          (tu.retains _ _ bound.registered) (List.subset_append_right _ _) same⟩
    · exact .inr ⟨submodule, bound.widen st.grows bound.registered
        (List.subset_append_left _ _) rfl⟩

theorem Spares.searched (limit : Nat) {directories : List Path} {found : _}
    (search : s.search fs name directories = (found, t)) : Spares limit s t [] := by
  have looked : Spares limit s (s.search fs name directories).2 [] := by
    refine search_induct (P := fun u => Spares limit s u []) name (fun u entry before => ?_)
      directories (.refl limit s)
    have step : Spares limit u (u.importerFor fs entry).2 [] :=
      .quiet (by simp) (by simp) (by simp) (by simp)
    exact before.trans step
  rw [search] at looked
  exact looked

/-- Binding a module on its parent writes one attribute of the parent, if there is one. -/
theorem get?_bindOnParent {other : Module} (owned : s.Owns other) (parent? : Option Module)
    (name attr : String) (module : Module) :
    (s.bindOnParent parent? name module).store.get? other attr = s.store.get? other attr ∨
      ∃ package, parent? = some package ∧ Name.lastSegment? name = some attr ∧
        package.id = other.id ∧
        (s.bindOnParent parent? name module).store.get? other attr = some (.module module) := by
  unfold bindOnParent
  split
  · rename_i package segment isLast
    by_cases same : other.id = package.id ∧ attr = segment
    · obtain ⟨object, rfl⟩ := same
      refine .inr ⟨package, rfl, isLast, object.symm, ?_⟩
      have present : package.id < s.store.attributes.size := object ▸ owned
      exact (Store.get?_congr _ object _).trans
        ((Store.get?_set_self _ present attr attr _).trans (if_pos rfl))
    · exact .inl (Store.get?_set_of_ne _ (fun object written => same ⟨object, written⟩) _)
  · exact .inl rfl

/-- A new module is bound on its parent, which was imported before, and its own import ends. -/
theorem Spares.bound {parent? : Option Module} {module : Module}
    (within : limit ≤ s.store.attributes.size) (before : Spares limit s t done)
    (new : ¬s.Owns module) (registered : t.lookup module.name = some module)
    (parent : ∀ package, parent? = some package →
      ∃ parent, Name.parent? name = some parent ∧ .imported parent package ∈ done) :
    Spares limit s ((t.bindOnParent parent? name module).record (.imported name module))
      (.imported name module :: done) := by
  have retains : t.Retains ((t.bindOnParent parent? name module).record (.imported name module)) :=
    (retains_bindOnParent t parent? name module).trans (.of_registry rfl)
  have more : done ⊆ .imported name module :: done := List.subset_cons_self _ _
  refine ⟨?_, before.retains.trans retains, ?_, ?_, ?_⟩
  · simpa [Interpreter.record] using before.grows
  · simp [Interpreter.record, before.trace]
  · have same : (t.bindOnParent parent? name module).output = t.output := by
      unfold bindOnParent
      split <;> rfl
    change _ <+: (t.bindOnParent parent? name module).output.lines
    rw [same]
    exact before.printed
  · intro other attr old
    have owned : t.Owns other := by
      have := before.grows
      unfold Owns
      omega
    obtain same | ⟨package, rfl, isLast, object, value⟩ :=
      get?_bindOnParent owned parent? name attr module
    · rcases before.kept other attr old with unchanged | ⟨submodule, bound⟩
      · exact .inl (same.trans unchanged)
      · exact .inr ⟨submodule, bound.widen (Nat.le_refl _)
          (retains _ _ bound.registered) more same⟩
    · obtain ⟨parent, isParent, imported⟩ := parent package rfl
      exact .inr ⟨module, new, retains _ _ registered, value, name, parent, package, isParent,
        isLast, List.mem_cons_self, more imported, object⟩

theorem Spares.assembled (within : limit ≤ s.store.attributes.size) (absent : s.loaded? name = none)
    (portions : List Path) :
    Spares limit s (s.assemble name portions).2
      [.assembled (s.registeredName name) (s.assemble name portions).1 portions] where
  grows := by
    change s.store.attributes.size ≤ ((s.register _).2.assign _ _ _).store.attributes.size
    simp
  retains := retains_assemble absent portions
  trace := rfl
  printed := List.prefix_rfl
  kept module attr old := by
    have owned : s.Owns module := Nat.lt_of_lt_of_le old within
    have new : module.id ≠ (s.register (s.registeredName name)).1.id := Nat.ne_of_lt owned
    exact .inl ((Store.get?_set_other _ new _ _ _).trans (Store.get?_newModule owned _ _))

section Loads

variable {importer : Importer} {plan : LoadPlan}

theorem Spares.started (within : limit ≤ s.store.attributes.size) (importer : Importer)
    (absent : s.lookup plan.target = none) :
    Spares limit s (s.started importer plan) (s.startEvents plan) where
  grows := by
    rw [size_started importer absent]
    exact Nat.le_succ _
  retains := retains_started importer plan s
  trace := trace_started importer absent
  printed := by
    have same : (s.started importer plan).output = s.output := by
      rw [Interpreter.started, getOrCreate_of_absent absent, prepared]
      cases plan.searchPath? <;> rfl
    exact same ▸ List.prefix_rfl
  kept module attr old := .inl (get?_started absent (Nat.lt_of_lt_of_le old within) attr)

/-- A failed load takes back its own registration. What its body has bound is newer and stays. -/
theorem Spares.abandoned (within : limit ≤ s.store.attributes.size)
    (absent : s.lookup plan.target = none) (body : Spares limit (s.started importer plan) t done) :
    Spares limit s (s.abandoned plan t) (.removed plan.target ::
      .stopped (s.loading plan) plan.artifact :: (done ++ s.startEvents plan)) := by
  have ran := (Spares.started within importer absent).trans body
  have removed := abandoned_of_absent (t := t) absent
  refine ⟨?_, (Retains.abandoned body.retains).1, ?_, ?_, ?_⟩
  · rw [removed]
    exact ran.grows
  · rw [removed]
    change .removed plan.target :: .stopped (s.loading plan) plan.artifact :: t.trace = _
    rw [ran.trace]
    rfl
  · rw [removed]
    exact ran.printed
  · intro module attr old
    have same : (s.abandoned plan t).store = t.store := by
      rw [removed]
      rfl
    rw [same]
    rcases body.kept module attr old with unchanged | ⟨submodule, bound⟩
    · exact .inl (unchanged.trans (get?_started absent (Nat.lt_of_lt_of_le old within) attr))
    · have other : submodule.name ≠ plan.target := by
        intro same
        have loaded := body.retains _ _ (lookup_loading importer plan s)
        rw [← same, bound.registered] at loaded
        cases loaded
        exact bound.new (owns_loading_started importer absent)
      have registered : (s.abandoned plan t).lookup submodule.name = some submodule := by
        simpa [absent, other] using bound.registered
      have more : done ⊆ .removed plan.target :: .stopped (s.loading plan) plan.artifact ::
          (done ++ s.startEvents plan) :=
        fun event member => .tail _ (.tail _ (List.mem_append_left _ member))
      have before := (Spares.started within importer absent).grows
      exact .inr ⟨submodule,
        bound.widen before registered more (congrArg (·.get? module attr) same)⟩

end Loads

/-- What is shown of imports that are nested less deeply. -/
def Sparing (fs : FileSystem) (limit depth : Nat) : Prop :=
  ∀ {name s x t}, s.Consistent → limit ≤ s.store.attributes.size →
    importWithin fs depth name s = some (x, t) →
    ∃ done, Spares limit s t done ∧ ∀ module, x = .ok module → .imported name module ∈ done

theorem instruction_spares (nested : Sparing fs limit depth) (consistent : s.Consistent)
    (within : limit ≤ s.store.attributes.size) {module : Module} (newer : limit ≤ module.id)
    {artifact : Path} {instruction : Instruction} {x : Except RunError Unit}
    (h : runInstruction (importWithin fs depth) module artifact instruction s = some (x, t)) :
    ∃ done, Spares limit s t done := by
  cases instructed_of_runInstruction h with
  | stored => exact ⟨_, .assign s newer _ _⟩
  | copied => exact ⟨_, .assign s newer _ _⟩
  | printed => exact ⟨_, .println limit s _⟩
  | missing => exact ⟨_, .refl limit s⟩
  | raised => exact ⟨_, .refl limit s⟩
  | importFailed failed =>
    obtain ⟨done, spares, -⟩ := nested consistent within failed
    exact ⟨done, spares⟩
  | bound got =>
    obtain ⟨done, spares, -⟩ := nested consistent within got
    exact ⟨_, spares.trans (.assign _ newer _ _)⟩
  | boundItself got =>
    obtain ⟨done, spares, -⟩ := nested consistent within got
    exact ⟨_, spares.trans (.assign _ newer _ _)⟩
  | outermostFailed got failed =>
    obtain ⟨done, spares, -⟩ := nested consistent within got
    have after := importWithin_continues consistent got
    obtain ⟨done', spares', -⟩ :=
      nested after.consistent (Nat.le_trans within spares.grows) failed
    exact ⟨_, spares.trans spares'⟩
  | boundOutermost got package =>
    obtain ⟨done, spares, -⟩ := nested consistent within got
    have after := importWithin_continues consistent got
    obtain ⟨done', spares', -⟩ :=
      nested after.consistent (Nat.le_trans within spares.grows) package
    exact ⟨_, (spares.trans spares').trans (.assign _ newer _ _)⟩

theorem body_spares (nested : Sparing fs limit depth) (consistent : s.Consistent)
    (within : limit ≤ s.store.attributes.size) {module : Module} (newer : limit ≤ module.id)
    {artifact : Path} {instructions : List Instruction} {x : Except RunError Unit}
    (h : runInstructions (importWithin fs depth) module artifact instructions s = some (x, t)) :
    ∃ done, Spares limit s t done := by
  have step {u v : Interpreter} {y : Except RunError Unit} {instruction : Instruction}
      (before : s.Continues u ∧ ∃ done, Spares limit s u done)
      (ran : runInstruction (importWithin fs depth) module artifact instruction u = some (y, v)) :
      s.Continues v ∧ ∃ done, Spares limit s v done := by
    obtain ⟨later, done, spares⟩ := before
    obtain ⟨done', spares'⟩ := instruction_spares nested later.consistent
      (Nat.le_trans within spares.grows) newer ran
    exact ⟨later.trans (instruction_continues later.consistent ran), _, spares.trans spares'⟩
  obtain ⟨-, -, spares⟩ | ⟨-, -, -, spares⟩ := runInstructions_induct
    (P := fun u => s.Continues u ∧ ∃ done, Spares limit s u done)
    (Q := fun _ u => s.Continues u ∧ ∃ done, Spares limit s u done)
    (fun _ _ => step) (fun _ _ => step) ⟨.refl consistent, [], .refl limit s⟩ h
  · exact spares
  · exact spares

theorem importParent_spares (nested : Sparing fs limit depth) (consistent : s.Consistent)
    (within : limit ≤ s.store.attributes.size) {x : Except RunError (Option Module)}
    (h : importParent (importWithin fs depth) name s = some (x, t)) :
    ∃ done, Spares limit s t done ∧ ∀ package, x = .ok (some package) →
      ∃ parent, Name.parent? name = some parent ∧ .imported parent package ∈ done := by
  obtain ⟨-, rfl, rfl⟩ | ⟨parent, y, isParent, imported, rfl⟩ := importParent_inv h
  · exact ⟨[], .refl limit t, nofun⟩
  · obtain ⟨done, spares, told⟩ := nested consistent within imported
    refine ⟨done, spares, fun package given => ⟨parent, isParent, told package ?_⟩⟩
    cases y with
    | error e => cases given
    | ok module =>
      cases given
      rfl

theorem searching_spares (nested : Sparing fs limit depth) (consistent : s.Consistent)
    (within : limit ≤ s.store.attributes.size) {parent? : Option Module} {directories : List Path}
    {found : _} (searching : Searching (importWithin fs depth) name s parent? directories t)
    (search : t.search fs name directories = (found, u)) :
    ∃ done, Spares limit s u done ∧ ∀ package, parent? = some package →
      ∃ parent, Name.parent? name = some parent ∧ .imported parent package ∈ done := by
  obtain ⟨done, spares, told⟩ := importParent_spares nested consistent within searching.parent
  have after := spares.trans (.searched limit search)
  exact ⟨done, after, fun package given => told package (congrArg Except.ok given)⟩

theorem load_spares (nested : Sparing fs limit depth) {parent? : Option Module}
    {importer : Importer} {plan : LoadPlan} (loadable : Loadable fs name parent? importer plan s)
    (within : limit ≤ s.store.attributes.size) {x : Except RunError Unit}
    (body : runInstructions (importWithin fs depth) (s.loading plan) plan.artifact
      plan.code.instructions (s.started importer plan) = some (x, t)) :
    ∃ done, Spares limit (s.started importer plan) t done := by
  have started := Spares.started within importer loadable.unregistered
  have newer : limit ≤ (s.loading plan).id :=
    Nat.le_trans within (Nat.not_lt.mp (not_owns_loading loadable.unregistered))
  exact body_spares nested (consistent_started importer plan loadable.consistent)
    (Nat.le_trans within started.grows) newer body

theorem level_spares (nested : Sparing fs limit depth) (consistent : s.Consistent)
    (within : limit ≤ s.store.attributes.size) {x : Except RunError Module}
    (level : Level fs (importWithin fs depth) name s x t) :
    ∃ done, Spares limit s (t.noteImported name x) done ∧
      ∀ module, x = .ok module → .imported name module ∈ done := by
  have noted {module : Module} {u : Interpreter} {done : List Event}
      (spares : Spares limit s u done) :
      Spares limit s (u.record (.imported name module)) ([.imported name module] ++ done) :=
    spares.trans (.record limit u _)
  cases level with
  | unimportable => exact ⟨[], .refl limit s, nofun⟩
  | @registered module => exact ⟨_, noted (.refl limit s), by rintro _ ⟨⟩; exact List.mem_cons_self⟩
  | parentFailed _ _ failed =>
    obtain ⟨done, spares, -⟩ := importParent_spares nested consistent within failed
    exact ⟨done, spares, nofun⟩
  | notAPackage _ _ parent _ =>
    obtain ⟨done, spares, -⟩ := importParent_spares nested consistent within parent
    exact ⟨done, spares, nofun⟩
  | registeredByParent _ _ parent _ _ =>
    obtain ⟨done, spares, -⟩ := importParent_spares nested consistent within parent
    exact ⟨_, noted spares, by rintro _ ⟨⟩; exact List.mem_cons_self⟩
  | probeFailed searching search =>
    obtain ⟨done, spares, -⟩ := searching_spares nested consistent within searching search
    exact ⟨done, spares, nofun⟩
  | notFound searching search =>
    obtain ⟨done, spares, -⟩ := searching_spares nested consistent within searching search
    exact ⟨done, spares, nofun⟩
  | planFailed searching search _ =>
    obtain ⟨done, spares, -⟩ := searching_spares nested consistent within searching search
    exact ⟨done, spares, nofun⟩
  | @assembled parent? directories portions v u searching search _ =>
    obtain ⟨done, spares, parent⟩ := searching_spares nested consistent within searching search
    have absent : u.loaded? name = none := loaded?_of_search searching.stillAbsent search
    have before := spares.trans (.assembled (Nat.le_trans within spares.grows) absent portions)
    have new : ¬s.Owns (u.assemble name portions).1 := Nat.not_lt.mpr spares.grows
    have registered := (lookup_register u (u.registeredName name) _).trans (if_pos rfl)
    refine ⟨_, before.bound within new registered fun package given => ?_, ?_⟩
    · obtain ⟨parent, isParent, imported⟩ := parent package given
      exact ⟨parent, isParent, List.mem_append_right _ imported⟩
    · rintro _ ⟨⟩
      exact List.mem_cons_self
  | @loaded parent? directories importer plan v u w searching search found body =>
    obtain ⟨done, spares, parent⟩ := searching_spares nested consistent within searching search
    have loadable := loadable_of_search consistent searching search found
    obtain ⟨done', ran⟩ := load_spares nested loadable (Nat.le_trans within spares.grows) body
    have start := spares.trans (.started (Nat.le_trans within spares.grows) importer
      loadable.unregistered)
    have ended := (start.trans ran).trans
      (.record limit w (.finished (u.loading plan) plan.artifact))
    have new : ¬s.Owns (u.loading plan) :=
      fun early => not_owns_loading loadable.unregistered (Nat.lt_of_lt_of_le early spares.grows)
    have registered :
        (u.completed plan w).lookup (u.loading plan).name = some (u.loading plan) := by
      have named : (u.loading plan).name = plan.target := by
        rw [loading_of_absent loadable.unregistered]
        rfl
      rw [named]
      exact ran.retains _ _ (lookup_loading importer plan u)
    refine ⟨_, ended.bound within new registered fun package given => ?_, ?_⟩
    · obtain ⟨parent, isParent, imported⟩ := parent package given
      refine ⟨parent, isParent, ?_⟩
      have started := List.mem_append_right (u.startEvents plan) imported
      exact List.mem_append_right _ (List.mem_append_right done' started)
    · rintro _ ⟨⟩
      exact List.mem_cons_self
  | @bodyFailed parent? directories importer plan e v u w searching search found body =>
    obtain ⟨done, spares, -⟩ := searching_spares nested consistent within searching search
    have loadable := loadable_of_search consistent searching search found
    have later := Nat.le_trans within spares.grows
    obtain ⟨done', ran⟩ := load_spares nested loadable later body
    exact ⟨_, spares.trans (.abandoned later loadable.unregistered ran), nofun⟩

theorem importWithin_spares (fs : FileSystem) (limit depth : Nat) : Sparing fs limit depth := by
  induction depth with
  | zero =>
    intro name s x t _ _ h
    cases h
  | succ depth ih =>
    intro name s x t consistent within h
    obtain ⟨d, u, same, level, rfl⟩ := importWithin_inv h
    cases same
    exact level_spares ih consistent within level

/-- Whatever a call comes to, every attribute of a module that was there before has the value that
it had, or its value is a submodule that the call has loaded and bound: the submodule is registered
and nothing remains to be done in it, it was imported under a name that ends with the attribute, and
the parent of this name was imported and has given the module. What was printed before the call
comes first in what is printed after it. -/
theorem attributes_spared (reached : Reached s) {x : Except RunError Module}
    (call : importModule fs name s = some (x, t) ∨ runMain fs name s = some (x, t)) :
    ∃ done, t.trace = done ++ s.trace ∧ s.output.lines <+: t.output.lines ∧
      ∀ module attr, s.Owns module → t.store.get? module attr = s.store.get? module attr ∨
        ∃ submodule, BoundOn s t done module attr submodule ∧ t.Whole submodule.name submodule := by
  -- a change of the entry point, with which a call may begin, leaves modules alone
  obtain ⟨r, attributes, trace, output, consistent, imported⟩ : ∃ r : Interpreter,
      r.store.attributes = s.store.attributes ∧ r.trace = s.trace ∧ r.output = s.output ∧
        r.Consistent ∧ importModule fs name r = some (x, t) := by
    rcases call with imported | ran
    · exact ⟨s, rfl, rfl, rfl, reached.consistent, imported⟩
    · rw [runMain_eq] at ran
      have start := reached.called (.setEntryPoint s (some name))
      exact ⟨_, attributes_setEntryPoint s (some name), rfl, rfl, start.consistent, ran⟩
  have sameSize : s.store.attributes.size = r.store.attributes.size :=
    congrArg Array.size attributes.symm
  obtain ⟨done, spares, -⟩ := importWithin_spares fs s.store.attributes.size _ consistent
    (Nat.le_of_eq sameSize) imported
  refine ⟨done, trace ▸ spares.trace, output ▸ spares.printed, fun module attr owned => ?_⟩
  rcases spares.kept module attr owned with unchanged | ⟨submodule, bound⟩
  · left
    rw [unchanged, Store.get?, Store.get?, Store.attributesOf, Store.attributesOf, attributes]
  · right
    have settles := (importWithin_continues consistent imported).settles
    -- if its name had been registered before, it would still be registered to an older module
    have absent : r.lookup submodule.name = none := by
      by_contra present
      obtain ⟨older, found⟩ := Option.ne_none_iff_exists'.mp present
      have stays := settles.registered _ _ found
      rw [bound.registered] at stays
      cases stays
      exact bound.new (consistent.sound.owned found)
    exact ⟨submodule,
      bound.widen (Nat.le_of_eq sameSize) bound.registered (List.Subset.refl _) rfl,
      (settles.settled _ _ absent bound.registered).1⟩

/-- A package `p` that has an attribute with the name of its submodule, and a module that imports
the submodule, prints a line and fails. -/
def boundFiles : FileSystem where
  entries := [("r", .directory [
    ("a.pyf", .file (Artifact.frame (Artifact.body.write
      ⟨"a", "a.py", [.importName "p.c" (some "x"), .print "a", .raise "no"]⟩))),
    ("p", .directory [
      ("__init__.pyf", .file (Artifact.frame
        (Artifact.body.write ⟨"p", "p.py", [.store "x" (.int 1), .store "c" (.int 2)]⟩))),
      ("c.pyf", .file (Artifact.frame
        (Artifact.body.write ⟨"p.c", "c.py", [.store "x" (.int 3)]⟩)))])])]
  workingDirectory := .top

/-- When `p` is there and the import of `a` fails, the submodule has taken the place of one
attribute of `p`, and the other one stays. -/
theorem attributes_spared_boundFiles :
    ∃ s e t done, importModule boundFiles "p" fresh = some (.ok ⟨0, "p"⟩, s) ∧
      importModule boundFiles "a" s = some (.error e, t) ∧ t.trace = done ++ s.trace ∧
      BoundOn s t done ⟨0, "p"⟩ "c" ⟨2, "p.c"⟩ ∧
      t.store.get? ⟨0, "p"⟩ "x" = s.store.get? ⟨0, "p"⟩ "x" := by
  have ran : ((importModule boundFiles "p" fresh).bind fun p =>
      (importModule boundFiles "a" p.2).map fun q => ((p.1.toOption, q.1.toOption),
        (p.2.lookup "p", (p.2.store.get? ⟨0, "p"⟩ "c").bind Value.module?),
        (q.2.store.get? ⟨0, "p"⟩ "c").bind Value.module?,
        (q.2.store.get? ⟨0, "p"⟩ "x").bind Value.module?)) =
      some ((some ⟨0, "p"⟩, none), (some ⟨0, "p"⟩, none), some ⟨2, "p.c"⟩, none) := by
    decide +kernel
  obtain ⟨⟨x, s⟩, first, ran⟩ := Option.bind_eq_some_iff.mp ran
  obtain ⟨⟨y, t⟩, second, ran⟩ := Option.map_eq_some_iff.mp ran
  simp only [Prod.mk.injEq] at ran
  obtain ⟨⟨given, failed⟩, ⟨registered, before⟩, after, kept⟩ := ran
  cases x with
  | error e => cases given
  | ok module =>
    cases given
    cases y with
    | ok module => cases failed
    | error e =>
      have reached := reached_fresh.called (.importModule first)
      have owned := reached.consistent.sound.owned registered
      obtain ⟨done, trace, -, spared⟩ := attributes_spared reached (.inl second)
      refine ⟨s, e, t, done, first, second, trace, ?_, ?_⟩
      · obtain same | ⟨submodule, bound, -⟩ := spared _ "c" owned
        · rw [same, before] at after
          cases after
        · rw [bound.value] at after
          cases after
          exact bound
      · obtain same | ⟨submodule, bound, -⟩ := spared _ "x" owned
        · exact same
        · rw [bound.value] at kept
          cases kept

end Interpreter

end ModuleImport
