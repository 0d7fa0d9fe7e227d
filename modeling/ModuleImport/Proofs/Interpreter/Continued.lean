import ModuleImport.Proofs.Interpreter.Whole

namespace ModuleImport.Interpreter

variable {s t u : Interpreter} {fs : FileSystem} {R R' : Interpreter → Interpreter → Prop}

theorem Kept.and (kept : Kept fs R) (kept' : Kept fs R') :
    Kept fs fun s t => R s t ∧ R' s t where
  trans sound st tu := ⟨kept.trans sound st.1 tu.1, kept'.trans sound st.2 tu.2⟩
  alike h := ⟨kept.alike h, kept'.alike h⟩
  noted s name module := ⟨kept.noted s name module, kept'.noted s name module⟩
  looked entry sound := ⟨kept.looked entry sound, kept'.looked entry sound⟩
  assembled portions sound absent :=
    ⟨kept.assembled portions sound absent, kept'.assembled portions sound absent⟩
  completed sound absent after grows body :=
    ⟨kept.completed sound absent after grows body.1, kept'.completed sound absent after grows body.2⟩
  abandoned sound absent after grows body :=
    ⟨kept.abandoned sound absent after grows body.1, kept'.abandoned sound absent after grows body.2⟩

/-- Every module bears the name that it is registered under, and no object is registered under two
names. -/
structure Named (s : Interpreter) : Prop where
  name : ∀ {key module}, s.lookup key = some module → module.name = key
  apart : ∀ {key key' module module'}, s.lookup key = some module →
    s.lookup key' = some module' → module.id = module'.id → key = key'

theorem named_new (config : Config) : (new config).Named where
  name h := by cases h
  apart h := by cases h

theorem Named.of_registry (named : s.Named) (same : t.registry = s.registry) : t.Named where
  name h := by
    unfold lookup at h
    rw [same] at h
    exact named.name h
  apart h h' := by
    unfold lookup at h h'
    rw [same] at h h'
    exact named.apart h h'

theorem Named.register (named : s.Named)
    (owned : ∀ {key module}, s.lookup key = some module → s.Owns module) (name : String) :
    (s.register name).2.Named where
  name {key module} h := by
    rw [lookup_register] at h
    split at h
    · rename_i same
      cases h
      exact same.symm
    · exact named.name h
  apart {key key' module module'} h h' same := by
    have older {key module} (found : s.lookup key = some module) :
        module.id < (s.register name).1.id := owned found
    rw [lookup_register] at h h'
    split at h <;> split at h'
    · rename_i first second
      exact first.trans second.symm
    · cases h
      have := older h'
      omega
    · cases h'
      have := older h
      omega
    · exact named.apart h h' same

theorem Named.remove (named : s.Named) (name : String) : (s.remove name).Named := by
  have earlier {key module} (h : (s.remove name).lookup key = some module) :
      s.lookup key = some module := by
    have erased := Table.get?_erase s.registry name key
    change (s.registry.erase name).get? key = some module at h
    rw [erased] at h
    split at h
    · cases h
    · exact h
  exact ⟨fun h => named.name (earlier h), fun h h' => named.apart (earlier h) (earlier h')⟩

theorem abandoned_of_absent {plan : LoadPlan} (absent : s.lookup plan.target = none) :
    s.abandoned plan t =
      (t.record (.stopped (s.loading plan) plan.artifact)).remove plan.target := by
  rw [abandoned, getOrCreate_of_absent absent]
  rfl

@[simp] theorem lookup_abandoned {plan : LoadPlan} (absent : s.lookup plan.target = none) (key : String) :
    (s.abandoned plan t).lookup key = if key = plan.target then none else t.lookup key := by
  rw [abandoned_of_absent absent]
  exact Table.get?_erase t.registry plan.target key

theorem kept_named (fs : FileSystem) : Kept fs fun s t => s.Named → t.Named where
  trans _ st tu named := tu (st named)
  alike h named := named.of_registry h.registry
  noted _ _ _ named := named.of_registry rfl
  looked entry _ named := named.of_registry (by simp)
  assembled {s name} _ sound _ named :=
    (named.register sound.owned (s.registeredName name)).of_registry rfl
  completed {s t plan} sound _ _ _ body named :=
    (body ((named.register sound.owned plan.target).of_registry rfl)).of_registry rfl
  abandoned {s t plan} sound absent _ _ body named := by
    rw [abandoned_of_absent absent]
    have ended := body ((named.register sound.owned plan.target).of_registry rfl)
    exact Named.remove (ended.of_registry (t := t.record (.stopped (s.loading plan) plan.artifact))
      rfl) _

theorem kept_entryPoint (fs : FileSystem) : Kept fs fun s t => t.entryPoint = s.entryPoint where
  trans _ st tu := tu.trans st
  alike h := h.entryPoint
  noted _ _ _ := rfl
  looked entry _ := by simp
  assembled _ _ _ := rfl
  completed _ _ _ _ body := body
  abandoned {s t plan} _ absent _ _ body := by
    rw [abandoned_of_absent absent]
    exact body

/-- What can be relied on in every state, whether or not bodies run in it. -/
structure Consistent (s : Interpreter) : Prop where
  sound : s.Sound
  named : s.Named

/-- What can be relied on along every import. -/
structure Continues (s t : Interpreter) : Prop where
  settles : s.Settles t
  entryPoint : t.entryPoint = s.entryPoint
  consistent : t.Consistent

/-- The relation by which imports keep states consistent. -/
abbrev Keeps (s t : Interpreter) : Prop :=
  s.Settles t ∧ t.entryPoint = s.entryPoint ∧ (s.Named → t.Named)

theorem kept_keeps (fs : FileSystem) : Kept fs Keeps :=
  (kept_settles fs).and ((kept_entryPoint fs).and (kept_named fs))

theorem Follows.continues (follows : Follows Keeps s t) (consistent : s.Consistent) :
    s.Continues t :=
  ⟨follows.kept.1, follows.kept.2.1, follows.sound, follows.kept.2.2 consistent.named⟩

/-- Whatever it comes to, an import goes on from a consistent state to a consistent one. -/
theorem importWithin_continues {depth : Nat} {name : String} {x : Except RunError Module}
    (consistent : s.Consistent) (h : importWithin fs depth name s = some (x, t)) :
    s.Continues t :=
  (importWithin_follows (kept_keeps fs) depth consistent.sound h).continues consistent

theorem Continues.refl (consistent : s.Consistent) : s.Continues s :=
  ⟨.of_same rfl rfl rfl, rfl, consistent⟩

theorem Continues.trans (st : s.Continues t) (tu : t.Continues u) : s.Continues u :=
  ⟨st.settles.trans st.consistent.sound tu.settles, tu.entryPoint.trans st.entryPoint,
    tu.consistent⟩

theorem Continues.registeredName (st : s.Continues t) (name : String) :
    t.registeredName name = s.registeredName name := by
  unfold Interpreter.registeredName
  rw [st.entryPoint]

theorem Continues.loaded? (st : s.Continues t) {name : String} {module : Module}
    (h : s.loaded? name = some module) : t.loaded? name = some module := by
  unfold Interpreter.loaded? at h ⊢
  rw [st.registeredName]
  exact st.settles.registered _ _ h

section Loads

variable {plan : LoadPlan}

theorem consistent_getOrCreate (consistent : s.Consistent) (name : String) :
    (s.getOrCreate name).2.Consistent ∧
      (s.getOrCreate name).2.Owns (s.getOrCreate name).1.module := by
  cases found : s.lookup name with
  | some module =>
    have same : s.getOrCreate name = (⟨module, false⟩, s) := by rw [getOrCreate, found]
    rw [same]
    exact ⟨consistent, consistent.sound.owned found⟩
  | none =>
    rw [getOrCreate_of_absent found]
    refine ⟨⟨?_, ?_⟩, ?_⟩
    · exact (consistent.sound.register name).record (fun _ about => by cases about)
    · exact (consistent.named.register consistent.sound.owned name).of_registry rfl
    · exact owns_register s name

theorem Alike.owns (alike : s.Alike t) {module : Module} (owned : s.Owns module) :
    t.Owns module := by
  unfold Owns
  rw [alike.size]
  exact owned

theorem alike_entered (s : Interpreter) (module : Module) (code : Code) (artifact : Path) :
    (s.record (.began module code artifact)).Alike (s.entered module code artifact) :=
  (((Alike.refl s).assign _ _ _).assign _ _ _).record _

theorem consistent_entered (consistent : s.Consistent) {module : Module} (owned : s.Owns module)
    (code : Code) (artifact : Path) : (s.entered module code artifact).Consistent where
  sound := by
    refine (alike_entered s module code artifact).sound (consistent.sound.record fun _ about => ?_)
    cases about
    exact owned
  named := consistent.named.of_registry rfl

theorem consistent_prepared (importer : Importer) (plan : LoadPlan) (consistent : s.Consistent)
    {module : Module} (owned : s.Owns module) : (s.prepared importer plan module).Consistent where
  sound := by
    refine (alike_prepared s importer plan module).sound (consistent.sound.record fun _ about => ?_)
    cases about
    exact owned
  named := consistent.named.of_registry (alike_prepared s importer plan module).registry

theorem consistent_started (importer : Importer) (plan : LoadPlan) (consistent : s.Consistent) :
    (s.started importer plan).Consistent := by
  obtain ⟨after, owned⟩ := consistent_getOrCreate consistent plan.target
  exact consistent_prepared importer plan after owned

@[simp] theorem lookup_started (importer : Importer) (absent : s.lookup plan.target = none) (key : String) :
    (s.started importer plan).lookup key =
      if key = plan.target then some (s.loading plan) else s.lookup key := by
  rw [loading_of_absent absent, ← lookup_announced]
  unfold lookup
  rw [(started_of_absent importer absent).registry]

end Loads

section Levels

variable {depth : Nat} {name : String} {parent? : Option Module}

theorem importParent_continues (consistent : s.Consistent) {x : Except RunError (Option Module)}
    (h : importParent (importWithin fs depth) name s = some (x, t)) : s.Continues t :=
  (importParent_follows (kept_keeps fs) (importWithin_follows (kept_keeps fs) depth)
    consistent.sound h).continues consistent

theorem search_continues (consistent : s.Consistent) {directories : List Path} {found : _}
    (h : s.search fs name directories = (found, t)) : s.Continues t := by
  have follows := Follows.searched (kept_keeps fs) consistent.sound name directories
  rw [h] at follows
  exact follows.continues consistent

theorem body_continues (consistent : s.Consistent) {module : Module} {artifact : Path}
    {instructions : List Instruction} {x : Except RunError Unit}
    (h : Body.runInstructions (importWithin fs depth) module artifact instructions s =
      some (x, t)) : s.Continues t :=
  (runInstructions_follows (kept_keeps fs) (importWithin_follows (kept_keeps fs) depth)
    consistent.sound h).continues consistent

theorem instruction_continues (consistent : s.Consistent) {module : Module} {artifact : Path}
    {instruction : Instruction} {x : Except RunError Unit}
    (h : Body.runInstruction (importWithin fs depth) module artifact instruction s =
      some (x, t)) : s.Continues t :=
  (runInstruction_follows (kept_keeps fs) (importWithin_follows (kept_keeps fs) depth)
    consistent.sound h).continues consistent

@[simp] theorem registry_bindOnParent (s : Interpreter) (parent? : Option Module) (name : String)
    (module : Module) : (s.bindOnParent parent? name module).registry = s.registry := by
  unfold bindOnParent
  split <;> rfl

@[simp] theorem trace_bindOnParent (s : Interpreter) (parent? : Option Module) (name : String)
    (module : Module) : (s.bindOnParent parent? name module).trace = s.trace := by
  unfold bindOnParent
  split <;> rfl

@[simp] theorem entryPoint_bindOnParent (s : Interpreter) (parent? : Option Module) (name : String)
    (module : Module) : (s.bindOnParent parent? name module).entryPoint = s.entryPoint := by
  unfold bindOnParent
  split <;> rfl

@[simp] theorem importers_bindOnParent (s : Interpreter) (parent? : Option Module) (name : String)
    (module : Module) : (s.bindOnParent parent? name module).importers = s.importers := by
  unfold bindOnParent
  split <;> rfl

@[simp] theorem lookup_bindOnParent (s : Interpreter) (parent? : Option Module) (name key : String)
    (module : Module) : (s.bindOnParent parent? name module).lookup key = s.lookup key := by
  unfold lookup
  rw [registry_bindOnParent]

theorem loaded?_bindOnParent (s : Interpreter) (parent? : Option Module) (name key : String)
    (module : Module) : (s.bindOnParent parent? name module).loaded? key = s.loaded? key := by
  simp [loaded?, registeredName]

/-- The target of a plan that a search has led to is the name that the entry point asks for. -/
theorem target_of_search {directories : List Path} {importer : Importer} {plan : LoadPlan}
    (consistent : t.Consistent) (search : s.search fs name directories = (.ok (.loader importer), t))
    (found : LoadPlan.find (ε := RunError) fs importer (t.store.entryPointOf importer) name =
      .ok plan) : plan.target = t.registeredName name := by
  obtain ⟨⟨entry, cached⟩, -⟩ := search_loader search
  rw [LoadPlan.find_target found, consistent.sound.agreed cached]
  rfl

theorem isImportable_of_importWithin {module : Module}
    (h : importWithin fs depth name s = some (.ok module, t)) : Name.isImportable name = true := by
  obtain ⟨d, u, -, level, -⟩ := importWithin_inv h
  cases level with
  | registered importable => exact importable
  | registeredByParent importable => exact importable
  | assembled searching => exact searching.importable
  | loaded searching => exact searching.importable

theorem level_continues {x : Except RunError Module} (consistent : s.Consistent)
    (level : Level fs (importWithin fs depth) name s x t) : s.Continues t :=
  (level_follows (kept_keeps fs) (importWithin_follows (kept_keeps fs) depth)
    consistent.sound level).continues consistent

theorem level_loaded {x : Except RunError Module} (consistent : s.Consistent)
    (level : Level fs (importWithin fs depth) name s x t) {module : Module} (h : x = .ok module) :
    t.loaded? name = some module := by
  cases level with
  | registered _ loaded =>
    cases h
    exact loaded
  | registeredByParent _ _ _ _ loaded =>
    cases h
    exact loaded
  | @assembled _ _ portions t u searching search _ =>
    cases h
    rw [loaded?_bindOnParent]
    exact (lookup_register u _ _).trans (if_pos rfl)
  | @loaded _ _ importer plan t u v searching search found body =>
    cases h
    have before := importParent_continues consistent searching.parent
    have after := before.trans (search_continues before.consistent search)
    have absent := lookup_target_of_search after.consistent.sound searching.stillAbsent search found
    have target := target_of_search after.consistent search found
    have started := consistent_started importer plan after.consistent
    have ran := body_continues started body
    rw [loaded?_bindOnParent]
    have registered := ran.settles.registered plan.target (u.loading plan)
      ((lookup_started importer absent _).trans (if_pos rfl))
    have same : v.registeredName name = plan.target := by
      rw [ran.registeredName, target]
      unfold registeredName
      rw [(started_of_absent importer absent).entryPoint]
      rfl
    unfold Interpreter.loaded?
    exact same ▸ registered
  | _ => cases h

theorem loaded?_of_importWithin {x : Except RunError Module} (consistent : s.Consistent)
    (h : importWithin fs depth name s = some (x, t)) {module : Module} (ok : x = .ok module) :
    t.loaded? name = some module := by
  obtain ⟨d, u, rfl, level, rfl⟩ := importWithin_inv h
  subst ok
  exact level_loaded consistent level rfl

end Levels

theorem Reached.consistent (reached : Reached s) : s.Consistent := by
  induction reached with
  | new config => exact ⟨sound_new config, named_new config⟩
  | called _ called ih =>
    have follows := called.follows kept_named (fun _ _ named => named.of_registry rfl) ih.sound
    exact ⟨follows.sound, follows.kept ih.named⟩

end ModuleImport.Interpreter
