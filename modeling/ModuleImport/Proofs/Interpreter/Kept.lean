import ModuleImport.Proofs.Interpreter.Sound

namespace ModuleImport

open Run

namespace Interpreter

variable {s t u : Interpreter}

/-- The state in which a load has registered its module and noted that the body begins. -/
def announced (plan : LoadPlan) (s : Interpreter) : Interpreter :=
  let (module, t) := s.register plan.target
  (t.record (.registered plan.target module)).record (.began module plan.code plan.artifact)

theorem loading_of_absent {plan : LoadPlan} (absent : s.lookup plan.target = none) :
    s.loading plan = (s.register plan.target).1 := by
  rw [loading, getOrCreate_of_absent absent]

theorem alike_prepared (s : Interpreter) (importer : Importer) (plan : LoadPlan) (module : Module) :
    (s.record (.began module plan.code plan.artifact)).Alike (s.prepared importer plan module) := by
  have told := (Alike.refl s).assign module loaderAttribute (.loader importer)
  unfold prepared
  dsimp only
  cases plan.searchPath? with
  | none => exact ((told.assign _ _ _).assign _ _ _).record _
  | some directory => exact (((told.assign _ _ _).assign _ _ _).assign _ _ _).record _

theorem started_of_absent (importer : Importer) {plan : LoadPlan}
    (absent : s.lookup plan.target = none) : (s.announced plan).Alike (s.started importer plan) := by
  rw [started, getOrCreate_of_absent absent, loading_of_absent absent]
  exact alike_prepared _ _ _ _

@[simp] theorem size_announced (plan : LoadPlan) (s : Interpreter) :
    (s.announced plan).store.attributes.size = s.store.attributes.size + 1 :=
  size_register _ _

theorem Sound.announced (sound : s.Sound) (plan : LoadPlan) : (s.announced plan).Sound := by
  have registered := (sound.register plan.target).record
    (e := .registered plan.target (s.register plan.target).1) (fun _ about => by cases about)
  refine registered.record (fun module about => ?_)
  cases about
  exact owns_register s plan.target

/-- A relation that single changes and loads keep. A load is only asked about where it registers its
module, for a level that searches has not found the name registered. -/
structure Kept (fs : FileSystem) (R : Interpreter → Interpreter → Prop) : Prop where
  trans : ∀ {s t u}, t.Sound → R s t → R t u → R s u
  alike : ∀ {s t}, s.Alike t → R s t
  noted : ∀ s name module, R s (s.record (.imported name module))
  looked : ∀ {s} entry, s.Sound → R s (s.importerFor fs entry).2
  assembled : ∀ {s name} portions, s.Sound → s.loaded? name = none →
    R s (s.assemble name portions).2
  completed : ∀ {s t plan}, s.Sound → s.lookup plan.target = none → t.Sound →
    (s.announced plan).store.attributes.size ≤ t.store.attributes.size →
    R (s.announced plan) t → R s (s.completed plan t)
  abandoned : ∀ {s t plan}, s.Sound → s.lookup plan.target = none → t.Sound →
    (s.announced plan).store.attributes.size ≤ t.store.attributes.size →
    R (s.announced plan) t → R s (s.abandoned plan t)

/-- What is shown of every import along with the relation that is kept. -/
structure Follows (R : Interpreter → Interpreter → Prop) (s t : Interpreter) : Prop where
  sound : t.Sound
  grows : s.store.attributes.size ≤ t.store.attributes.size
  kept : R s t

variable {fs : FileSystem} {R : Interpreter → Interpreter → Prop}

theorem Follows.trans (kept : Kept fs R) (st : Follows R s t) (tu : Follows R t u) :
    Follows R s u :=
  ⟨tu.sound, Nat.le_trans st.grows tu.grows, kept.trans st.sound st.kept tu.kept⟩

theorem Follows.alike (kept : Kept fs R) (sound : s.Sound) (alike : s.Alike t) : Follows R s t :=
  ⟨alike.sound sound, Nat.le_of_eq alike.size.symm, kept.alike alike⟩

theorem Follows.refl (kept : Kept fs R) (sound : s.Sound) : Follows R s s :=
  Follows.alike kept sound (.refl s)

theorem Follows.noted (kept : Kept fs R) (sound : s.Sound) (name : String) (module : Module) :
    Follows R s (s.record (.imported name module)) :=
  ⟨sound.record (fun _ about => by cases about), Nat.le_refl _, kept.noted s name module⟩

theorem Follows.looked (kept : Kept fs R) (sound : s.Sound) (entry : Path) :
    Follows R s (s.importerFor fs entry).2 := by
  exact ⟨sound.importerFor fs entry, by simp, kept.looked entry sound⟩

theorem Follows.searched (kept : Kept fs R) (sound : s.Sound) (name : String)
    (directories : List Path) : Follows R s (s.search fs name directories).2 :=
  search_induct name (fun _ entry st => st.trans kept (looked kept st.sound entry)) directories
    (refl kept sound)

theorem Follows.bound (kept : Kept fs R) (sound : s.Sound) (parent? : Option Module) (name : String)
    (module : Module) : Follows R s (s.bindOnParent parent? name module) := by
  unfold bindOnParent
  split
  · exact alike kept sound ((Alike.refl s).assign _ _ _)
  · exact refl kept sound

theorem Follows.assembled (kept : Kept fs R) (sound : s.Sound) {name : String}
    (absent : s.loaded? name = none) (portions : List Path) :
    Follows R s (s.assemble name portions).2 := by
  refine ⟨?_, ?_, kept.assembled portions sound absent⟩
  · have registered := sound.register (s.registeredName name)
    exact (((Alike.refl _).assign _ _ _).sound registered).record (fun _ about => by cases about)
  · change s.store.attributes.size ≤
      ((s.register (s.registeredName name)).2.assign _ _ _).store.attributes.size
    simp [((Alike.refl _).assign _ _ _).size]

section Loads

variable {plan : LoadPlan}

theorem owns_loading (absent : s.lookup plan.target = none)
    (grows : (s.announced plan).store.attributes.size ≤ t.store.attributes.size) :
    t.Owns (s.loading plan) := by
  rw [size_announced] at grows
  unfold Owns
  rw [loading_of_absent absent, id_register]
  omega

theorem Follows.completed (kept : Kept fs R) (sound : s.Sound)
    (absent : s.lookup plan.target = none) (run : Follows R (s.announced plan) t) :
    Follows R s (s.completed plan t) := by
  refine ⟨?_, ?_, kept.completed sound absent run.sound run.grows run.kept⟩
  · refine run.sound.record (fun module about => ?_)
    cases about
    exact owns_loading absent run.grows
  · have := run.grows
    rw [size_announced] at this
    change s.store.attributes.size ≤ t.store.attributes.size
    omega

theorem Follows.abandoned (kept : Kept fs R) (sound : s.Sound)
    (absent : s.lookup plan.target = none) (run : Follows R (s.announced plan) t) :
    Follows R s (s.abandoned plan t) := by
  refine ⟨?_, ?_, kept.abandoned sound absent run.sound run.grows run.kept⟩
  · have stopped : (t.record (.stopped (s.loading plan) plan.artifact)).Sound := by
      refine run.sound.record (fun module about => ?_)
      cases about
      exact owns_loading absent run.grows
    unfold Interpreter.abandoned
    dsimp only
    split
    · exact stopped.remove _
    · exact stopped
  · have := run.grows
    rw [size_announced] at this
    have same : (s.abandoned plan t).store.attributes.size = t.store.attributes.size := by
      unfold Interpreter.abandoned
      dsimp only
      split <;> rfl
    omega

end Loads

section Bodies

variable {inner : String → Run Module}

/-- What is shown of imports that are nested less deeply. -/
def Nested (R : Interpreter → Interpreter → Prop) (inner : String → Run Module) : Prop :=
  ∀ {name s x t}, s.Sound → inner name s = some (x, t) → Follows R s t

theorem outermost_follows (kept : Kept fs R) (nested : Nested R inner) (sound : s.Sound)
    {name : String} {imported : Module} {x : Except RunError Module}
    (h : Body.outermost inner name imported s = some (x, t)) : Follows R s t := by
  unfold Body.outermost at h
  split at h
  · obtain ⟨_, rfl⟩ := pure_inv h
    exact .refl kept sound
  · exact nested sound h

theorem runInstruction_follows (kept : Kept fs R) (nested : Nested R inner) (sound : s.Sound)
    {module : Module} {artifact : Path} {instruction : Instruction} {x : Except RunError Unit}
    (h : Body.runInstruction inner module artifact instruction s = some (x, t)) :
    Follows R s t := by
  cases instruction with
  | store name value =>
    cases h
    exact .alike kept sound ((Alike.refl s).assign _ _ _)
  | print text =>
    cases h
    exact .alike kept sound ((Alike.refl s).println _)
  | raise message =>
    obtain ⟨_, rfl⟩ := throw_inv h
    exact .refl kept sound
  | copy target source =>
    rw [Body.runInstruction, look_bind] at h
    cases bound : s.store.get? module source with
    | none =>
      rw [bound] at h
      obtain ⟨_, rfl⟩ := throw_inv h
      exact .refl kept sound
    | some value =>
      rw [bound] at h
      cases h
      exact .alike kept sound ((Alike.refl s).assign _ _ _)
  | importName name bind =>
    rw [Body.runInstruction] at h
    obtain ⟨e, failed, _⟩ | ⟨imported, u, got, rest⟩ := bind_inv h
    · exact nested sound failed
    have first := nested sound got
    cases bind with
    | some target =>
      cases rest
      exact first.trans kept (.alike kept first.sound ((Alike.refl _).assign _ _ _))
    | none =>
      obtain ⟨e, failed, _⟩ | ⟨package, v, found, last⟩ := bind_inv rest
      · exact first.trans kept (outermost_follows kept nested first.sound failed)
      · have second := first.trans kept (outermost_follows kept nested first.sound found)
        cases last
        exact second.trans kept (.alike kept second.sound ((Alike.refl _).assign _ _ _))

theorem runInstructions_follows (kept : Kept fs R) (nested : Nested R inner) (sound : s.Sound)
    {module : Module} {artifact : Path} {instructions : List Instruction}
    {x : Except RunError Unit}
    (h : Body.runInstructions inner module artifact instructions s = some (x, t)) :
    Follows R s t := by
  induction instructions generalizing s with
  | nil =>
    obtain ⟨_, rfl⟩ := pure_inv h
    exact .refl kept sound
  | cons instruction rest ih =>
    rw [Body.runInstructions] at h
    obtain ⟨e, failed, _⟩ | ⟨_, u, ran, rest⟩ := bind_inv h
    · exact runInstruction_follows kept nested sound failed
    · have first := runInstruction_follows kept nested sound ran
      exact first.trans kept (ih first.sound rest)

theorem body_follows (kept : Kept fs R) (nested : Nested R inner) (sound : s.Sound)
    {importer : Importer} {plan : LoadPlan} (absent : s.lookup plan.target = none)
    {module : Module} {artifact : Path} {instructions : List Instruction}
    {x : Except RunError Unit}
    (body : Body.runInstructions inner module artifact instructions (s.started importer plan) =
      some (x, t)) : Follows R (s.announced plan) t := by
  have start : Follows R (s.announced plan) (s.started importer plan) :=
    .alike kept (sound.announced plan) (started_of_absent importer absent)
  exact start.trans kept (runInstructions_follows kept nested start.sound body)

theorem importParent_follows (kept : Kept fs R) (nested : Nested R inner) (sound : s.Sound)
    {name : String} {x : Except RunError (Option Module)}
    (h : importParent inner name s = some (x, t)) : Follows R s t := by
  obtain ⟨_, _, rfl⟩ | ⟨parent, y, _, imported, _⟩ := importParent_inv h
  · exact .refl kept sound
  · exact nested sound imported

theorem searching_follows (kept : Kept fs R) (nested : Nested R inner) (sound : s.Sound)
    {name : String} {parent? : Option Module} {directories : List Path} {found : _}
    (searching : Searching inner name s parent? directories t)
    (search : t.search fs name directories = (found, u)) : Follows R s u := by
  have parent := importParent_follows kept nested sound searching.parent
  have looked := Follows.searched kept parent.sound name directories
  rw [search] at looked
  exact parent.trans kept looked

theorem loaded?_of_search {name : String} {directories : List Path} {found : _}
    (absent : t.loaded? name = none) (search : t.search fs name directories = (found, u)) :
    u.loaded? name = none := by
  have registry := search_registry fs name directories t
  have entryPoint := search_entryPoint fs name directories t
  rw [search] at registry entryPoint
  unfold loaded? lookup registeredName at absent ⊢
  rw [registry, entryPoint]
  exact absent

theorem lookup_target_of_search {name : String} {directories : List Path} {plan : LoadPlan}
    {importer : Importer} (sound : u.Sound) (absent : t.loaded? name = none)
    (search : t.search fs name directories = (.ok (.loader importer), u))
    (found : LoadPlan.find (ε := RunError) fs importer (u.store.entryPointOf importer) name =
      .ok plan) :
    u.lookup plan.target = none := by
  obtain ⟨⟨entry, cached⟩, -⟩ := search_loader search
  rw [LoadPlan.find_target found, sound.agreed cached]
  exact loaded?_of_search absent search

theorem level_follows (kept : Kept fs R) (nested : Nested R inner) (sound : s.Sound)
    {name : String} {x : Except RunError Module} (level : Level fs inner name s x t) :
    Follows R s t := by
  cases level with
  | unimportable => exact .refl kept sound
  | registered => exact .refl kept sound
  | parentFailed _ _ failed => exact importParent_follows kept nested sound failed
  | notAPackage _ _ parent _ => exact importParent_follows kept nested sound parent
  | registeredByParent _ _ parent _ _ => exact importParent_follows kept nested sound parent
  | probeFailed searching search => exact searching_follows kept nested sound searching search
  | notFound searching search => exact searching_follows kept nested sound searching search
  | planFailed searching search _ => exact searching_follows kept nested sound searching search
  | @assembled _ _ portions _ _ searching search _ =>
    have before := searching_follows kept nested sound searching search
    have absent := loaded?_of_search searching.stillAbsent search
    have after := before.trans kept (.assembled kept before.sound absent portions)
    exact after.trans kept (.bound kept after.sound _ _ _)
  | loaded searching search found body =>
    have before := searching_follows kept nested sound searching search
    have absent := lookup_target_of_search before.sound searching.stillAbsent search found
    have ran := body_follows kept nested before.sound absent body
    have after := before.trans kept (.completed kept before.sound absent ran)
    exact after.trans kept (.bound kept after.sound _ _ _)
  | bodyFailed searching search found body =>
    have before := searching_follows kept nested sound searching search
    have absent := lookup_target_of_search before.sound searching.stillAbsent search found
    have ran := body_follows kept nested before.sound absent body
    exact before.trans kept (.abandoned kept before.sound absent ran)

end Bodies

/-- Imports of any depth keep what single changes and loads keep, whether they succeed or not. -/
theorem importWithin_follows (kept : Kept fs R) (depth : Nat) : Nested R (importWithin fs depth) := by
  induction depth with
  | zero =>
    intro name s x t sound h
    cases h
  | succ depth ih =>
    intro name s x t sound h
    obtain ⟨d, u, same, level, rfl⟩ := importWithin_inv h
    cases same
    have ran := level_follows kept ih sound level
    cases x with
    | ok module => exact ran.trans kept (.noted kept ran.sound name module)
    | error e => exact ran

end Interpreter

end ModuleImport
