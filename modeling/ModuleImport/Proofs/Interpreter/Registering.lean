import ModuleImport.Proofs.Interpreter.Changes
import ModuleImport.Proofs.Interpreter.Course

namespace ModuleImport.Interpreter

/-- A change registers a module for a name that was free. -/
inductive Registers (fs : FileSystem) (roots : List String) (s : Interpreter) (name : String) :
    Module → Interpreter → Prop
  | assembled {parent? portions} : s.Wanted roots name →
      Ready fs name parent? (.portions portions) s →
      Registers fs roots s name (s.assemble name portions).1 (s.assemble name portions).2
  | started {parent? importer plan} : s.Wanted roots name →
      Loadable fs name parent? importer plan s →
      Registers fs roots s name (s.loading plan) (s.started importer plan)

/-- The single changes as far as they matter to who is registered and what has happened. -/
inductive Effect (fs : FileSystem) (roots : List String) (s : Interpreter) : Interpreter → Prop
  | quiet {t} : t.registry = s.registry →
      t.store.attributes.size = s.store.attributes.size →
      (t.trace = s.trace ∨ ∃ name module, t.trace = .imported name module :: s.trace) →
      Effect fs roots s t
  | registers {name module t} : Registers fs roots s name module t → Effect fs roots s t
  | completed {u name parent? importer plan} : Loadable fs name parent? importer plan u →
      (u.started importer plan).Continues s →
      (∀ other ∈ plan.code.imports, s.loaded? other ≠ none) →
      Effect fs roots s (u.completed plan s)
  | abandoned {u name parent? importer plan} : Loadable fs name parent? importer plan u →
      (u.started importer plan).Continues s → Effect fs roots s (u.abandoned plan s)

/-- The events that a change may add. -/
inductive Adds (fs : FileSystem) (roots : List String) (s t : Interpreter) : Event → Prop
  | imported {name module} : Adds fs roots s t (.imported name module)
  | assembled {name parent? portions} : s.Wanted roots name →
      Ready fs name parent? (.portions portions) s → t = (s.assemble name portions).2 →
      Adds fs roots s t (.assembled (s.registeredName name) (s.assemble name portions).1 portions)
  | registered {name parent? importer plan} : s.Wanted roots name →
      Loadable fs name parent? importer plan s → t = s.started importer plan →
      Adds fs roots s t (.registered plan.target (s.loading plan))
  | began {name parent? importer plan} : s.Wanted roots name →
      Loadable fs name parent? importer plan s → t = s.started importer plan →
      Adds fs roots s t (.began (s.loading plan) plan.code plan.artifact)
  | finished {u name parent? importer plan} : Loadable fs name parent? importer plan u →
      (u.started importer plan).Continues s →
      (∀ other ∈ plan.code.imports, s.loaded? other ≠ none) →
      Adds fs roots s t (.finished (u.loading plan) plan.artifact)
  | stopped {u name parent? importer plan} : Loadable fs name parent? importer plan u →
      (u.started importer plan).Continues s →
      Adds fs roots s t (.stopped (u.loading plan) plan.artifact)
  | removed {u name parent? importer plan} : Loadable fs name parent? importer plan u →
      (u.started importer plan).Continues s → Adds fs roots s t (.removed plan.target)

variable {fs : FileSystem} {roots : List String} {name key : String} {module : Module}
  {s t u : Interpreter}

@[simp] theorem size_assign (s : Interpreter) (module : Module) (attr : String) (value : Value) :
    (s.assign module attr value).store.attributes.size = s.store.attributes.size :=
  Store.size_set _ _ _ _

@[simp] theorem size_bindOnParent (s : Interpreter) (parent? : Option Module) (name : String)
    (module : Module) :
    (s.bindOnParent parent? name module).store.attributes.size = s.store.attributes.size := by
  unfold bindOnParent
  split
  · exact size_assign _ _ _ _
  · rfl

theorem Change.effect (change : Change fs roots s t) : Effect fs roots s t := by
  cases change with
  | wrote => exact .quiet rfl (by simp) (.inl rfl)
  | printed => exact .quiet rfl rfl (.inl rfl)
  | noted => exact .quiet rfl rfl (.inr ⟨_, _, rfl⟩)
  | looked entry => exact .quiet (by simp) (by simp) (.inl (by simp))
  | assembled wanted ready => exact .registers (.assembled wanted ready)
  | started wanted loadable => exact .registers (.started wanted loadable)
  | completed loadable continues imports => exact .completed loadable continues imports
  | abandoned loadable continues => exact .abandoned loadable continues
  | bound => exact .quiet (by simp) (by simp) (.inl (by simp))

theorem Change.consistent (change : Change fs roots s t) : s.Consistent := by
  cases change with
  | wrote consistent => exact consistent
  | printed _ consistent => exact consistent
  | noted consistent => exact consistent
  | looked _ consistent => exact consistent
  | assembled _ ready => exact ready.consistent
  | started _ loadable => exact loadable.consistent
  | completed _ continues => exact continues.consistent
  | abandoned _ continues => exact continues.consistent
  | bound consistent => exact consistent

theorem Change.entryPoint (change : Change fs roots s t) : t.entryPoint = s.entryPoint := by
  cases change with
  | looked entry => simp
  | started _ loadable => exact entryPoint_started _ loadable.unregistered
  | abandoned loadable =>
    rw [abandoned_of_absent loadable.unregistered]
    rfl
  | bound => simp
  | _ => rfl

theorem entryPoint_of_changes (changes : Changes fs roots s t) : t.entryPoint = s.entryPoint := by
  induction changes with
  | refl => rfl
  | tail _ change ih => exact change.entryPoint.trans ih

namespace Registers

theorem wanted (registers : Registers fs roots s name module t) : s.Wanted roots name := by
  cases registers with
  | assembled wanted _ => exact wanted
  | started wanted _ => exact wanted

theorem parentOf (registers : Registers fs roots s name module t) :
    ∃ parent?, s.ParentOf name parent? := by
  cases registers with
  | assembled _ ready => exact ⟨_, ready.parent⟩
  | started _ loadable => exact ⟨_, loadable.parent⟩

theorem absent (registers : Registers fs roots s name module t) :
    s.lookup (s.registeredName name) = none := by
  cases registers with
  | assembled _ ready => exact ready.absent
  | started _ loadable => exact loadable.absent

theorem lookup (registers : Registers fs roots s name module t) (key : String) :
    t.lookup key = if key = s.registeredName name then some module else s.lookup key := by
  cases registers with
  | assembled => exact lookup_register s _ key
  | @started _ importer plan _ loadable =>
    rw [← loadable.target]
    exact lookup_started importer loadable.unregistered key

theorem id_eq (registers : Registers fs roots s name module t) :
    module.id = s.store.attributes.size ∧
      t.store.attributes.size = s.store.attributes.size + 1 := by
  cases registers with
  | assembled =>
    refine ⟨rfl, ?_⟩
    exact (size_assign _ _ _ _).trans (size_register s _)
  | @started _ importer plan _ loadable =>
    constructor
    · rw [loading_of_absent loadable.unregistered]
      rfl
    · rw [(started_of_absent importer loadable.unregistered).size]
      exact size_announced plan s

theorem remembered (registers : Registers fs roots s name module t) :
    ∀ event ∈ s.trace, event ∈ t.trace := by
  intro event member
  cases registers with
  | assembled => exact List.mem_cons_of_mem _ member
  | started _ loadable =>
    rw [trace_started _ loadable.unregistered]
    exact List.mem_append_right _ member

end Registers

theorem Change.size_le (change : Change fs roots s t) :
    s.store.attributes.size ≤ t.store.attributes.size := by
  cases change.effect with
  | quiet _ size _ => exact Nat.le_of_eq size.symm
  | registers registers =>
    have := registers.id_eq.2
    omega
  | completed => exact Nat.le_refl _
  | abandoned loadable =>
    rw [abandoned_of_absent loadable.unregistered]
    exact Nat.le_refl _

theorem Change.remembered (change : Change fs roots s t) : ∀ event ∈ s.trace, event ∈ t.trace := by
  intro event member
  cases change.effect with
  | quiet _ _ trace =>
    obtain same | ⟨_, _, added⟩ := trace
    · rw [same]
      exact member
    · rw [added]
      exact List.mem_cons_of_mem _ member
  | registers registers => exact registers.remembered event member
  | completed => exact List.mem_cons_of_mem _ member
  | abandoned loadable =>
    rw [abandoned_of_absent loadable.unregistered]
    exact List.mem_cons_of_mem _ (List.mem_cons_of_mem _ member)

theorem remembered_of_changes (changes : Changes fs roots s t) :
    ∀ event ∈ s.trace, event ∈ t.trace := by
  intro event member
  induction changes with
  | refl => exact member
  | tail _ change ih => exact change.remembered event ih

theorem Change.registered (change : Change fs roots s t) (found : t.lookup key = some module) :
    s.lookup key = some module ∨
      ∃ name, Registers fs roots s name module t ∧ key = s.registeredName name := by
  cases change.effect with
  | quiet registry =>
    left
    unfold Interpreter.lookup at found ⊢
    rw [← registry]
    exact found
  | @registers name other _ registers =>
    have looked := registers.lookup key
    rw [found] at looked
    split at looked
    · rename_i same
      cases looked
      exact .inr ⟨name, registers, same⟩
    · exact .inl looked.symm
  | completed => exact .inl found
  | abandoned loadable =>
    rw [lookup_abandoned loadable.unregistered] at found
    split at found
    · cases found
    · exact .inl found

theorem Change.adds (change : Change fs roots s t) {event : Event} (member : event ∈ t.trace) :
    event ∈ s.trace ∨ Adds fs roots s t event := by
  cases change with
  | wrote => exact .inl member
  | printed => exact .inl member
  | noted =>
    rcases List.mem_cons.mp member with rfl | earlier
    · exact .inr .imported
    · exact .inl earlier
  | looked entry =>
    rw [trace_importerFor] at member
    exact .inl member
  | assembled wanted ready =>
    rcases List.mem_cons.mp member with rfl | earlier
    · exact .inr (.assembled wanted ready rfl)
    · exact .inl earlier
  | started wanted loadable =>
    rw [trace_started _ loadable.unregistered] at member
    rcases List.mem_cons.mp member with rfl | later
    · exact .inr (.began wanted loadable rfl)
    · rcases List.mem_cons.mp later with rfl | earlier
      · exact .inr (.registered wanted loadable rfl)
      · exact .inl earlier
  | completed loadable continues imports =>
    rcases List.mem_cons.mp member with rfl | earlier
    · exact .inr (.finished loadable continues imports)
    · exact .inl earlier
  | abandoned loadable continues =>
    rw [abandoned_of_absent loadable.unregistered] at member
    rcases List.mem_cons.mp member with rfl | later
    · exact .inr (.removed loadable continues)
    · rcases List.mem_cons.mp later with rfl | earlier
      · exact .inr (.stopped loadable continues)
      · exact .inl earlier
  | bound =>
    exact .inl (by simpa using member)

/-- An event that registers a name was there before the change, or the change registers the name. -/
theorem Change.told (change : Change fs roots s t) {event : Event} (member : event ∈ t.trace)
    (about : event.registeredName? = some key) :
    event ∈ s.trace ∨ ∃ name, key = s.registeredName name := by
  obtain earlier | added := change.adds member
  · exact .inl earlier
  · right
    cases added with
    | @assembled name =>
      cases about
      exact ⟨name, rfl⟩
    | @registered name _ _ _ _ loadable =>
      cases about
      exact ⟨name, loadable.target⟩
    | _ => cases about

/-- Somewhere on the way a module that is registered at the end only has been registered. -/
theorem registered_of_changes (changes : Changes fs roots s t) (absent : s.lookup key = none)
    (found : t.lookup key = some module) :
    ∃ u v name, Changes fs roots s u ∧ Registers fs roots u name module v ∧
      key = s.registeredName name ∧ Changes fs roots v t := by
  induction changes with
  | refl =>
    rw [absent] at found
    cases found
  | @tail u t before change ih =>
    obtain earlier | ⟨name, registers, same⟩ := change.registered found
    · obtain ⟨v, w, name, first, registers, same, rest⟩ := ih earlier
      exact ⟨v, w, name, first, registers, same, rest.tail change⟩
    · refine ⟨u, t, name, before, registers, ?_, .refl⟩
      rw [same]
      unfold registeredName
      rw [entryPoint_of_changes before]

theorem began_mem_bodyEvents {other : Module} {code : Code} {artifact : Path}
    (began : .began other code artifact ∈ s.trace) (same : other.id = module.id) :
    .began other code artifact ∈ s.bodyEvents module := by
  refine List.mem_filter.mpr ⟨began, ?_⟩
  simp [Event.body?, same]

theorem Whole.once {code : Code} {artifact : Path} (whole : s.Whole key module)
    (began : .began module code artifact ∈ s.trace) :
    s.bodyEvents module = [.finished module artifact, .began module code artifact] := by
  have told := began_mem_bodyEvents began rfl
  cases whole with
  | namespacePackage _ silent =>
    rw [silent] at told
    cases told
  | executed once =>
    rw [once] at told ⊢
    rcases List.mem_cons.mp told with absurd | same
    · cases absurd
    · cases List.mem_singleton.mp same
      rfl

theorem Loadable.bodyEvents_ne_nil {parent? : Option Module} {importer : Importer} {plan : LoadPlan}
    (loadable : Loadable fs name parent? importer plan u)
    (continues : (u.started importer plan).Continues s) (same : (u.loading plan).id = module.id) :
    s.bodyEvents module ≠ [] := by
  intro silent
  have told := began_mem_bodyEvents (loadable.running.later continues).began same
  rw [silent] at told
  cases told

/-- No body begins in a module that was made before, so one in which no body was run stays so. -/
theorem Change.bodyEvents_eq_nil (change : Change fs roots s t) (owned : s.Owns module)
    (silent : s.bodyEvents module = []) : t.bodyEvents module = [] := by
  apply List.filter_eq_nil_iff.mpr
  intro event member about
  obtain earlier | added := change.adds member
  · exact List.filter_eq_nil_iff.mp silent event earlier about
  · obtain ⟨told, body, same⟩ := Option.any_eq_true _ _ |>.mp about
    simp only [decide_eq_true_eq] at same
    cases added with
    | began wanted loadable =>
      cases body
      have id := (Registers.started wanted loadable).id_eq.1
      unfold Owns at owned
      omega
    | finished loadable continues =>
      cases body
      exact loadable.bodyEvents_ne_nil continues same silent
    | stopped loadable continues =>
      cases body
      exact loadable.bodyEvents_ne_nil continues same silent
    | _ => cases body

theorem bodyEvents_assembled {parent? : Option Module} {portions : List Path}
    (ready : Ready fs name parent? (.portions portions) s) :
    (s.assemble name portions).2.Owns (s.assemble name portions).1 ∧
      (s.assemble name portions).2.bodyEvents (s.assemble name portions).1 = [] := by
  have registers : Registers fs [name] s name (s.assemble name portions).1
      (s.assemble name portions).2 := .assembled (.requested List.mem_cons_self) ready
  obtain ⟨id, size⟩ := registers.id_eq
  have new : ¬s.Owns (s.assemble name portions).1 := by
    unfold Owns
    omega
  constructor
  · unfold Owns
    omega
  · have silent := bodyEvents_eq_nil ready.consistent.sound new
    exact (bodyEvents_record_other (fun _ about => by cases about)).trans silent

theorem bodyEvents_eq_nil_of_changes (changes : Changes fs roots s t) (owned : s.Owns module)
    (silent : s.bodyEvents module = []) : t.Owns module ∧ t.bodyEvents module = [] := by
  induction changes with
  | refl => exact ⟨owned, silent⟩
  | tail _ change ih =>
    exact ⟨Nat.lt_of_lt_of_le ih.1 change.size_le, change.bodyEvents_eq_nil ih.1 ih.2⟩

end ModuleImport.Interpreter
