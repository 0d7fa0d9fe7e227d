import ModuleImport.Proofs.Interpreter.Reached

namespace ModuleImport.Interpreter

/-- The events that tell of bodies run in a module object, the latest first. -/
def bodyEvents (s : Interpreter) (module : Module) : List Event :=
  s.trace.filter fun event => event.body?.any (·.id = module.id)

/-- Nothing remains to be done in a module that is registered under a name. -/
inductive Whole (s : Interpreter) (name : String) (module : Module) : Prop
  /-- A namespace package was made of portions, and no body was run in it. -/
  | namespacePackage {portions} : .assembled name module portions ∈ s.trace →
      s.bodyEvents module = [] → Whole s name module
  /-- One body was run in the module, and it ran to its end. -/
  | executed {code artifact} :
      s.bodyEvents module = [.finished module artifact, .began module code artifact] →
      Whole s name module

variable {s t u : Interpreter} {key name : String} {module : Module}

theorem Whole.later (whole : s.Whole name module) (remembered : ∀ event ∈ s.trace, event ∈ t.trace)
    (same : t.bodyEvents module = s.bodyEvents module) : t.Whole name module := by
  cases whole with
  | namespacePackage made none => exact .namespacePackage (remembered _ made) (same.trans none)
  | executed once => exact .executed (same.trans once)

theorem bodyEvents_record_self {e : Event} {other : Module} (about : e.body? = some other)
    (same : other.id = module.id) :
    (s.record e).bodyEvents module = e :: s.bodyEvents module := by
  simp [bodyEvents, record, about, same]

theorem bodyEvents_record_other {e : Event}
    (different : ∀ other, e.body? = some other → other.id ≠ module.id) :
    (s.record e).bodyEvents module = s.bodyEvents module := by
  have silent : e.body?.any (fun other => other.id = module.id) = false := by
    cases about : e.body? with
    | none => rfl
    | some other => simpa using different other about
  simp [bodyEvents, record, silent]

theorem bodyEvents_eq_nil (sound : s.Sound) (foreign : ¬s.Owns module) :
    s.bodyEvents module = [] := by
  apply List.filter_eq_nil_iff.mpr
  intro event member about
  obtain ⟨other, told, same⟩ := Option.any_eq_true _ _ |>.mp about
  have owned := sound.traced member told
  unfold Owns at owned foreign
  simp only [decide_eq_true_eq] at same
  omega

/-- What happens to the modules of a state on the way to a later one. -/
structure Settles (s t : Interpreter) : Prop where
  grows : s.store.attributes.size ≤ t.store.attributes.size
  registered : ∀ key module, s.lookup key = some module → t.lookup key = some module
  remembered : ∀ event ∈ s.trace, event ∈ t.trace
  undisturbed : ∀ module, s.Owns module → t.bodyEvents module = s.bodyEvents module
  settled : ∀ key module, s.lookup key = none → t.lookup key = some module →
    t.Whole key module ∧ ¬s.Owns module

theorem Settles.of_same (size : t.store.attributes.size = s.store.attributes.size)
    (registry : t.registry = s.registry) (trace : t.trace = s.trace) : s.Settles t where
  grows := Nat.le_of_eq size.symm
  registered key module h := by
    unfold lookup at h ⊢
    rw [registry]
    exact h
  remembered event h := by
    rw [trace]
    exact h
  undisturbed module _ := by
    unfold bodyEvents
    rw [trace]
  settled key module absent h := by
    unfold lookup at absent h
    rw [registry, absent] at h
    cases h

theorem Settles.trans (sound : t.Sound) (st : s.Settles t) (tu : t.Settles u) : s.Settles u where
  grows := Nat.le_trans st.grows tu.grows
  registered key module h := tu.registered key module (st.registered key module h)
  remembered event h := tu.remembered event (st.remembered event h)
  undisturbed module owned := by
    have still : t.Owns module := Nat.lt_of_lt_of_le owned st.grows
    rw [tu.undisturbed module still, st.undisturbed module owned]
  settled key module absent h := by
    cases between : t.lookup key with
    | none =>
      obtain ⟨whole, new⟩ := tu.settled key module between h
      exact ⟨whole, fun owned => new (Nat.lt_of_lt_of_le owned st.grows)⟩
    | some earlier =>
      have same := tu.registered key earlier between
      rw [h] at same
      cases same
      obtain ⟨whole, new⟩ := st.settled key module absent between
      exact ⟨whole.later tu.remembered (tu.undisturbed module (sound.owned between)), new⟩

theorem settles_assembled (sound : s.Sound) (absent : s.loaded? name = none)
    (portions : List Path) : s.Settles (s.assemble name portions).2 := by
  have names (key : String) : (s.assemble name portions).2.lookup key =
      if key = s.registeredName name then some (s.register (s.registeredName name)).1
      else s.lookup key := lookup_register s _ key
  have events (module : Module) :
      (s.assemble name portions).2.bodyEvents module = s.bodyEvents module :=
    bodyEvents_record_other (fun _ about => by cases about)
  refine ⟨?_, ?_, ?_, fun module _ => events module, ?_⟩
  · change s.store.attributes.size ≤
      ((s.register (s.registeredName name)).2.assign _ _ _).store.attributes.size
    rw [((Alike.refl _).assign _ _ _).size, size_register]
    omega
  · intro key module h
    have ne : key ≠ s.registeredName name := by
      intro same
      change s.lookup (s.registeredName name) = none at absent
      rw [same, absent] at h
      cases h
    rw [names, if_neg ne]
    exact h
  · intro event member
    exact List.mem_cons_of_mem _ member
  · intro key module before h
    rw [names] at h
    split at h
    · rename_i same
      cases h
      subst same
      have new : ¬s.Owns (s.register (s.registeredName name)).1 := not_owns_register _ _
      refine ⟨.namespacePackage List.mem_cons_self ?_, new⟩
      rw [events]
      exact bodyEvents_eq_nil sound new
    · rw [before] at h
      cases h

section Loads

variable {plan : LoadPlan}

@[simp] theorem lookup_announced (plan : LoadPlan) (s : Interpreter) (key : String) :
    (s.announced plan).lookup key =
      if key = plan.target then some (s.register plan.target).1 else s.lookup key :=
  lookup_register s _ key

theorem not_owns_loading (absent : s.lookup plan.target = none) : ¬s.Owns (s.loading plan) := by
  rw [loading_of_absent absent]
  exact not_owns_register s plan.target

theorem bodyEvents_announced_self (sound : s.Sound) (absent : s.lookup plan.target = none) :
    (s.announced plan).bodyEvents (s.loading plan) =
      [.began (s.loading plan) plan.code plan.artifact] := by
  have new := not_owns_loading absent
  rw [loading_of_absent absent] at new ⊢
  have silent : (s.register plan.target).2.bodyEvents (s.register plan.target).1 = [] :=
    bodyEvents_eq_nil (s := s) sound new
  have registered : ((s.register plan.target).2.record
      (.registered plan.target (s.register plan.target).1)).bodyEvents
      (s.register plan.target).1 = [] :=
    (bodyEvents_record_other (fun _ about => by cases about)).trans silent
  have began := bodyEvents_record_self (s := (s.register plan.target).2.record
    (.registered plan.target (s.register plan.target).1))
    (e := .began (s.register plan.target).1 plan.code plan.artifact) rfl
    (Eq.refl (s.register plan.target).1.id)
  rw [registered] at began
  exact began

theorem bodyEvents_announced_other (owned : s.Owns module) :
    (s.announced plan).bodyEvents module = s.bodyEvents module := by
  have began : (s.announced plan).bodyEvents module = ((s.register plan.target).2.record
      (.registered plan.target (s.register plan.target).1)).bodyEvents module := by
    apply bodyEvents_record_other
    intro other about
    cases about
    exact Ne.symm (Nat.ne_of_lt owned)
  exact began.trans (bodyEvents_record_other (fun _ about => by cases about))

/-- A load whose body has run leaves all but its own module as the body left them, so only that
module remains to be looked at. -/
theorem settles_load (absent : s.lookup plan.target = none) (body : (s.announced plan).Settles t)
    (size : u.store.attributes.size = t.store.attributes.size)
    (remembered : ∀ event ∈ t.trace, event ∈ u.trace)
    (others : ∀ module, module.id ≠ (s.loading plan).id → u.bodyEvents module = t.bodyEvents module)
    (names : ∀ key, key ≠ plan.target → u.lookup key = t.lookup key)
    (own : ∀ module, u.lookup plan.target = some module →
      u.Whole plan.target module ∧ ¬s.Owns module) : s.Settles u := by
  have grows := body.grows
  rw [size_announced] at grows
  have id_loading : (s.loading plan).id = s.store.attributes.size := by
    simp [loading_of_absent absent]
  refine ⟨by omega, ?_, ?_, ?_, ?_⟩
  · intro key module h
    have ne : key ≠ plan.target := by
      intro same
      rw [same, absent] at h
      cases h
    rw [names key ne]
    apply body.registered
    simpa [ne] using h
  · intro event member
    exact remembered event (body.remembered event
      (List.mem_cons_of_mem _ (List.mem_cons_of_mem _ member)))
  · intro module owned
    have older : module.id ≠ (s.loading plan).id := by
      unfold Owns at owned
      omega
    have still : (s.announced plan).Owns module := by
      unfold Owns at owned ⊢
      rw [size_announced]
      omega
    rw [others module older, body.undisturbed module still, bodyEvents_announced_other owned]
  · intro key module before h
    by_cases same : key = plan.target
    · subst same
      exact own module h
    · rw [names key same] at h
      have absent' : (s.announced plan).lookup key = none := by
        simpa [same] using before
      obtain ⟨whole, new⟩ := body.settled key module absent' h
      unfold Owns at new ⊢
      rw [size_announced] at new
      exact ⟨whole.later remembered (others module (by omega)), by omega⟩

theorem settles_completed (sound : s.Sound) (absent : s.lookup plan.target = none)
    (body : (s.announced plan).Settles t) : s.Settles (s.completed plan t) := by
  refine settles_load absent body rfl (fun event => List.mem_cons_of_mem _) ?_ (fun _ _ => rfl) ?_
  · intro module ne
    apply bodyEvents_record_other
    intro other about
    cases about
    exact Ne.symm ne
  · intro module h
    have announced : (s.announced plan).lookup plan.target = some (s.loading plan) := by
      simp [loading_of_absent absent]
    have same := body.registered _ _ announced
    change t.lookup plan.target = some module at h
    rw [h] at same
    cases same
    have owned : (s.announced plan).Owns (s.loading plan) := owns_loading absent (Nat.le_refl _)
    have finished := bodyEvents_record_self (s := t)
      (e := .finished (s.loading plan) plan.artifact) rfl rfl
    rw [body.undisturbed _ owned, bodyEvents_announced_self sound absent] at finished
    exact ⟨.executed finished, not_owns_loading absent⟩

theorem settles_abandoned (absent : s.lookup plan.target = none)
    (body : (s.announced plan).Settles t) : s.Settles (s.abandoned plan t) := by
  have removed : s.abandoned plan t =
      (t.record (.stopped (s.loading plan) plan.artifact)).remove plan.target := by
    rw [abandoned, getOrCreate_of_absent absent]
    rfl
  rw [removed]
  refine settles_load absent body rfl ?_ ?_ ?_ ?_
  · intro event member
    exact List.mem_cons_of_mem _ (List.mem_cons_of_mem _ member)
  · intro module ne
    refine Eq.trans (bodyEvents_record_other (e := .removed plan.target)
      (s := t.record (.stopped (s.loading plan) plan.artifact)) (fun _ about => by cases about)) ?_
    refine bodyEvents_record_other (fun other about => ?_)
    cases about
    exact Ne.symm ne
  · intro key ne
    exact (Table.get?_erase t.registry plan.target key).trans (if_neg ne)
  · intro module h
    have gone := (Table.get?_erase t.registry plan.target plan.target).trans (if_pos rfl)
    change (t.registry.erase plan.target).get? plan.target = some module at h
    rw [gone] at h
    cases h

end Loads

theorem settles_noted (s : Interpreter) (name : String) (module : Module) :
    s.Settles (s.record (.imported name module)) where
  grows := Nat.le_refl _
  registered _ _ h := h
  remembered _ := List.mem_cons_of_mem _
  undisturbed _ _ := bodyEvents_record_other (fun _ about => by cases about)
  settled key other absent h := by
    change s.lookup key = some other at h
    rw [absent] at h
    cases h

theorem kept_settles (fs : FileSystem) : Kept fs Settles where
  trans := Settles.trans
  alike h := .of_same h.size h.registry h.trace
  noted := settles_noted
  looked {s} entry _ := .of_same (by simp) (by simp) (by simp)
  assembled portions sound absent := settles_assembled sound absent portions
  completed sound absent _ _ body := settles_completed sound absent body
  abandoned _ absent _ _ body := settles_abandoned absent body

theorem Called.settles (sound : s.Sound) (called : Called s t) : Follows Settles s t := by
  refine called.follows kept_settles ?_ sound
  intro s entryPoint
  exact .of_same (congrArg Array.size (attributes_setEntryPoint s entryPoint)) rfl rfl

/-- In a state between calls every registered module is whole. -/
theorem Reached.whole (reached : Reached s) :
    s.Sound ∧ ∀ key module, s.lookup key = some module → s.Whole key module := by
  induction reached with
  | new config =>
    refine ⟨sound_new config, ?_⟩
    intro key module h
    cases h
  | @called s t _ called ih =>
    obtain ⟨sound, whole⟩ := ih
    have after := called.settles sound
    refine ⟨after.sound, ?_⟩
    intro key module h
    cases before : s.lookup key with
    | none => exact (after.kept.settled key module before h).1
    | some earlier =>
      have same := after.kept.registered key earlier before
      rw [h] at same
      cases same
      exact (whole key module before).later after.kept.remembered
        (after.kept.undisturbed module (sound.owned before))

/-- Whatever was called before and however a call ends, every module that is registered after it is
whole: no body that stopped midway has left its module in the registry. -/
theorem whole_of_lookup (reached : Reached s) {fs : FileSystem} {x : Except RunError Module}
    (call : importModule fs name s = some (x, t) ∨ runMain fs name s = some (x, t))
    (registered : t.lookup key = some module) : t.Whole key module := by
  have called : Called s t := call.elim .importModule .runMain
  exact (Reached.called reached called).whole.2 key module registered

/-- A module `a` that imports `b` and then fails, while `b` imports `a` back and the namespace
package `n`. -/
def brokenFiles : FileSystem where
  entries := [("r", .directory [
    ("a.pyf", .file (Artifact.frame
      (Artifact.body.write ⟨"a", "a.py", [.importName "b" none, .raise "no"]⟩))),
    ("b.pyf", .file (Artifact.frame
      (Artifact.body.write ⟨"b", "b.py", [.importName "a" (some "main"), .importName "n" none]⟩))),
    ("n", .directory [])])]
  workingDirectory := .top

theorem whole_of_lookup_brokenFiles :
    ∃ x t, runMain brokenFiles "a" (new ⟨[⟨"/r"⟩], none, .silent⟩) = some (x, t) ∧
      t.modules = ["b", "n"] ∧ t.Whole "b" ⟨1, "b"⟩ ∧ t.Whole "n" ⟨2, "n"⟩ := by
  have ran : (runMain brokenFiles "a" (new ⟨[⟨"/r"⟩], none, .silent⟩)).map
      (fun p => (p.2.modules, p.2.lookup "b", p.2.lookup "n")) =
      some (["b", "n"], some ⟨1, "b"⟩, some ⟨2, "n"⟩) := by decide +kernel
  obtain ⟨⟨x, t⟩, run, same⟩ := Option.map_eq_some_iff.mp ran
  obtain ⟨modules, lookups⟩ := Prod.mk.inj same
  obtain ⟨b, n⟩ := Prod.mk.inj lookups
  exact ⟨x, t, run, modules, whole_of_lookup (.new _) (.inr run) b,
    whole_of_lookup (.new _) (.inr run) n⟩

end ModuleImport.Interpreter
