import ModuleImport.Proofs.Interpreter.Course

namespace ModuleImport

namespace Store

theorem get?_newModule {store : Store} {module : Module} (owned : module.id < store.attributes.size)
    (name attr : String) : (store.newModule name).2.get? module attr = store.get? module attr := by
  simp only [get?, attributesOf, newModule, Array.getD_eq_getD_getElem?, Array.getElem?_push,
    if_neg (Nat.ne_of_lt owned)]

theorem get?_set_of_ne (store : Store) {module other : Module} {attr key : String}
    (apart : other.id = module.id → key ≠ attr) (value : Value) :
    (store.set module attr value).get? other key = store.get? other key := by
  by_cases same : other.id = module.id
  · by_cases owned : module.id < store.attributes.size
    · have written := get?_set_self store owned attr key value
      rw [if_neg (apart same)] at written
      unfold get? attributesOf at written ⊢
      rw [same]
      exact written
    · have outside : store.attributes.size ≤ module.id := Nat.le_of_not_lt owned
      simp [get?, attributesOf, set, Array.getD_eq_getD_getElem?, same, outside]
  · exact get?_set_other store same attr key value

end Store

namespace Interpreter

variable {fs : FileSystem} {N : String → Prop} {name parent : String} {s t u : Interpreter}
  {module package : Module}

/-- The attributes that the bodies run in a module bind in it. -/
def bodyWrites (s : Interpreter) (module : Module) : List String :=
  s.trace.flatMap fun
    | .began other code _ => if other.id = module.id then code.writes else []
    | _ => []

/-- A name has been registered, and since then no registration of its parent was taken back. -/
def RegisteredSince (s : Interpreter) (parent name : String) : Prop :=
  ∃ event ∈ s.trace.takeWhile (· ≠ .removed parent), event.registeredName? = some name

instance (s : Interpreter) (parent name : String) : Decidable (s.RegisteredSince parent name) :=
  inferInstanceAs (Decidable (∃ _ ∈ _, _))

/-- A module has its package registered and is bound on it, unless the body of the package writes the
attribute itself. -/
structure AttachedTo (s : Interpreter) (parent name : String) (module package : Module) : Prop where
  registered : s.lookup parent = some package
  bound : ∀ last, Name.lastSegment? name = some last → last ∉ s.bodyWrites package →
    s.store.get? package last = some (.module module)

/-- What is registered for a name is attached to its package, if it has one that was not taken back
since. -/
def Attached (s : Interpreter) (name : String) : Prop :=
  ∀ parent module, Name.parent? name = some parent → s.lookup name = some module →
    s.RegisteredSince parent name → ∃ package, s.AttachedTo parent name module package

theorem bodyWrites_mono (remembered : s.trace ⊆ t.trace) {attr : String}
    (absent : attr ∉ t.bodyWrites module) : attr ∉ s.bodyWrites module := by
  intro written
  obtain ⟨event, member, binds⟩ := List.mem_flatMap.mp written
  exact absent (List.mem_flatMap.mpr ⟨event, remembered member, binds⟩)

theorem mem_bodyWrites {code : Code} {artifact : Path} {attr : String} {other : Module}
    (began : .began other code artifact ∈ s.trace) (same : other.id = module.id)
    (binds : attr ∈ code.writes) : attr ∈ s.bodyWrites module := by
  refine List.mem_flatMap.mpr ⟨_, began, ?_⟩
  dsimp only
  rw [if_pos same]
  exact binds

theorem RegisteredSince.of_trace (since : t.RegisteredSince parent name) (same : t.trace = s.trace) :
    s.RegisteredSince parent name := by
  unfold RegisteredSince at since ⊢
  rw [← same]
  exact since

theorem registeredSince_cons {event : Event} (trace : t.trace = event :: s.trace)
    (other : event.registeredName? ≠ some name) (since : t.RegisteredSince parent name) :
    event ≠ .removed parent ∧ s.RegisteredSince parent name := by
  obtain ⟨registering, member, registers⟩ := since
  rw [trace, List.takeWhile_cons] at member
  split at member
  · rename_i stays
    refine ⟨of_decide_eq_true stays, ?_⟩
    rcases List.mem_cons.mp member with rfl | member
    · exact absurd registers other
    · exact ⟨registering, member, registers⟩
  · cases member

/-- A name stays attached if its registration, its package and the attribute of the package stay. -/
theorem Attached.later (attached : s.Attached name) (remembered : s.trace ⊆ t.trace)
    (looked : t.lookup name = s.lookup name)
    (since : ∀ {parent}, t.RegisteredSince parent name → s.RegisteredSince parent name ∧
      (s.lookup parent ≠ none → t.lookup parent = s.lookup parent))
    (same : ∀ {parent package last}, Name.parent? name = some parent →
      s.lookup parent = some package → Name.lastSegment? name = some last →
      last ∉ t.bodyWrites package → t.store.get? package last = s.store.get? package last) :
    t.Attached name := by
  intro parent module isParent registered kept
  obtain ⟨before, stays⟩ := since kept
  rw [looked] at registered
  obtain ⟨package, found, bound⟩ := attached parent module isParent registered before
  have present : s.lookup parent ≠ none := by
    rw [found]
    exact Option.some_ne_none package
  refine ⟨package, (stays present).trans found, ?_⟩
  intro last isLast unwritten
  rw [same isParent found isLast unwritten]
  exact bound last isLast (bodyWrites_mono remembered unwritten)

/-- A name stays attached where neither the registry nor attributes change and nothing happens to
registrations. -/
theorem Attached.of_same (attached : s.Attached name) (registry : t.registry = s.registry)
    (attributes : t.store.attributes = s.store.attributes) (trace : t.trace = s.trace) :
    t.Attached name := by
  have looked (key : String) : t.lookup key = s.lookup key := by
    unfold lookup
    rw [registry]
  have remembered : s.trace ⊆ t.trace := by
    rw [trace]
    exact List.Subset.refl _
  apply attached.later remembered (looked name)
  · intro parent since
    exact ⟨since.of_trace trace, fun _ => looked parent⟩
  · intro parent package last _ _ _ _
    unfold Store.get? Store.attributesOf
    rw [attributes]

theorem Attached.record (attached : s.Attached name) {event : Event}
    (silent : event.registeredName? ≠ some name) : (s.record event).Attached name := by
  have remembered : s.trace ⊆ (s.record event).trace := List.subset_cons_self _ _
  apply attached.later remembered rfl
  · intro parent since
    have before := (registeredSince_cons rfl silent since).2
    exact ⟨before, fun _ => rfl⟩
  · intro parent package last _ _ _ _
    rfl

/-- A name stays attached when an attribute is written by the body of the module that has it. -/
theorem Attached.written (attached : s.Attached name) {code : Code} {artifact : Path} {attr : String}
    (value : Value) (began : .began module code artifact ∈ s.trace)
    (binds : attr ∈ code.writes) : (s.assign module attr value).Attached name := by
  apply attached.later (t := s.assign module attr value) (List.Subset.refl _) rfl
  · intro parent since
    exact ⟨since, fun _ => rfl⟩
  · intro parent package last _ _ _ unwritten
    apply Store.get?_set_of_ne
    intro same
    rintro rfl
    have written : last ∈ s.bodyWrites package := mem_bodyWrites began same.symm binds
    exact unwritten written

theorem loaded?_eq_lookup (entryless : s.entryPoint = none) (name : String) :
    s.loaded? name = s.lookup name := by
  unfold loaded? registeredName
  rw [entryless, Name.registered_none]

/-- Binding a name on its parent leaves the other names attached, for none of them has the same
parent and the same last segment. -/
theorem Attached.bindOnParent {other : String} {parent? : Option Module} (attached : s.Attached other)
    (entryless : s.entryPoint = none) (named : s.Named) (parentOf : s.ParentOf name parent?)
    (ne : other ≠ name) (module : Module) : (s.bindOnParent parent? name module).Attached other := by
  have looked := lookup_bindOnParent s parent? name
  have trace := trace_bindOnParent s parent? name module
  have remembered : s.trace ⊆ (s.bindOnParent parent? name module).trace := by
    rw [trace]
    exact List.Subset.refl _
  apply attached.later remembered (looked other module)
  · intro parent since
    exact ⟨since.of_trace trace, fun _ => looked parent module⟩
  · intro parent package last isParent registered isLast _
    cases parentOf with
    | none none => rfl
    | @some nameParent bound nameIsParent loaded =>
      unfold Interpreter.bindOnParent
      cases nameIsLast : Name.lastSegment? name with
      | none => rfl
      | some segment =>
        apply Store.get?_set_of_ne
        intro same
        rintro rfl
        -- one object has one name, so both names would be put together from the same parts
        rw [loaded?_eq_lookup entryless] at loaded
        have sameParent : parent = nameParent := named.apart registered loaded same
        rw [← sameParent] at nameIsParent
        exact ne (Name.eq_of_parent_of_lastSegment isParent isLast nameIsParent nameIsLast)

theorem attached_bindOnParent {parent? : Option Module} (entryless : s.entryPoint = none)
    (sound : s.Sound) (parentOf : s.ParentOf name parent?)
    (registered : s.lookup name = some module) :
    (s.bindOnParent parent? name module).Attached name := by
  intro parent found isParent looked _
  cases parentOf with
  | none none =>
    rw [none] at isParent
    cases isParent
  | @some _ package nameIsParent loaded =>
    rw [nameIsParent] at isParent
    cases isParent
    rw [loaded?_eq_lookup entryless] at loaded
    rw [lookup_bindOnParent, registered] at looked
    cases looked
    refine ⟨package, ?_, ?_⟩
    · simpa using loaded
    · intro last isLast _
      unfold Interpreter.bindOnParent
      rw [isLast]
      have owned : s.Owns package := sound.owned loaded
      exact (Store.get?_set_self _ owned last last _).trans (if_pos rfl)

section Registrations

variable {plan : LoadPlan} {importer : Importer} {parent? : Option Module}

theorem get?_prepared {other : Module} (ne : other.id ≠ module.id) (attr : String) :
    (s.prepared importer plan module).store.get? other attr = s.store.get? other attr := by
  unfold prepared entered
  cases plan.searchPath? <;>
    simp only [Interpreter.record, Interpreter.assign, Store.get?_set_other _ ne]

theorem get?_started (absent : s.lookup plan.target = none) (owned : s.Owns module) (attr : String) :
    (s.started importer plan).store.get? module attr = s.store.get? module attr := by
  have new : module.id ≠ (s.loading plan).id := by
    simpa [loading_of_absent absent] using Nat.ne_of_lt owned
  rw [started, get?_prepared new, getOrCreate_of_absent absent]
  exact Store.get?_newModule owned _ _

theorem Attached.registering (attached : s.Attached name) (sound : s.Sound) {key : String}
    {new : Module} (absent : s.lookup key = none) (ne : name ≠ key)
    (looked : ∀ other, t.lookup other = if other = key then some new else s.lookup other)
    (remembered : s.trace ⊆ t.trace)
    (since : ∀ {parent}, t.RegisteredSince parent name → s.RegisteredSince parent name)
    (kept : ∀ {module}, s.Owns module → ∀ attr,
      t.store.get? module attr = s.store.get? module attr) : t.Attached name := by
  apply attached.later remembered ((looked name).trans (if_neg ne))
  · intro parent stays
    refine ⟨since stays, ?_⟩
    intro present
    have other : parent ≠ key := by
      rintro rfl
      exact present absent
    exact (looked parent).trans (if_neg other)
  · intro parent package last _ registered _ _
    exact kept (sound.owned registered) last

theorem Attached.started (attached : s.Attached name) (sound : s.Sound)
    (absent : s.lookup plan.target = none) (ne : name ≠ plan.target) :
    (s.started importer plan).Attached name := by
  have trace := trace_started importer absent
  have remembered : s.trace ⊆ (s.started importer plan).trace := by
    rw [trace]
    exact List.subset_append_right _ _
  have other : (Event.registered plan.target (s.loading plan)).registeredName? ≠ some name := by
    intro same
    exact ne (Option.some.inj same).symm
  apply attached.registering sound absent ne (lookup_started importer absent) remembered
  · intro parent since
    have begun := (registeredSince_cons (t := s.started importer plan)
      (s := s.record (.registered plan.target (s.loading plan))) trace (by nofun) since).2
    exact (registeredSince_cons rfl other begun).2
  · intro module owned attr
    exact get?_started absent owned attr

theorem Attached.assembled {package : String} (attached : s.Attached name) (sound : s.Sound)
    (absent : s.loaded? package = none) (ne : name ≠ s.registeredName package)
    (portions : List Path) : (s.assemble package portions).2.Attached name := by
  have other : (Event.assembled (s.registeredName package)
      (s.register (s.registeredName package)).1 portions).registeredName? ≠ some name := by
    intro same
    exact ne (Option.some.inj same).symm
  have looked (key : String) : (s.assemble package portions).2.lookup key =
      if key = s.registeredName package then some (s.register (s.registeredName package)).1
      else s.lookup key := lookup_register s _ key
  apply attached.registering sound absent ne looked (List.subset_cons_self _ _)
  · intro parent since
    exact (registeredSince_cons rfl other since).2
  · intro module owned attr
    have new : module.id ≠ (s.register (s.registeredName package)).1.id := Nat.ne_of_lt owned
    exact (Store.get?_set_other _ new _ _ _).trans (Store.get?_newModule owned _ _)

/-- A failed load leaves attached what its body leaves attached. The submodules of the module that it
was to load have then lost their package. -/
theorem Attached.abandoned (attached : t.Attached name) (absent : s.lookup plan.target = none)
    (ne : name ≠ plan.target) : (s.abandoned plan t).Attached name := by
  have stopped : (t.record (.stopped (s.loading plan) plan.artifact)).Attached name :=
    attached.record (by nofun)
  have removed := abandoned_of_absent (t := t) absent
  have remembered : (t.record (.stopped (s.loading plan) plan.artifact)).trace ⊆
      (s.abandoned plan t).trace := by
    rw [removed]
    exact List.subset_cons_self _ _
  apply stopped.later remembered (by simp [absent, ne])
  · intro parent since
    rw [removed] at since
    obtain ⟨other, before⟩ := registeredSince_cons (t := (t.record
      (.stopped (s.loading plan) plan.artifact)).remove plan.target) rfl (by nofun) since
    refine ⟨before, ?_⟩
    intro _
    have stays : parent ≠ plan.target := by
      rintro rfl
      exact other rfl
    simp [absent, stays]
  · intro parent package last _ _ _ _
    rw [removed]
    rfl

end Registrations

/-- Runs that leave every name attached that was attached. -/
def Attaches (s : Interpreter) (_ : Except RunError Unit) (t : Interpreter) : Prop :=
  s.entryPoint = none → ∀ name, s.Attached name → t.Attached name

theorem attached_of_absent (absent : s.lookup name = none) : s.Attached name := by
  intro _ _ _ registered
  rw [absent] at registered
  cases registered

@[simp] theorem registeredName_eq (entryless : s.entryPoint = none) (name : String) :
    s.registeredName name = name := by
  unfold registeredName
  rw [entryless, Name.registered_none]

theorem attaches_assembled {parent? : Option Module} {portions : List Path}
    (ready : Ready fs name parent? (.portions portions) s) :
    Attaches s (.ok ()) ((s.assemble name portions).2.bindOnParent parent? name
      (s.assemble name portions).1) := by
  intro entryless other attached
  have continues : s.Continues (s.assemble name portions).2 :=
    (Follows.assembled (kept_keeps fs) ready.consistent.sound ready.absent portions).continues
      ready.consistent
  have after := continues.entryPoint.trans entryless
  have parentOf := ready.parent.later continues.settles.registered continues.entryPoint
  have target := registeredName_eq entryless name
  by_cases own : other = name
  · rw [own]
    refine attached_bindOnParent after continues.consistent.sound parentOf ?_
    exact (lookup_register s _ _).trans (if_pos target.symm)
  · refine Attached.bindOnParent ?_ after continues.consistent.named parentOf own _
    exact attached.assembled ready.consistent.sound ready.absent (target.symm ▸ own) portions

theorem attaches_completed {parent? : Option Module} {importer : Importer} {plan : LoadPlan}
    {x : Except RunError Unit} (loadable : Loadable fs name parent? importer plan s)
    (continues : (s.started importer plan).Continues t)
    (body : Attaches (s.started importer plan) x t) :
    Attaches s (.ok ()) ((s.completed plan t).bindOnParent parent? name (s.loading plan)) := by
  intro entryless other attached
  have absent := loadable.unregistered
  have starts := entryPoint_started importer absent
  have target : plan.target = name := loadable.target.trans (registeredName_eq entryless name)
  have after : (s.completed plan t).entryPoint = none :=
    (continues.entryPoint.trans starts).trans entryless
  have looked := lookup_started importer absent
  have sound : (s.completed plan t).Sound := by
    refine continues.consistent.sound.record (fun module about => ?_)
    cases about
    exact continues.consistent.sound.owned
      (continues.settles.registered _ _ ((looked plan.target).trans (if_pos rfl)))
  have named : (s.completed plan t).Named := continues.consistent.named.of_registry rfl
  have parentOf : (s.completed plan t).ParentOf name parent? := by
    refine loadable.parent.later (fun key module found => ?_) (after.trans entryless.symm)
    refine continues.settles.registered key module ((looked key).trans ?_)
    rw [if_neg, found]
    rintro rfl
    rw [absent] at found
    cases found
  by_cases own : other = name
  · rw [own]
    refine attached_bindOnParent after sound parentOf (continues.settles.registered _ _ ?_)
    exact (looked name).trans (if_pos target.symm)
  · refine Attached.bindOnParent ?_ after named parentOf own _
    refine (body (starts.trans entryless) other ?_).record (by nofun)
    exact attached.started loadable.consistent.sound absent (target.symm ▸ own)

theorem attaches_abandoned {parent? : Option Module} {importer : Importer} {plan : LoadPlan}
    {x y : Except RunError Unit} (loadable : Loadable fs name parent? importer plan s)
    (body : Attaches (s.started importer plan) x t) : Attaches s y (s.abandoned plan t) := by
  intro entryless other attached
  have absent := loadable.unregistered
  by_cases own : other = plan.target
  · rw [own]
    exact attached_of_absent (by simp [absent])
  · have start : (s.started importer plan).Attached other :=
      attached.started loadable.consistent.sound absent own
    have starts := (entryPoint_started importer absent).trans entryless
    exact (body starts other start).abandoned absent own

theorem maintained_attaches (fs : FileSystem) (N : String → Prop) : Maintained fs N Attaches where
  refl _ _ _ attached := attached
  failed _ _ _ _ attached := attached
  trans _ continues st tu entryless name attached :=
    tu (continues.entryPoint.trans entryless) name (st entryless name attached)
  printed _ _ _ _ attached := attached.of_same rfl rfl rfl
  written value _ _ began binds _ _ attached := attached.written value began binds
  noted _ _ _ _ attached := attached.record (by nofun)
  looked entry _ _ _ attached := attached.of_same (by simp) (by simp) (by simp)
  assembled _ ready := attaches_assembled ready
  completed _ loadable continues body := attaches_completed loadable continues body
  abandoned _ loadable _ body := attaches_abandoned loadable body

/-- States on the way of imports over the same files, whether they succeed or fail. -/
inductive Imports (fs : FileSystem) (s : Interpreter) : Interpreter → Prop
  | refl : Imports fs s s
  | step {t u name x} : Imports fs s t → importModule fs name t = some (x, u) → Imports fs s u

theorem Imports.trans (st : Imports fs s t) (tu : Imports fs t u) : Imports fs s u := by
  induction tu with
  | refl => exact st
  | step _ ended ih => exact ih.step ended

theorem Imports.continues (imports : Imports fs s t) (consistent : s.Consistent) :
    s.Continues t := by
  induction imports with
  | refl => exact .refl consistent
  | step _ ended ih => exact ih.trans (importWithin_continues ih.consistent ended)

theorem Imports.attached (imports : Imports fs s t) (consistent : s.Consistent)
    (entryless : s.entryPoint = none) (attached : s.Attached name) : t.Attached name := by
  induction imports with
  | refl => exact attached
  | @step t u requested x before ended ih =>
    have continues := before.continues consistent
    refine importWithin_maintains (maintained_attaches fs _) (closed_mentioned fs [requested]) _
      (mentioned_of_mem List.mem_cons_self) continues.consistent ended ?_ name ih
    exact continues.entryPoint.trans entryless

/-- After any imports over the same files, without an entry point, a module that was imported stays
registered, and its package is registered and has it as an attribute, unless the registration of the
package was taken back since, or the body of the package writes the attribute itself. -/
theorem submodule_attached {config : Config} (entryless : config.entryPoint = none)
    (reached : Imports fs (new config) s) :
    (∀ name parent, Name.parent? name = some parent → s.lookup name ≠ none →
      s.RegisteredSince parent name → s.lookup parent ≠ none) ∧
    ∀ name module t u, importModule fs name s = some (.ok module, t) → Imports fs t u →
      u.lookup name = some module ∧ ∀ parent, Name.parent? name = some parent →
        u.RegisteredSince parent name → ∃ package, u.AttachedTo parent name module package := by
  have start := Reached.consistent (.new config)
  have attached {v : Interpreter} (name : String) (imports : Imports fs (new config) v) :
      v.Attached name :=
    imports.attached start entryless (attached_of_absent rfl)
  constructor
  · intro name parent isParent present since
    obtain ⟨module, found⟩ := Option.ne_none_iff_exists'.mp present
    obtain ⟨package, attachedTo⟩ := attached name reached parent module isParent found since
    rw [attachedTo.registered]
    exact Option.some_ne_none _
  · intro name module t u imported later
    have before := reached.continues start
    have after := importWithin_continues before.consistent imported
    have goesOn := before.trans (after.trans (later.continues after.consistent))
    have loaded := (later.continues after.consistent).loaded?
      (loaded?_of_importWithin before.consistent imported rfl)
    rw [loaded?_eq_lookup (goesOn.entryPoint.trans entryless)] at loaded
    refine ⟨loaded, fun parent isParent since => ?_⟩
    exact attached name ((reached.step imported).trans later) parent module isParent loaded since

/-- The state after some imports in a row. -/
def session (fs : FileSystem) (names : List String) (s : Interpreter) : Option Interpreter :=
  names.foldlM (fun s name => (importModule fs name s).map Prod.snd) s

theorem imports_of_session {names : List String} (h : session fs names s = some t) :
    Imports fs s t := by
  induction names generalizing s with
  | nil =>
    cases h
    exact .refl
  | cons name names ih =>
    rw [session, List.foldlM_cons] at h
    obtain ⟨u, first, rest⟩ := Option.bind_eq_some_iff.mp h
    obtain ⟨⟨x, _⟩, ended, rfl⟩ := Option.map_eq_some_iff.mp first
    exact (Imports.refl.step ended).trans (ih rest)

/-- A package `p` that imports its submodule `c` and then `a`, which fails for the first time only:
it asks for `q.r`, and the package `q` imports this submodule before it fails. -/
def resumedFiles : FileSystem where
  entries := [("r", .directory [
    ("a.pyf", .file (Artifact.frame
      (Artifact.body.write ⟨"a", "a.py", [.importName "q.r" (some "r")]⟩))),
    ("p", .directory [
      ("__init__.pyf", .file (Artifact.frame
        (Artifact.body.write ⟨"p", "p.py", [.importName "p.c" none, .importName "a" none]⟩))),
      ("c.pyf", .file (Artifact.frame (Artifact.body.write ⟨"p.c", "c.py", []⟩))),
      ("d.pyf", .file (Artifact.frame (Artifact.body.write ⟨"p.d", "d.py", []⟩)))]),
    ("q", .directory [
      ("__init__.pyf", .file (Artifact.frame
        (Artifact.body.write ⟨"q", "q.py", [.importName "q.r" none, .raise "no"]⟩))),
      ("r.pyf", .file (Artifact.frame (Artifact.body.write ⟨"q.r", "r.py", []⟩)))])])]
  workingDirectory := .top

/-- When the import of `p` has failed, `p.c` can be imported without `p`, and when `p` is imported
then it does not get `p.c` as an attribute. -/
theorem submodule_without_package :
    ∃ s t u module package, Imports resumedFiles fresh s ∧
      importModule resumedFiles "p.c" s = some (.ok module, t) ∧
      t.lookup "p.c" = some module ∧ t.lookup "p" = none ∧
      Imports resumedFiles t u ∧ u.lookup "p.c" = some module ∧ u.lookup "p" = some package ∧
      "c" ∉ u.bodyWrites package ∧ u.store.get? package "c" = none := by
  have ran : ((session resumedFiles ["p"] fresh).bind fun s =>
      (importModule resumedFiles "p.c" s).bind fun (x, t) =>
      (session resumedFiles ["p"] t).map fun u =>
        ((x.toOption, t.lookup "p.c", t.lookup "p"), (u.lookup "p.c", u.lookup "p"),
          u.bodyWrites ⟨5, "p"⟩, (u.store.get? ⟨5, "p"⟩ "c").isNone)) =
      some ((some ⟨1, "p.c"⟩, some ⟨1, "p.c"⟩, none), (some ⟨1, "p.c"⟩, some ⟨5, "p"⟩),
        ["p", "a"], true) := by decide +kernel
  obtain ⟨s, first, ran⟩ := Option.bind_eq_some_iff.mp ran
  obtain ⟨⟨x, t⟩, second, ran⟩ := Option.bind_eq_some_iff.mp ran
  obtain ⟨u, third, ran⟩ := Option.map_eq_some_iff.mp ran
  simp only [Prod.mk.injEq] at ran
  obtain ⟨⟨given, child, parent⟩, ⟨child', parent'⟩, writes, unbound⟩ := ran
  cases x with
  | error e => cases given
  | ok module =>
    cases given
    refine ⟨s, t, u, _, _, imports_of_session first, second, child, parent,
      imports_of_session third, child', parent', ?_, Option.isNone_iff_eq_none.mp unbound⟩
    rw [writes]
    decide

/-- A submodule that is imported when its package is registered again is attached to it. -/
theorem submodule_attached_resumedFiles :
    ∃ s t module package, Imports resumedFiles fresh s ∧
      importModule resumedFiles "p.d" s = some (.ok module, t) ∧
      t.lookup "p.d" = some module ∧ t.lookup "p" = some package ∧
      t.store.get? package "d" = some (.module module) := by
  have ran : ((session resumedFiles ["p", "p"] fresh).bind fun s =>
      (importModule resumedFiles "p.d" s).map fun (x, t) =>
        (x.toOption, t.lookup "p", t.bodyWrites ⟨5, "p"⟩, decide (t.RegisteredSince "p" "p.d"))) =
      some (some ⟨7, "p.d"⟩, some ⟨5, "p"⟩, ["p", "a"], true) := by decide +kernel
  obtain ⟨s, first, ran⟩ := Option.bind_eq_some_iff.mp ran
  obtain ⟨⟨x, t⟩, second, ran⟩ := Option.map_eq_some_iff.mp ran
  simp only [Prod.mk.injEq] at ran
  obtain ⟨given, found, writes, since⟩ := ran
  cases x with
  | error e => cases given
  | ok module =>
    have imports := imports_of_session first
    obtain ⟨loaded, attached⟩ := (submodule_attached rfl imports).2 "p.d" module t t second .refl
    obtain ⟨package, registered, bound⟩ :=
      attached "p" (by decide +kernel) (of_decide_eq_true since)
    cases found.symm.trans registered
    refine ⟨s, t, module, _, imports, second, loaded, found, bound "d" (by decide +kernel) ?_⟩
    rw [writes]
    decide

end Interpreter

end ModuleImport
