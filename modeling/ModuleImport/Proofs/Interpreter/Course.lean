import Mathlib.Data.List.Nodup
import ModuleImport.Proofs.Interpreter.Ends
import ModuleImport.Proofs.Interpreter.Maintained

namespace ModuleImport

/-- The name that an event registers a module under. -/
def Event.registeredName? : Event → Option String
  | registered name _ => some name
  | assembled name _ _ => some name
  | _ => none

/-- The module that an event registers for a load. -/
def Event.forLoad? : Event → Option Module
  | registered _ module => some module
  | _ => none

/-- The module whose body begins with an event. -/
def Event.begun? : Event → Option Module
  | began module _ _ => some module
  | _ => none

/-- Whether an event belongs to the way back from an error. -/
def Event.unwinds : Event → Bool
  | stopped _ _ | removed _ => true
  | _ => false

namespace Interpreter

/-- How a run from `s` to `t` goes forward by the events `done`, and back by `unwound` if an error
ends it. It imports names of `N`. -/
structure Course (N : String → Prop) (s : Interpreter) (x : Except RunError Unit) (t : Interpreter)
    (done unwound : List Event) : Prop where
  trace : t.trace = unwound ++ (done ++ s.trace)
  forward : ∀ event ∈ done, event.unwinds = false
  back : ∀ event ∈ unwound, event.unwinds = true
  clean : x = .ok () → unwound = []
  distinct : (done.filterMap Event.registeredName?).Nodup
  wanted : ∀ key ∈ done.filterMap Event.registeredName?,
    s.lookup key = none ∧ ∃ name, N name ∧ s.registeredName name = key
  bodies : done.filterMap Event.begun? = done.filterMap Event.forLoad?
  registers : x = .ok () → ∀ key, t.lookup key ≠ none ↔
    key ∈ done.filterMap Event.registeredName? ∨ s.lookup key ≠ none

/-- Whether a run takes such a course. -/
def Courses (N : String → Prop) (s : Interpreter) (x : Except RunError Unit) (t : Interpreter) :
    Prop :=
  ∃ done unwound, Course N s x t done unwound

variable {fs : FileSystem} {N : String → Prop} {name : String} {s t u : Interpreter}
  {x : Except RunError Unit} {done done' unwound unwound' : List Event}

theorem Course.still (registry : t.registry = s.registry) (trace : t.trace = s.trace) :
    Course N s x t [] [] where
  trace := trace
  forward _ member := by cases member
  back _ member := by cases member
  clean _ := rfl
  distinct := List.nodup_nil
  wanted _ member := by cases member
  bodies := rfl
  registers _ key := by
    unfold lookup
    rw [registry]
    exact ⟨.inr, fun h => h.resolve_left List.not_mem_nil⟩

theorem Course.trans (entryPoint : t.entryPoint = s.entryPoint)
    (st : Course N s (.ok ()) t done unwound) (tu : Course N t x u done' unwound') :
    Course N s x u (done' ++ done) unwound' where
  trace := by
    rw [tu.trace, st.trace, st.clean rfl, List.append_assoc]
    rfl
  forward event member :=
    (List.mem_append.mp member).elim (tu.forward event) (st.forward event)
  back := tu.back
  clean := tu.clean
  distinct := by
    rw [List.filterMap_append]
    refine List.nodup_append.mpr ⟨tu.distinct, st.distinct, ?_⟩
    -- what the first run registered is registered still, and the second registers new names only
    rintro key later _ earlier rfl
    exact (st.registers rfl key).mpr (.inl earlier) (tu.wanted key later).1
  wanted key member := by
    rw [List.filterMap_append] at member
    rcases List.mem_append.mp member with later | earlier
    · obtain ⟨absent, name, wanted, same⟩ := tu.wanted key later
      refine ⟨?_, name, wanted, ?_⟩
      · by_contra present
        exact (st.registers rfl key).mpr (.inr present) absent
      · unfold registeredName at same ⊢
        rw [← entryPoint]
        exact same
    · exact st.wanted key earlier
  bodies := by
    rw [List.filterMap_append, List.filterMap_append, tu.bodies, st.bodies]
  registers ok key := by
    rw [tu.registers ok, st.registers rfl, List.filterMap_append, List.mem_append, or_assoc]

theorem Course.registering {key : String} {module : Module} (trace : t.trace = done ++ s.trace)
    (forward : ∀ event ∈ done, event.unwinds = false)
    (keys : done.filterMap Event.registeredName? = [key])
    (bodies : done.filterMap Event.begun? = done.filterMap Event.forLoad?) (wanted : N name)
    (target : s.registeredName name = key) (absent : s.lookup key = none)
    (looked : ∀ other, t.lookup other = if other = key then some module else s.lookup other) :
    Course N s (.ok ()) t done [] where
  trace := trace
  forward := forward
  back _ member := by cases member
  clean _ := rfl
  distinct := by
    rw [keys]
    exact List.nodup_singleton key
  wanted other member := by
    rw [keys] at member
    rw [List.mem_singleton.mp member]
    exact ⟨absent, name, wanted, target⟩
  bodies := bodies
  registers _ other := by
    rw [keys, looked, List.mem_singleton]
    split
    · rename_i same
      exact ⟨fun _ => .inl same, fun _ => Option.some_ne_none _⟩
    · rename_i ne
      exact ⟨.inr, fun h => h.resolve_left ne⟩

theorem courses_assembled {parent? : Option Module} {portions : List Path} (wanted : N name)
    (ready : Ready fs name parent? (.portions portions) s) :
    Courses N s (.ok ())
      ((s.assemble name portions).2.bindOnParent parent? name (s.assemble name portions).1) := by
  refine ⟨[.assembled (s.registeredName name) (s.assemble name portions).1 portions], [], ?_⟩
  refine .registering ?_ (List.forall_mem_singleton.mpr rfl) rfl rfl wanted rfl ready.absent
    (fun other => (lookup_bindOnParent _ _ _ _ _).trans (lookup_register s _ other))
  rw [trace_bindOnParent]
  rfl

section Loads

variable {parent? : Option Module} {importer : Importer} {plan : LoadPlan}

/-- The events with which a load starts, the latest first. -/
def startEvents (plan : LoadPlan) (s : Interpreter) : List Event :=
  [.began (s.loading plan) plan.code plan.artifact, .registered plan.target (s.loading plan)]

theorem trace_started (importer : Importer) (absent : s.lookup plan.target = none) :
    (s.started importer plan).trace = s.startEvents plan ++ s.trace := by
  rw [(started_of_absent importer absent).trace, startEvents, loading_of_absent absent]
  rfl

theorem course_started (wanted : N name) (loadable : Loadable fs name parent? importer plan s) :
    Course N s (.ok ()) (s.started importer plan) (s.startEvents plan) [] := by
  refine .registering (trace_started importer loadable.unregistered) ?_ rfl rfl wanted
    loadable.target.symm loadable.unregistered (lookup_started importer loadable.unregistered)
  exact List.forall_mem_cons.mpr ⟨rfl, List.forall_mem_singleton.mpr rfl⟩

@[simp] theorem entryPoint_started (importer : Importer) (absent : s.lookup plan.target = none) :
    (s.started importer plan).entryPoint = s.entryPoint :=
  (started_of_absent importer absent).entryPoint

theorem course_body (wanted : N name) (loadable : Loadable fs name parent? importer plan s)
    (body : Course N (s.started importer plan) x t done unwound) :
    Course N s x t (done ++ s.startEvents plan) unwound :=
  (course_started wanted loadable).trans (entryPoint_started importer loadable.unregistered) body

theorem courses_completed (wanted : N name) (loadable : Loadable fs name parent? importer plan s)
    (body : Courses N (s.started importer plan) (.ok ()) t) :
    Courses N s (.ok ()) ((s.completed plan t).bindOnParent parent? name (s.loading plan)) := by
  obtain ⟨done, unwound, body⟩ := body
  have ran := course_body wanted loadable body
  refine ⟨.finished (s.loading plan) plan.artifact :: (done ++ s.startEvents plan), [], ?_,
    List.forall_mem_cons.mpr ⟨rfl, ran.forward⟩, List.forall_mem_nil _, fun _ => rfl, ran.distinct,
    ran.wanted, ran.bodies, fun ok key => ?_⟩
  · simp [completed, record, ran.trace, ran.clean rfl]
  · rw [lookup_bindOnParent]
    exact ran.registers ok key

theorem courses_abandoned (wanted : N name) (loadable : Loadable fs name parent? importer plan s)
    {e e' : RunError} (body : Courses N (s.started importer plan) (.error e) t) :
    Courses N s (.error e') (s.abandoned plan t) := by
  obtain ⟨done, unwound, body⟩ := body
  have ran := course_body wanted loadable body
  rw [abandoned_of_absent loadable.unregistered]
  refine ⟨done ++ s.startEvents plan,
    .removed plan.target :: .stopped (s.loading plan) plan.artifact :: unwound, ?_, ran.forward,
    List.forall_mem_cons.mpr ⟨rfl, List.forall_mem_cons.mpr ⟨rfl, ran.back⟩⟩,
    (fun absurd => by cases absurd), ran.distinct, ran.wanted, ran.bodies,
    (fun absurd => by cases absurd)⟩
  rw [remove, record, record, ran.trace]
  rfl

end Loads

theorem course_noted (name : String) (module : Module) :
    Course N s (.ok ()) (s.record (.imported name module)) [.imported name module] [] where
  trace := rfl
  forward := List.forall_mem_singleton.mpr rfl
  back _ member := by cases member
  clean _ := rfl
  distinct := List.nodup_nil
  wanted _ member := by cases member
  bodies := rfl
  registers _ key := ⟨.inr, fun h => h.resolve_left List.not_mem_nil⟩

theorem maintained_courses (fs : FileSystem) (N : String → Prop) : Maintained fs N (Courses N) where
  refl _ := ⟨[], [], .still rfl rfl⟩
  failed _ _ := ⟨[], [], .still rfl rfl⟩
  trans _ continues st tu := by
    obtain ⟨done, unwound, st⟩ := st
    obtain ⟨done', unwound', tu⟩ := tu
    exact ⟨done' ++ done, unwound', st.trans continues.entryPoint tu⟩
  printed _ _ := ⟨[], [], .still rfl rfl⟩
  written _ _ _ _ _ := ⟨[], [], .still rfl rfl⟩
  noted _ _ := ⟨_, [], course_noted _ _⟩
  looked entry _ := ⟨[], [], .still (by simp) (by simp)⟩
  assembled := courses_assembled
  completed wanted loadable _ body := courses_completed wanted loadable body
  abandoned wanted loadable _ body := courses_abandoned wanted loadable body

/-- Every import ends in one way, however deeply imports may be nested beyond a bound, and on the way
it registers mentioned names one by one and takes back none before an error ends it. -/
theorem importModule_courses (consistent : s.Consistent) (fs : FileSystem) (name : String) :
    ∃ x t, importModule fs name s = some (x, t) ∧
      (∀ depth, importDepth fs [name] ≤ depth → importWithin fs depth name s = some (x, t)) ∧
      Courses (· ∈ fs.mentioned [name]) s (outcome x) t := by
  obtain ⟨⟨x, t⟩, ended⟩ := ends_importModule consistent fs name
  refine ⟨x, t, ended _ (Nat.le_refl _), ended, ?_⟩
  exact importWithin_maintains (maintained_courses fs _) (closed_mentioned fs [name]) _
    (mentioned_of_mem List.mem_cons_self) consistent (ended _ (Nat.le_refl _))

/-- Whatever was called before, every call ends. No deeper nesting of imports would make it end in
another way, and on its course it registers names one by one, none of which was registered and each
of which is mentioned by the call or the file system, and takes back none before an error ends it. -/
theorem calls_end (reached : Reached s) (fs : FileSystem) (name : String) :
    (∃ x t, importModule fs name s = some (x, t) ∧
      (∀ depth, importDepth fs [name] ≤ depth → importWithin fs depth name s = some (x, t)) ∧
      Courses (· ∈ fs.mentioned [name]) s (outcome x) t) ∧
    ∃ x t, runMain fs name s = some (x, t) ∧
      (∀ depth, importDepth fs [name] ≤ depth →
        importWithin fs depth name (s.setEntryPoint (some name)) = some (x, t)) ∧
      Courses (· ∈ fs.mentioned [name]) (s.setEntryPoint (some name)) (outcome x) t := by
  refine ⟨importModule_courses reached.consistent fs name, ?_⟩
  rw [runMain_eq]
  exact importModule_courses (reached.called (.setEntryPoint s (some name))).consistent fs name

/-- A package `p` that imports its submodule `q`, which imports the package and itself. There is also
a link that leads to itself. -/
def cyclicFiles : FileSystem where
  entries := [("r", .directory [
    ("p", .directory [
      ("__init__.pyf", .file (Artifact.frame
        (Artifact.body.write ⟨"p", "p.py", [.importName "p.q" none]⟩))),
      ("q.pyf", .file (Artifact.frame
        (Artifact.body.write
          ⟨"p.q", "q.py", [.importName "p" none, .importName "p.q" (some "q")]⟩)))]),
    ("l.pyf", .link ⟨"l.pyf"⟩)])]
  workingDirectory := .top

theorem calls_end_cyclicFiles :
    (∃ x t, importModule cyclicFiles "p.q" fresh = some (x, t) ∧
      x.toOption = some ⟨1, "p.q"⟩ ∧ t.modules = ["p", "p.q"]) ∧
    ∃ x t, runMain cyclicFiles "p.q" fresh = some (x, t) ∧
      x.toOption = some ⟨1, "__main__"⟩ ∧ t.modules = ["__main__", "p"] := by
  have imported : (importModule cyclicFiles "p.q" fresh).map (fun p => (p.1.toOption, p.2.modules)) =
      some (some ⟨1, "p.q"⟩, ["p", "p.q"]) := by decide +kernel
  have ran : (runMain cyclicFiles "p.q" fresh).map (fun p => (p.1.toOption, p.2.modules)) =
      some (some ⟨1, "__main__"⟩, ["__main__", "p"]) := by decide +kernel
  obtain ⟨⟨x, t, call, -, -⟩, y, u, main, -, -⟩ :=
    calls_end reached_fresh cyclicFiles "p.q"
  rw [call] at imported
  rw [main] at ran
  obtain ⟨module, modules⟩ := Prod.mk.inj (Option.some.inj imported)
  obtain ⟨module', modules'⟩ := Prod.mk.inj (Option.some.inj ran)
  exact ⟨⟨x, t, call, module, modules⟩, y, u, main, module', modules'⟩

end Interpreter

end ModuleImport
