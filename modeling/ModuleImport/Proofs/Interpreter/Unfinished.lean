import ModuleImport.Proofs.Interpreter.Failing

namespace ModuleImport

/-- The name of the load that a link of an error chain is about, if a body has failed in it. -/
def LoadError.execution? : LoadError RunError → Option String
  | execution name _ => some name
  | _ => none

/-- The names of the loads whose bodies have failed, from the outside in. -/
def RunError.executions (e : RunError) : List String :=
  e.chain.filterMap LoadError.execution?

/-- The name that an event registers, if no event of all finishes the load. -/
def Event.unfinished? (all : List Event) : Event → Option String
  | registered name module => if all.any (·.finishes module) then none else some name
  | _ => none

/-- The names of the loads that events register and do not finish, in the order of the events. -/
def unfinished (events : List Event) : List String :=
  events.filterMap (Event.unfinished? events)

theorem RunError.executions_execution (name : String) (e : RunError) :
    (failedLoad (.execution name e)).executions = name :: e.executions := rfl

theorem RunError.executions_of_not_host {cause : LoadError RunError}
    (notHost : cause.hostError? = none) : (failedLoad cause).executions = [] := by
  rw [executions, chain_of_not_host notHost]
  cases cause with
  | execution => cases notHost
  | _ => rfl

theorem unfinished_of_finished {events : List Event} (finished : Interpreter.Finished events) :
    unfinished events = [] := by
  apply List.filterMap_eq_nil_iff.mpr
  intro event member
  cases event with
  | registered name module =>
    have ended := finished name module member
    simp [Event.unfinished?, ended]
  | _ => rfl

theorem any_finishes_of_apart {events : List Event} {module : Module}
    (apart : ∀ event ∈ events, event.load? ≠ some module) :
    events.any (·.finishes module) = false := by
  apply List.any_eq_false.mpr
  intro event member finishes
  apply apart event member
  cases event with
  | finished other artifact => exact congrArg some (of_decide_eq_true finishes)
  | _ => cases finishes

theorem Event.unfinished?_congr {all all' : List Event} (event : Event)
    (same : ∀ module, event.load? = some module →
      all.any (·.finishes module) = all'.any (·.finishes module)) :
    event.unfinished? all = event.unfinished? all' := by
  cases event with
  | registered name module =>
    simp only [unfinished?, same module rfl]
  | _ => rfl

theorem unfinished_append {later earlier : List Event}
    (apart : ∀ event ∈ later, ∀ event' ∈ earlier, ∀ module, event.load? = some module →
      event'.load? ≠ some module) :
    unfinished (later ++ earlier) = unfinished later ++ unfinished earlier := by
  have first : ∀ event ∈ later,
      event.unfinished? (later ++ earlier) = event.unfinished? later := by
    refine fun event member => event.unfinished?_congr fun module about => ?_
    rw [List.any_append, any_finishes_of_apart fun event' member' =>
      apart event member event' member' module about, Bool.or_false]
  have second : ∀ event ∈ earlier,
      event.unfinished? (later ++ earlier) = event.unfinished? earlier := by
    refine fun event member => event.unfinished?_congr fun module about => ?_
    rw [List.any_append, any_finishes_of_apart fun event' member' about' =>
      apart event' member' event member module about' about, Bool.false_or]
  unfold unfinished
  rw [List.filterMap_append, List.filterMap_congr first, List.filterMap_congr second]

namespace Interpreter

variable {fs : FileSystem} {roots : List String} {name : String} {site? : Option Site}
  {e : RunError} {s t u v : Interpreter} {done done' : List Event}

theorem Goes.unfinished_append (st : Goes s t done) (tu : Goes t u done') :
    unfinished (done' ++ done) = unfinished done' ++ unfinished done := by
  apply ModuleImport.unfinished_append
  intro event member event' member' module about about'
  exact (tu.new event member module about).1 (st.new event' member' module about').2

theorem unfinished_startEvents (plan : LoadPlan) (s : Interpreter) :
    unfinished (s.startEvents plan) = [plan.target] := rfl

theorem Cause.executions (cause : Cause fs roots s site? e) : e.executions = [] := by
  cases cause with
  | planFailed _ _ failed =>
    exact RunError.executions_of_not_host (LoadPlan.hostError?_of_find failed)
  | _ => rfl

/-- Among the events a load was registered and its body has begun, from an artifact whose code
raises the message. -/
def Raises (fs : FileSystem) (events : List Event) (name message : String) (artifact : Path) :
    Prop :=
  ∃ module code bytes, .registered name module ∈ events ∧ .began module code artifact ∈ events ∧
    .raise message ∈ code.instructions ∧ fs.read artifact = .ok bytes ∧
    Artifact.decode bytes = .ok code

/-- Where the root cause of an error was raised: in the body that the run is part of, or else in the
innermost of the loads that it has started. -/
inductive RaisedAt (fs : FileSystem) (site? : Option Site) (e : RunError) (events : List Event)
    (name message : String) (artifact : Path) : Prop
  | here {site : Site} : site? = some site → site.module.name = name → site.artifact = artifact →
      .raise message ∈ site.code.instructions → e.executions = [] →
      RaisedAt fs site? e events name message artifact
  | inside : e.executions.getLast? = some name → Raises fs events name message artifact →
      RaisedAt fs site? e events name message artifact

/-- How a run from `s` to `t` has failed: it has gone forward by `done` up to the failure, and back
by `unwound`. -/
structure Failure (fs : FileSystem) (site? : Option Site) (s : Interpreter) (e : RunError)
    (t : Interpreter) (done unwound : List Event) : Prop where
  failed : ∃ p, Goes s p done ∧ t.trace = unwound ++ p.trace
  back : ∀ event ∈ unwound, event.unwinds = true
  stack : unfinished done = e.executions.reverse
  distinct : e.executions.Nodup
  before : ∀ name ∈ e.executions, s.lookup name = none
  after : ∀ name ∈ e.executions, t.lookup name = none
  raised : ∀ name message artifact, e.rootCause = .raised name message artifact →
    RaisedAt fs site? e done name message artifact

theorem Advances.absent (advances : Advances fs roots s t) {key : String}
    (absent : t.lookup key = none) : s.lookup key = none := by
  cases registered : s.lookup key with
  | none => rfl
  | some module =>
    rw [advances.continues.settles.registered key module registered] at absent
    cases absent

theorem Cause.raisedAt {name message : String} {artifact : Path} (cause : Cause fs roots s site? e)
    (root : e.rootCause = .raised name message artifact) :
    RaisedAt fs site? e done name message artifact := by
  cases cause with
  | raised member =>
    cases root
    exact .here rfl rfl rfl member rfl
  | planFailed _ _ failed =>
    have notHost := LoadPlan.hostError?_of_find failed
    rw [RunError.rootCause_of_not_hasInnerCause (by simp [RunError.hasInnerCause, notHost])] at root
    cases root
  | _ => cases root

section Loads

variable {parent? : Option Module} {importer : Importer} {plan : LoadPlan}

/-- What is not registered when a body starts was not so before, and is not the load itself. -/
theorem absent_of_started (absent : s.lookup plan.target = none) {key : String}
    (free : (s.started importer plan).lookup key = none) :
    key ≠ plan.target ∧ s.lookup key = none := by
  rw [lookup_started importer absent] at free
  split at free
  · cases free
  · rename_i other
    exact ⟨other, free⟩

theorem RaisedAt.abandoned {message : String} {artifact : Path} {key : String}
    (loadable : Loadable fs name parent? importer plan u) (first : List Event)
    (raised : RaisedAt fs (some ⟨u.loading plan, plan.code, plan.artifact⟩) e done key message
      artifact) :
    RaisedAt fs site? (.failedLoad (.execution plan.target e))
      (done ++ (u.startEvents plan ++ first)) key message artifact := by
  have started {event : Event} (member : event ∈ u.startEvents plan) :
      event ∈ done ++ (u.startEvents plan ++ first) :=
    List.mem_append_right _ (List.mem_append_left _ member)
  cases raised with
  | here same named from_ member none =>
    cases same
    obtain ⟨_, -, isFor⟩ := LoadPlan.isFor_of_find loadable.found
    obtain ⟨bytes, read, decoded⟩ := isFor.code
    rw [loadable.name_loading] at named
    subst named from_
    refine .inside ?_ ⟨u.loading plan, plan.code, bytes, ?_, ?_, member, read, decoded⟩
    · rw [RunError.executions_execution, none]
      rfl
    · exact started (List.mem_cons_of_mem _ List.mem_cons_self)
    · exact started List.mem_cons_self
  | inside last raises =>
    obtain ⟨module, code, bytes, registered, began, rest⟩ := raises
    refine .inside ?_ ⟨module, code, bytes, List.mem_append_left _ registered,
      List.mem_append_left _ began, rest⟩
    rw [RunError.executions_execution, List.getLast?_cons, last]
    rfl

theorem Failure.abandoned {unwound : List Event} (advances : Advances fs roots s u)
    (loadable : Loadable fs name parent? importer plan u)
    (failure : Failure fs (some ⟨u.loading plan, plan.code, plan.artifact⟩)
      (u.started importer plan) e v done unwound) :
    ∃ done' unwound', Failure fs site? s (.failedLoad (.execution plan.target e))
      (u.abandoned plan v) done' unwound' := by
  have absent := loadable.unregistered
  obtain ⟨first, goes, finished⟩ := advances.completes rfl
  obtain ⟨p, onwards, trace⟩ := failure.failed
  have start := goes_started importer absent
  refine ⟨done ++ (u.startEvents plan ++ first),
    .removed plan.target :: .stopped (u.loading plan) plan.artifact :: unwound,
    ⟨p, (goes.trans start).trans onwards, ?_⟩, ?_, ?_, ?_, ?_, ?_, ?_⟩
  · rw [abandoned_of_absent absent, remove, record, record, trace]
    rfl
  · exact List.forall_mem_cons.mpr ⟨rfl, List.forall_mem_cons.mpr ⟨rfl, failure.back⟩⟩
  · rw [(goes.trans start).unfinished_append onwards, goes.unfinished_append start, failure.stack,
      unfinished_startEvents, unfinished_of_finished finished, RunError.executions_execution,
      List.reverse_cons, List.append_nil]
  · rw [RunError.executions_execution]
    refine List.nodup_cons.mpr ⟨fun member => ?_, failure.distinct⟩
    -- the load itself is registered while its body runs
    exact (absent_of_started absent (failure.before _ member)).1 rfl
  · rw [RunError.executions_execution]
    refine List.forall_mem_cons.mpr ⟨advances.absent absent, fun key member => ?_⟩
    exact advances.absent (absent_of_started absent (failure.before key member)).2
  · rw [RunError.executions_execution]
    refine List.forall_mem_cons.mpr ⟨?_, fun key member => ?_⟩
    · simp [absent]
    · simp [absent, failure.after key member]
  · intro key message artifact root
    exact (failure.raised key message artifact root).abandoned loadable first

end Loads

theorem Fails.failure (fails : Fails fs roots site? s e t) :
    ∃ done unwound, Failure fs site? s e t done unwound := by
  induction fails with
  | @cause _ s e t advances cause =>
    obtain ⟨done, goes, finished⟩ := advances.completes rfl
    have none := cause.executions
    refine ⟨done, [], ⟨t, goes, rfl⟩, List.forall_mem_nil _, ?_, ?_, ?_, ?_, ?_⟩
    · rw [unfinished_of_finished finished, none]
      rfl
    · simp [none]
    · simp [none]
    · simp [none]
    · exact fun _ _ _ root => cause.raisedAt root
  | inside advances _ loadable _ _ ih =>
    obtain ⟨done, unwound, failure⟩ := ih
    exact failure.abandoned advances loadable

/-- The error of a failed call names the loads that were under way, the outermost first: those that
the call had registered and not finished when it failed. They are pairwise different, and none of
them is registered before or after the call. What was raised at the root of the error was raised by
the innermost of them, in the code of the artifact that its body was executed from. -/
theorem executions_eq_unfinished (reached : Reached s)
    (call : importModule fs name s = some (.error e, t) ∨ runMain fs name s = some (.error e, t)) :
    ∃ done unwound, t.trace = unwound ++ (done ++ s.trace) ∧
      (∀ event ∈ done, event.unwinds = false) ∧ (∀ event ∈ unwound, event.unwinds = true) ∧
      e.executions = (unfinished done).reverse ∧ e.executions.Nodup ∧
      (∀ key ∈ e.executions, s.lookup key = none ∧ t.lookup key = none) ∧
      ∀ key message artifact, e.rootCause = .raised key message artifact →
        e.executions.getLast? = some key ∧ Raises fs done key message artifact := by
  obtain ⟨u, same, lookup, fails⟩ : ∃ u : Interpreter, u.trace = s.trace ∧
      (∀ key, u.lookup key = s.lookup key) ∧ Fails fs [name] none u e t := by
    rcases call with imported | ran
    · exact ⟨s, rfl, fun _ => rfl, importWithin_fails fs [name] _
        (.requested List.mem_cons_self) reached.consistent imported⟩
    · rw [runMain_eq] at ran
      have start := reached.called (.setEntryPoint s (some name))
      exact ⟨s.setEntryPoint (some name), rfl, fun _ => rfl, importWithin_fails fs [name] _
        (.requested List.mem_cons_self) start.consistent ran⟩
  obtain ⟨done, unwound, failure⟩ := fails.failure
  obtain ⟨p, goes, trace⟩ := failure.failed
  refine ⟨done, unwound, ?_, goes.forward, failure.back, ?_, failure.distinct, ?_, ?_⟩
  · rw [trace, goes.trace, same]
  · rw [failure.stack, List.reverse_reverse]
  · intro key member
    rw [← lookup key]
    exact ⟨failure.before key member, failure.after key member⟩
  · intro key message artifact root
    cases failure.raised key message artifact root with
    | here absurd => cases absurd
    | inside last raises => exact ⟨last, raises⟩

/-- A module `a` that imports `leaf` and then the submodule `q` of a package, which imports `b`, and
the body of `b` fails. -/
def failingFiles : FileSystem where
  entries := [("r", .directory [
    ("a.pyf", .file (Artifact.frame
      (Artifact.body.write ⟨"a", "a.py", [.importName "leaf" none, .importName "p.q" none]⟩))),
    ("b.pyf", .file (Artifact.frame (Artifact.body.write ⟨"b", "b.py", [.raise "no"]⟩))),
    ("leaf.pyf", .file (Artifact.frame (Artifact.body.write ⟨"leaf", "leaf.py", []⟩))),
    ("p", .directory [
      ("__init__.pyf", .file (Artifact.frame (Artifact.body.write ⟨"p", "p.py", []⟩))),
      ("q.pyf", .file (Artifact.frame
        (Artifact.body.write ⟨"p.q", "q.py", [.importName "b" none]⟩)))])])]
  workingDirectory := .top

theorem executions_eq_unfinished_failingFiles :
    ∃ e t done, runMain failingFiles "a" fresh = some (.error e, t) ∧
      t.modules = ["leaf", "p"] ∧ e.rootCause = .raised "b" "no" ⟨"/r/b.pyf"⟩ ∧
      unfinished done = ["b", "p.q", "__main__"] ∧
      Raises failingFiles done "b" "no" ⟨"/r/b.pyf"⟩ := by
  have ran : (runMain failingFiles "a" fresh).map (fun p =>
        (p.2.modules, match p.1 with | .error e => e.executions | .ok _ => [])) =
      some (["leaf", "p"], ["__main__", "p.q", "b"]) := by decide +kernel
  have root : (runMain failingFiles "a" fresh).map (fun p => match p.1 with
        | .error e => (match e.rootCause with
          | .raised name message artifact => some (name, message, artifact)
          | _ => none)
        | .ok _ => none) = some (some ("b", "no", ⟨"/r/b.pyf"⟩)) := by decide +kernel
  obtain ⟨⟨x, t⟩, call, same⟩ := Option.map_eq_some_iff.mp ran
  obtain ⟨modules, names⟩ := Prod.mk.inj same
  rw [call] at root
  cases x with
  | ok _ => cases names
  | error e =>
    have isRaised : e.rootCause = .raised "b" "no" ⟨"/r/b.pyf"⟩ := by
      have raised := Option.some.inj root
      dsimp only at raised
      split at raised
      · rename_i isRaised
        cases raised
        exact isRaised
      · cases raised
    obtain ⟨done, _, _, _, _, stack, _, _, raised⟩ :=
      executions_eq_unfinished reached_fresh (.inr call)
    have reversed : (unfinished done).reverse = ["__main__", "p.q", "b"] := stack.symm.trans names
    exact ⟨e, t, done, call, modules, isRaised, List.reverse_eq_iff.mp reversed,
      (raised _ _ _ isRaised).2⟩

end Interpreter

end ModuleImport
