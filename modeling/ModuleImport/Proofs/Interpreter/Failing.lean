import ModuleImport.Proofs.Interpreter.Registering

namespace ModuleImport

open Run Body

/-- The module of a load, where the load registers it and where its body has run to its end. -/
def Event.load? : Event → Option Module
  | registered _ module => some module
  | finished module _ => some module
  | _ => none

/-- Whether the body of a module runs to its end with an event. -/
def Event.finishes (module : Module) : Event → Bool
  | finished other _ => other = module
  | _ => false

theorem LoadPlan.hostError?_of_find {ε : Type} {fs : FileSystem} {importer : Importer}
    {entryPoint : Option String} {name : String} {e : LoadError ε}
    (failed : find fs importer entryPoint name = .error e) : e.hostError? = none := by
  unfold find make at failed
  repeat' split at failed
  all_goals cases failed
  all_goals rfl

theorem RunError.chain_of_not_host {cause : LoadError RunError}
    (notHost : cause.hostError? = none) : (failedLoad cause).chain = [cause] := by
  cases cause with
  | registry => cases notHost
  | execution => cases notHost
  | _ => rfl

namespace Interpreter

/-- A run from `s` to `t` that goes forward by the events `done`. What it loads is new. -/
structure Goes (s t : Interpreter) (done : List Event) : Prop where
  trace : t.trace = done ++ s.trace
  forward : ∀ event ∈ done, event.unwinds = false
  grows : s.store.attributes.size ≤ t.store.attributes.size
  new : ∀ event ∈ done, ∀ module, event.load? = some module → ¬s.Owns module ∧ t.Owns module

/-- Every load that was registered by one of the events was finished by one. -/
def Finished (events : List Event) : Prop :=
  ∀ name module, .registered name module ∈ events → events.any (·.finishes module) = true

variable {fs : FileSystem} {roots : List String} {name : String} {depth : Nat}
  {s t u v : Interpreter} {done done' : List Event}

theorem Goes.still (size : t.store.attributes.size = s.store.attributes.size)
    (trace : t.trace = s.trace) : Goes s t [] where
  trace := trace
  forward _ member := by cases member
  grows := Nat.le_of_eq size.symm
  new _ member := by cases member

theorem Goes.silent {event : Event} (grows : s.store.attributes.size ≤ t.store.attributes.size)
    (trace : t.trace = event :: s.trace) (forward : event.unwinds = false)
    (silent : event.load? = none) : Goes s t [event] where
  trace := trace
  forward := List.forall_mem_singleton.mpr forward
  grows := grows
  new other member module about := by
    rw [List.mem_singleton.mp member, silent] at about
    cases about

theorem Goes.trans (st : Goes s t done) (tu : Goes t u done') : Goes s u (done' ++ done) where
  trace := by rw [tu.trace, st.trace, List.append_assoc]
  forward event member :=
    (List.mem_append.mp member).elim (tu.forward event) (st.forward event)
  grows := Nat.le_trans st.grows tu.grows
  new event member module about := by
    rcases List.mem_append.mp member with later | earlier
    · obtain ⟨foreign, owned⟩ := tu.new event later module about
      exact ⟨fun early => foreign (Nat.lt_of_lt_of_le early st.grows), owned⟩
    · obtain ⟨foreign, owned⟩ := st.new event earlier module about
      exact ⟨foreign, Nat.lt_of_lt_of_le owned tu.grows⟩

theorem finished_nil : Finished [] := fun _ _ member => by cases member

theorem finished_singleton {event : Event} (silent : event.load? = none) : Finished [event] := by
  intro name module member
  rw [← List.mem_singleton.mp member] at silent
  cases silent

theorem Finished.append (earlier : Finished done) (later : Finished done') :
    Finished (done' ++ done) := by
  intro name module member
  rw [List.any_append, Bool.or_eq_true]
  rcases List.mem_append.mp member with member | member
  · exact .inl (later name module member)
  · exact .inr (earlier name module member)

section Loads

variable {parent? : Option Module} {importer : Importer} {plan : LoadPlan}

theorem size_started (importer : Importer) (absent : s.lookup plan.target = none) :
    (s.started importer plan).store.attributes.size = s.store.attributes.size + 1 :=
  (started_of_absent importer absent).size.trans (size_announced plan s)

theorem owns_loading_started (importer : Importer) (absent : s.lookup plan.target = none) :
    (s.started importer plan).Owns (s.loading plan) :=
  owns_loading absent (Nat.le_of_eq (started_of_absent importer absent).size.symm)

theorem goes_started (importer : Importer) (absent : s.lookup plan.target = none) :
    Goes s (s.started importer plan) (s.startEvents plan) where
  trace := trace_started importer absent
  forward := List.forall_mem_cons.mpr ⟨rfl, List.forall_mem_singleton.mpr rfl⟩
  grows := by
    rw [size_started importer absent]
    exact Nat.le_succ _
  new event member module about := by
    have own : module = s.loading plan := by
      rcases List.mem_cons.mp member with rfl | member
      · cases about
      · rw [List.mem_singleton.mp member] at about
        exact (Option.some.inj about).symm
    rw [own]
    exact ⟨not_owns_loading absent, owns_loading_started importer absent⟩

theorem goes_completed (importer : Importer) (parent? : Option Module) (name : String)
    (absent : s.lookup plan.target = none) (body : Goes (s.started importer plan) t done)
    (finished : Finished done) :
    ∃ done', Goes s ((s.completed plan t).bindOnParent parent? name (s.loading plan)) done' ∧
      Finished done' := by
  have ran := (goes_started importer absent).trans body
  refine ⟨.finished (s.loading plan) plan.artifact :: (done ++ s.startEvents plan),
    ⟨?_, ?_, ?_, ?_⟩, ?_⟩
  · simp [completed, record, ran.trace]
  · exact List.forall_mem_cons.mpr ⟨rfl, ran.forward⟩
  · simpa [completed, record] using ran.grows
  · unfold Owns
    rw [size_bindOnParent]
    refine List.forall_mem_cons.mpr ⟨fun module about => ?_, ran.new⟩
    cases about
    exact ⟨not_owns_loading absent,
      Nat.lt_of_lt_of_le (owns_loading_started importer absent) body.grows⟩
  · intro name module member
    rw [List.any_cons, Bool.or_eq_true]
    rcases List.mem_cons.mp member with absurd | member
    · cases absurd
    rcases List.mem_append.mp member with member | member
    · right
      rw [List.any_append, finished name module member]
      rfl
    · left
      rcases List.mem_cons.mp member with absurd | member
      · cases absurd
      · cases List.mem_singleton.mp member
        exact decide_eq_true rfl

end Loads

/-- A run that ends well goes forward and has finished what it loads. -/
def Completes (s : Interpreter) (x : Except RunError Unit) (t : Interpreter) : Prop :=
  x = .ok () → ∃ done, Goes s t done ∧ Finished done

theorem maintained_completes (fs : FileSystem) : Maintained fs (fun _ => True) Completes where
  refl _ _ := ⟨[], .still rfl rfl, finished_nil⟩
  failed _ _ absurd := by cases absurd
  trans _ _ st tu ok := by
    obtain ⟨done, goes, finished⟩ := st rfl
    obtain ⟨done', goes', finished'⟩ := tu ok
    exact ⟨done' ++ done, goes.trans goes', finished.append finished'⟩
  printed _ _ _ := ⟨[], .still rfl rfl, finished_nil⟩
  written _ _ _ _ _ _ := ⟨[], .still (by simp) rfl, finished_nil⟩
  noted _ _ _ := ⟨_, .silent (Nat.le_refl _) rfl rfl rfl, finished_singleton rfl⟩
  looked {s} entry _ _ := ⟨[], .still (by simp) (by simp), finished_nil⟩
  assembled {s name parent? portions} _ ready _ := by
    refine ⟨[.assembled (s.registeredName name) (s.assemble name portions).1 portions],
      .silent ?_ ?_ rfl rfl, finished_singleton rfl⟩
    · simpa using (consistent_assembled ready).settles.grows
    · rw [trace_bindOnParent]
      rfl
  completed {s t name parent? importer plan} _ loadable _ body _ := by
    obtain ⟨done, goes, finished⟩ := body rfl
    exact goes_completed importer parent? name loadable.unregistered goes finished
  abandoned _ _ _ _ absurd := by cases absurd

theorem closed_true (fs : FileSystem) : Closed fs fun _ => True where
  parent _ _ := trivial
  top _ _ := trivial
  imported _ := trivial

/-- A part of a run that has gone well: what is known of it whether or not the run fails later. -/
structure Advances (fs : FileSystem) (roots : List String) (s t : Interpreter) : Prop where
  changes : Changes fs roots s t
  continues : s.Continues t
  completes : Completes s (.ok ()) t

theorem Advances.refl (consistent : s.Consistent) : Advances fs roots s s :=
  ⟨.refl, .refl consistent, (maintained_completes fs).refl s⟩

theorem Advances.trans (consistent : s.Consistent) (st : Advances fs roots s t)
    (tu : Advances fs roots t u) : Advances fs roots s u :=
  ⟨st.changes.trans tu.changes, st.continues.trans tu.continues,
    (maintained_completes fs).trans consistent st.continues st.completes tu.completes⟩

/-- A module whose body runs, with its code and the artifact that it comes from. -/
structure Site where
  module : Module
  code : Code
  artifact : Path

/-- The reasons for which a run fails by itself. Some of them lie in an instruction of the body that
runs, which an import for itself does not have. -/
inductive Cause (fs : FileSystem) (roots : List String) (s : Interpreter) :
    Option Site → RunError → Prop
  | unimportable {site? name} : s.Wanted roots name → Name.isImportable name = false →
      Cause fs roots s site? (.moduleNotFound name)
  | notAPackage {site? name parent} : s.Wanted roots name → s.ParentOf name (some parent) →
      s.store.searchPath? parent = none → Cause fs roots s site? (.notAPackage name parent.name)
  | notFound {site? name parent?} : s.Wanted roots name → Ready fs name parent? (.portions []) s →
      Cause fs roots s site? (.moduleNotFound name)
  | probeFailed {site? name directories e} {t : Interpreter} : s.Wanted roots name → t.Consistent →
      t.search fs name directories = (.error e, s) → Cause fs roots s site? (.failedLoad (.probe e))
  | planFailed {site? name parent? importer e} : s.Wanted roots name →
      Ready fs name parent? (.loader importer) s →
      LoadPlan.find fs importer (s.store.entryPointOf importer) name = .error e →
      Cause fs roots s site? (.failedLoad e)
  | missing {site : Site} {target source} : .copy target source ∈ site.code.instructions →
      s.store.get? site.module source = none →
      Cause fs roots s (some site) (.attributeNotFound site.module.name source)
  | raised {site : Site} {message} : .raise message ∈ site.code.instructions →
      Cause fs roots s (some site) (.raised site.module.name message site.artifact)

/-- The ways in which a run fails, seen from a body that it is part of, if there is one. -/
inductive Fails (fs : FileSystem) (roots : List String) :
    Option Site → Interpreter → RunError → Interpreter → Prop
  | cause {site? s e t} : Advances fs roots s t → Cause fs roots t site? e →
      Fails fs roots site? s e t
  /-- The body of a load that was started has failed. -/
  | inside {site? s e u v name parent? importer plan} : Advances fs roots s u →
      u.Wanted roots name → Loadable fs name parent? importer plan u →
      Fails fs roots (some ⟨u.loading plan, plan.code, plan.artifact⟩) (u.started importer plan) e
        v →
      (u.started importer plan).Continues v →
      Fails fs roots site? s (.failedLoad (.execution plan.target e)) (u.abandoned plan v)

theorem Cause.within {e : RunError} (cause : Cause fs roots s none e) (site? : Option Site) :
    Cause fs roots s site? e := by
  cases cause with
  | unimportable wanted importable => exact .unimportable wanted importable
  | notAPackage wanted parent none => exact .notAPackage wanted parent none
  | notFound wanted ready => exact .notFound wanted ready
  | probeFailed wanted consistent search => exact .probeFailed wanted consistent search
  | planFailed wanted ready failed => exact .planFailed wanted ready failed

variable {site? : Option Site} {e : RunError}

theorem Fails.within (fails : Fails fs roots none s e t) (site? : Option Site) :
    Fails fs roots site? s e t := by
  cases fails with
  | cause advances cause => exact .cause advances (cause.within site?)
  | inside advances wanted loadable body continues =>
    exact .inside advances wanted loadable body continues

theorem Fails.after (consistent : s.Consistent) (advances : Advances fs roots s t)
    (fails : Fails fs roots site? t e u) : Fails fs roots site? s e u := by
  cases fails with
  | cause later cause => exact .cause (advances.trans consistent later) cause
  | inside later wanted loadable body continues =>
    exact .inside (advances.trans consistent later) wanted loadable body continues

/-- What is shown of imports that are nested less deeply. -/
def FailingWithin (fs : FileSystem) (roots : List String) (depth : Nat) : Prop :=
  ∀ {name s e t}, s.Wanted roots name → s.Consistent →
    importWithin fs depth name s = some (.error e, t) → Fails fs roots none s e t

theorem importWithin_advances {module : Module} (wanted : s.Wanted roots name)
    (consistent : s.Consistent) (h : importWithin fs depth name s = some (.ok module, t)) :
    Advances fs roots s t where
  changes := importWithin_changes fs roots depth wanted consistent h
  continues := importWithin_continues consistent h
  completes := importWithin_maintains (maintained_completes fs) (closed_true fs) depth trivial
    consistent h

theorem importParent_advances {parent? : Option Module} (wanted : s.Wanted roots name)
    (consistent : s.Consistent)
    (h : importParent (importWithin fs depth) name s = some (.ok parent?, t)) :
    Advances fs roots s t := by
  obtain ⟨_, _, rfl⟩ | ⟨parent, y, isParent, imported, same⟩ := importParent_inv h
  · exact .refl consistent
  · cases y with
    | error e => cases same
    | ok module => exact importWithin_advances (.parent wanted isParent) consistent imported

theorem searching_advances (wanted : s.Wanted roots name) (consistent : s.Consistent)
    {parent? : Option Module} {directories : List Path} {found : _}
    (searching : Searching (importWithin fs depth) name s parent? directories t)
    (search : t.search fs name directories = (found, u)) :
    Advances fs roots s u ∧ u.Wanted roots name := by
  have parent := importParent_advances wanted consistent searching.parent
  have between := parent.continues.consistent
  have looked : Advances fs roots t u := ⟨search_changes between search,
    search_continues between search, search_maintains (maintained_completes fs) between search⟩
  have advances := parent.trans consistent looked
  exact ⟨advances, wanted.later advances.continues.settles.remembered⟩

theorem instruction_advances (consistent : s.Consistent) {module : Module} {code : Code}
    {artifact : Path} (running : s.Running module code artifact) {instruction : Instruction}
    (member : instruction ∈ code.instructions)
    (h : runInstruction (importWithin fs depth) module artifact instruction s =
      some (.ok (), t)) : Advances fs roots s t := by
  have imports : ∀ name ∈ instruction.imports, name ∈ code.imports :=
    fun name asked => List.mem_flatMap.mpr ⟨instruction, member, asked⟩
  have writes : ∀ attr ∈ instruction.writes, attr ∈ code.writes :=
    fun attr bound => List.mem_flatMap.mpr ⟨instruction, member, bound⟩
  have ended := instructed_of_runInstruction h
  refine ⟨?_, ?_, ?_⟩
  · exact instruction_changes (importWithin_changes fs roots depth) consistent running imports
      writes ended
  · exact instruction_continues consistent h
  · exact instruction_maintains (maintained_completes fs) (closed_true fs)
      (importWithin_maintains (maintained_completes fs) (closed_true fs) depth) consistent
      (consistent.sound.owned running.registered) running.began (fun _ _ => trivial) writes ended

theorem instruction_fails (nested : FailingWithin fs roots depth) (consistent : s.Consistent)
    {site : Site} (running : s.Running site.module site.code site.artifact)
    {instruction : Instruction} (member : instruction ∈ site.code.instructions)
    (h : runInstruction (importWithin fs depth) site.module site.artifact instruction s =
      some (.error e, t)) : Fails fs roots (some site) s e t := by
  have wanted {name : String} (asked : name ∈ instruction.imports) : s.Wanted roots name :=
    .imported running.began (List.mem_flatMap.mpr ⟨instruction, member, asked⟩)
  cases instructed_of_runInstruction h with
  | importFailed failed =>
    exact (nested (wanted List.mem_cons_self) consistent failed).within _
  | outermostFailed got failed =>
    have first := importWithin_advances (wanted List.mem_cons_self) consistent got
    have outermost := ((wanted List.mem_cons_self).top (isImportable_of_importWithin got)).later
      first.continues.settles.remembered
    exact ((nested outermost first.continues.consistent failed).within _).after consistent first
  | missing absent => exact .cause (.refl consistent) (.missing member absent)
  | raised => exact .cause (.refl consistent) (.raised member)

theorem body_fails (nested : FailingWithin fs roots depth) (consistent : s.Consistent) {site : Site}
    (running : s.Running site.module site.code site.artifact)
    (h : runInstructions (importWithin fs depth) site.module site.artifact site.code.instructions
      s = some (.error e, t)) : Fails fs roots (some site) s e t := by
  have goesOn {u v : Interpreter} (instruction) (member : instruction ∈ site.code.instructions)
      (before : Advances fs roots s u)
      (ran : runInstruction (importWithin fs depth) site.module site.artifact instruction u =
        some (.ok (), v)) : Advances fs roots s v := by
    have still := running.later before.continues
    exact before.trans consistent
      (instruction_advances before.continues.consistent still member ran)
  have stops {u v : Interpreter} {e : RunError} (instruction)
      (member : instruction ∈ site.code.instructions) (before : Advances fs roots s u)
      (failed : runInstruction (importWithin fs depth) site.module site.artifact instruction u =
        some (.error e, v)) : Fails fs roots (some site) s e v := by
    have still := running.later before.continues
    have fails := instruction_fails nested before.continues.consistent still member failed
    exact fails.after consistent before
  obtain ⟨absurd, -⟩ | ⟨_, same, fails⟩ := runInstructions_induct goesOn stops (.refl consistent) h
  · cases absurd
  · cases same
    exact fails

theorem importParent_fails (nested : FailingWithin fs roots depth) (wanted : s.Wanted roots name)
    (consistent : s.Consistent)
    (h : importParent (importWithin fs depth) name s = some (.error e, t)) :
    Fails fs roots none s e t := by
  obtain ⟨_, absurd, -⟩ | ⟨parent, y, isParent, imported, same⟩ := importParent_inv h
  · cases absurd
  · cases y with
    | ok module => cases same
    | error e' =>
      cases same
      exact nested (.parent wanted isParent) consistent imported

theorem level_fails (nested : FailingWithin fs roots depth) (wanted : s.Wanted roots name)
    (consistent : s.Consistent) (level : Level fs (importWithin fs depth) name s (.error e) t) :
    Fails fs roots none s e t := by
  have searches {parent? directories found t u}
      (searching : Searching (importWithin fs depth) name s parent? directories t)
      (search : t.search fs name directories = (found, u)) :=
    searching_advances wanted consistent searching search
  cases level with
  | unimportable importable =>
    exact .cause (.refl consistent) (.unimportable wanted importable)
  | parentFailed _ _ failed => exact importParent_fails nested wanted consistent failed
  | notAPackage _ _ parent none =>
    have advances := importParent_advances wanted consistent parent
    exact .cause advances (.notAPackage (wanted.later advances.continues.settles.remembered)
      (parentOf_of_importParent consistent parent) none)
  | probeFailed searching search =>
    obtain ⟨advances, asked⟩ := searches searching search
    have parent := importParent_continues consistent searching.parent
    exact .cause advances (.probeFailed asked parent.consistent search)
  | notFound searching search =>
    obtain ⟨advances, asked⟩ := searches searching search
    exact .cause advances (.notFound asked (ready_of_search consistent searching search))
  | planFailed searching search failed =>
    obtain ⟨advances, asked⟩ := searches searching search
    exact .cause advances (.planFailed asked (ready_of_search consistent searching search) failed)
  | @bodyFailed _ _ importer plan _ _ _ _ searching search found body =>
    obtain ⟨advances, asked⟩ := searches searching search
    have loadable := loadable_of_search consistent searching search found
    have start := consistent_started importer plan loadable.consistent
    exact .inside advances asked loadable (body_fails nested start loadable.running body)
      (body_continues start body)

theorem importWithin_fails (fs : FileSystem) (roots : List String) (depth : Nat) :
    FailingWithin fs roots depth := by
  induction depth with
  | zero =>
    intro name s e t _ _ h
    cases h
  | succ depth ih =>
    intro name s e t wanted consistent h
    obtain ⟨d, u, same, level, rfl⟩ := importWithin_inv h
    cases same
    exact level_fails ih wanted consistent level

end Interpreter

end ModuleImport
