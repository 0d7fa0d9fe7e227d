import ModuleImport.Loading.Recorder
import ModuleImport.Proofs.Loading.Calls

namespace ModuleImport

variable {m : Type → Type} [Monad m] {μ ε : Type}

/-- The calls that fill a registered module, in their order and still without answers. -/
def LoadPlan.fillCalls (importer : Importer) (plan : LoadPlan) (module : μ) :
    List (Except ε Unit → HostCall μ ε) :=
  [.setAttribute module (.loader importer)] ++
    (plan.searchPath?.toList.map fun directory =>
      .setAttribute module (.searchPath [directory])) ++
    [.execute module plan.code plan.artifact]

/-- Calls that are made one after another up to the first that fails, and the error of that one. -/
inductive InOrder : List (Except ε Unit → HostCall μ ε) → List (HostCall μ ε) → Option ε → Prop
  | done : InOrder [] [] none
  | refused {call : Except ε Unit → HostCall μ ε} {rest} (e : ε) :
      InOrder (call :: rest) [call (.error e)] (some e)
  | answered {call : Except ε Unit → HostCall μ ε} {rest calls failure?} :
      InOrder rest calls failure? → InOrder (call :: rest) (call (.ok ()) :: calls) failure?

/-- The result of a load that has a plan, and the calls that it makes. -/
inductive Protocol (importer : Importer) (plan : LoadPlan) :
    Except (LoadError ε) μ → List (HostCall μ ε) → Prop
  | unregistered (e : ε) :
      Protocol importer plan (.error (.registry plan.target e))
        [.getOrCreate plan.target (.error e)]
  | loaded {found : Registration μ} {calls : List (HostCall μ ε)} :
      InOrder (plan.fillCalls importer found.module) calls none →
      Protocol importer plan (.ok found.module) (.getOrCreate plan.target (.ok found) :: calls)
  | failed {found : Registration μ} {calls : List (HostCall μ ε)} {e : ε} {cause : LoadError ε} :
      InOrder (plan.fillCalls importer found.module) calls (some e) → cause.hostError? = some e →
      Protocol importer plan (.error cause)
        (.getOrCreate plan.target (.ok found) :: calls ++
          if found.created then [.remove plan.target] else [])

/-- What stops a load before the host is asked for anything. -/
inductive Unloadable (fs : FileSystem) : Resolution → Prop
  | nothing : Unloadable fs .nothing
  | portion (directory : Path) : Unloadable fs (.portion directory)
  | unreadable {resolution artifact cause} : resolution.artifact? = some artifact →
      fs.read artifact = .error cause → Unloadable fs resolution
  | corrupt {resolution artifact bytes cause} : resolution.artifact? = some artifact →
      fs.read artifact = .ok bytes → Artifact.decode bytes = .error cause → Unloadable fs resolution

/-- The result of a load and the calls that it makes, for any resolution. -/
structure ByProtocol (fs : FileSystem) (importer : Importer) (entryPoint : Option String)
    (name : String) (resolution : Resolution) (x : Except (LoadError ε) μ)
    (calls : List (HostCall μ ε)) : Prop where
  unloadable : Unloadable fs resolution →
    calls = [] ∧ ∃ cause, x = .error cause ∧ cause.hostError? = none
  loadable : ∀ artifact bytes code, resolution.artifact? = some artifact →
    fs.read artifact = .ok bytes → Artifact.decode bytes = .ok code →
    Protocol importer ⟨Name.registered entryPoint name, artifact, resolution.searchPath?, code⟩ x
      calls
  succeeded : (∃ module, x = .ok module) ↔
    ¬Unloadable fs resolution ∧ ∀ call ∈ calls, call.error? = none
  unchanged : ∀ e, (∃ call ∈ calls, call.error? = some e) ↔
    ∃ cause, x = .error cause ∧ cause.hostError? = some e

namespace InOrder

variable {requests requests' : List (Except ε Unit → HostCall μ ε)}
  {calls calls' : List (HostCall μ ε)} {failure? : Option ε}

theorem append (h : InOrder requests calls none) (h' : InOrder requests' calls' failure?) :
    InOrder (requests ++ requests') (calls ++ calls') failure? := by
  generalize hnone : none = ended at h
  induction h with
  | done => exact h'
  | refused => cases hnone
  | answered _ ih => exact .answered (ih hnone)

theorem append_of_failed {e : ε} (h : InOrder requests calls (some e)) :
    InOrder (requests ++ requests') calls (some e) := by
  generalize hsome : some e = ended at h
  induction h with
  | done => cases hsome
  | refused e' => exact .refused e'
  | answered _ ih => exact .answered (ih hsome)

theorem error?_iff (h : InOrder requests calls failure?)
    (answers : ∀ call ∈ requests, (call (.ok ())).error? = none ∧
      ∀ e, (call (.error e)).error? = some e) (e : ε) :
    (∃ call ∈ calls, call.error? = some e) ↔ failure? = some e := by
  induction h with
  | done => simp
  | refused e' =>
    have refused := (answers _ (List.mem_cons_self ..)).2 e'
    simp [refused]
  | answered _ ih =>
    have answered := (answers _ (List.mem_cons_self ..)).1
    have rest := ih fun call mem => answers call (List.mem_cons_of_mem _ mem)
    simpa [answered] using rest

end InOrder

theorem error?_fillCalls (importer : Importer) (plan : LoadPlan) (module : μ)
    (call : Except ε Unit → HostCall μ ε) (mem : call ∈ plan.fillCalls importer module) :
    (call (.ok ())).error? = none ∧ ∀ e, (call (.error e)).error? = some e := by
  simp only [LoadPlan.fillCalls, List.mem_append, List.mem_singleton, List.mem_map] at mem
  obtain (rfl | ⟨directory, -, rfl⟩) | rfl := mem
  · exact ⟨rfl, fun _ => rfl⟩
  · exact ⟨rfl, fun _ => rfl⟩
  · exact ⟨rfl, fun _ => rfl⟩

/-- How a row of calls ends a load: the error of the last call is the host's error in the result. -/
def EndsAs : Except (LoadError ε) Unit → Option ε → Prop
  | .ok _, failure? => failure? = none
  | .error cause, failure? => ∃ e, failure? = some e ∧ cause.hostError? = some e

/-- The requests are made in order, and the result is that of the last. -/
def Makes (requests : List (Except ε Unit → HostCall μ ε)) :
    Expected μ ε (LoadError ε) Unit := fun x calls =>
  ∃ failure?, InOrder requests calls failure? ∧ EndsAs x failure?

section Rules

variable [LawfulMonad m] {noting rest : Noting m μ ε (LoadError ε) Unit}
  {plain plainRest : ExceptT (LoadError ε) m Unit}
  {requests requests' : List (Except ε Unit → HostCall μ ε)}

theorem notes_request (call : Except ε Unit → HostCall μ ε) (act : ExceptT ε m Unit)
    (wrap : ε → LoadError ε) (hwrap : ∀ e, (wrap e).hostError? = some e) :
    Notes (ExceptT.adapt wrap (.mk (noteCall call act.run))) (ExceptT.adapt wrap act)
      (Makes [call]) := by
  refine ((notes_call call act).adapt wrap).mono fun y calls made => ?_
  obtain ⟨x, rfl, rfl⟩ := made
  cases x with
  | error e => exact ⟨some e, .refused e, e, rfl, hwrap e⟩
  | ok a => exact ⟨none, .answered .done, rfl⟩

theorem Notes.andMakes (h : Notes noting plain (Makes requests))
    (hrest : Notes rest plainRest (Makes requests')) :
    Notes (noting >>= fun _ => rest) (plain >>= fun _ => plainRest)
      (Makes (requests ++ requests')) := by
  refine (h.bind fun _ => hrest).mono fun y calls made => ?_
  obtain ⟨cause, ⟨failure?, made, e, rfl, hostError⟩, rfl⟩ |
    ⟨_, first, others, ⟨failure?, made, rfl⟩, ⟨failure'?, madeRest, ended⟩, rfl⟩ := made
  · exact ⟨some e, made.append_of_failed, e, rfl, hostError⟩
  · exact ⟨failure'?, made.append madeRest, ended⟩

variable (host : Host m μ ε) (importer : Importer) (plan : LoadPlan)

theorem notes_setSearchPath (module : μ) :
    Notes (ExceptT.adapt (.registry plan.target) (host.noting.setSearchPath plan module))
      (ExceptT.adapt (.registry plan.target) (host.setSearchPath plan module))
      (Makes (plan.searchPath?.toList.map fun directory =>
        .setAttribute module (.searchPath [directory]))) := by
  unfold Host.setSearchPath
  cases plan.searchPath? with
  | none =>
    refine ((notes_pure ()).adapt _).mono fun y calls made => ?_
    obtain ⟨x, ⟨rfl, rfl⟩, rfl⟩ := made
    exact ⟨none, .done, rfl⟩
  | some directory => exact notes_request _ _ _ fun _ => rfl

theorem notes_fill (module : μ) :
    Notes (host.noting.fill importer plan module) (host.fill importer plan module)
      (Makes (plan.fillCalls importer module)) := by
  have told := notes_request (.setAttribute module (.loader importer))
    (host.setAttribute module (.loader importer)) (.registry plan.target) fun _ => rfl
  have searched := notes_setSearchPath host plan module
  have run := notes_request (.execute module plan.code plan.artifact)
    (host.execute module plan.code plan.artifact) (.execution plan.target) fun _ => rfl
  have filled := told.andMakes (searched.andMakes run)
  rw [← List.append_assoc] at filled
  exact filled

theorem notes_takeBack (target : String) (created : Bool) (cause : LoadError ε) :
    Notes (do host.noting.takeBack target created; throw cause : Noting m μ ε (LoadError ε) Unit)
      (do host.takeBack target created; throw cause : ExceptT (LoadError ε) m Unit)
      fun x calls => x = .error cause ∧ calls = if created then [.remove target] else [] := by
  have taken : Notes (m := m) (μ := μ) (ε := ε) (δ := LoadError ε) (α := Unit)
      (liftM (host.noting.takeBack target created))
      (liftM (host.takeBack target created))
      fun x calls => x = .ok () ∧ calls = if created then [.remove target] else [] := by
    cases created with
    | false =>
      simp only [Host.takeBack, Bool.false_eq_true, if_false, liftM_pure]
      exact notes_pure ()
    | true =>
      refine (notes_lift (fun _ => .remove target) (host.remove target)).mono fun y calls made => ?_
      obtain ⟨_, rfl, rfl⟩ := made
      exact ⟨rfl, rfl⟩
  refine (taken.bind fun _ => notes_throw cause).mono fun y calls made => ?_
  obtain ⟨_, ⟨absurd, -⟩, -⟩ | ⟨_, first, rest, ⟨-, rfl⟩, ⟨rfl, rfl⟩, rfl⟩ := made
  · cases absurd
  · exact ⟨rfl, List.append_nil _⟩

theorem notes_carryOut :
    Notes (host.noting.carryOut importer plan) (host.carryOut importer plan)
      (Protocol importer plan) := by
  have registered := (notes_call (.getOrCreate plan.target)
    (host.getOrCreate plan.target)).adapt (LoadError.registry plan.target)
  have filled (found : Registration μ) :=
    (notes_fill host importer plan found.module).tryCatch fun cause =>
      notes_takeBack host plan.target found.created cause
  refine (registered.bind fun found =>
    (filled found).bind fun _ => notes_pure found.module).mono fun y calls made => ?_
  obtain ⟨cause, ⟨x, rfl, wrapped⟩, rfl⟩ | ⟨found, _, rest, ⟨x, rfl, wrapped⟩, made, rfl⟩ := made
  · cases x with
    | ok _ => cases wrapped
    | error e =>
      cases wrapped
      exact .unregistered e
  cases x with
  | error _ => cases wrapped
  | ok found =>
    cases wrapped
    obtain ⟨cause, caught, rfl⟩ | ⟨_, calls, _, caught, ⟨rfl, rfl⟩, rfl⟩ := made
    · obtain ⟨_, -, absurd⟩ | ⟨cause, calls, takenBack, made, ⟨same, rfl⟩, rfl⟩ := caught
      · cases absurd
      · cases same
        obtain ⟨failure?, made, e, rfl, hostError⟩ := made
        exact .failed made hostError
    · obtain ⟨_, made, -⟩ | ⟨_, _, _, -, ⟨absurd, -⟩, -⟩ := caught
      · obtain ⟨failure?, made, rfl⟩ := made
        rw [List.append_nil]
        exact .loaded made
      · cases absurd

end Rules

namespace Protocol

variable {importer : Importer} {plan : LoadPlan} {x : Except (LoadError ε) μ}
  {calls : List (HostCall μ ε)}

theorem ended (h : Protocol importer plan x calls) :
    (∃ module, x = .ok module) ∨ ∃ cause e, x = .error cause ∧ cause.hostError? = some e := by
  cases h with
  | unregistered e => exact .inr ⟨_, e, rfl, rfl⟩
  | loaded _ => exact .inl ⟨_, rfl⟩
  | failed _ hostError => exact .inr ⟨_, _, rfl, hostError⟩

theorem error?_iff (h : Protocol importer plan x calls) (e : ε) :
    (∃ call ∈ calls, call.error? = some e) ↔
      ∃ cause, x = .error cause ∧ cause.hostError? = some e := by
  cases h with
  | unregistered e' => simp [HostCall.error?, LoadError.hostError?]
  | @loaded found _ made =>
    have failure := made.error?_iff (error?_fillCalls importer plan found.module) e
    simpa [HostCall.error?] using failure
  | @failed found calls e' cause made hostError =>
    have failure := made.error?_iff (error?_fillCalls importer plan found.module) e
    have takenBack : ∀ call ∈
        (if found.created then [.remove plan.target] else [] : List (HostCall μ ε)),
        call.error? = none := by
      intro call mem
      split at mem
      · cases List.mem_singleton.1 mem
        rfl
      · cases mem
    constructor
    · rintro ⟨call, mem, callFailed⟩
      obtain mem | mem := List.mem_append.1 mem
      · obtain rfl | mem := List.mem_cons.1 mem
        · cases callFailed
        · exact ⟨cause, rfl, hostError.trans (failure.1 ⟨call, mem, callFailed⟩)⟩
      · rw [takenBack call mem] at callFailed
        cases callFailed
    · rintro ⟨_, same, hostError'⟩
      cases same
      obtain ⟨call, mem, callFailed⟩ := failure.2 (hostError.symm.trans hostError')
      exact ⟨call, List.mem_append_left _ (List.mem_cons_of_mem _ mem), callFailed⟩

theorem succeeded (h : Protocol importer plan x calls) :
    (∃ module, x = .ok module) ↔ ∀ call ∈ calls, call.error? = none := by
  constructor
  · rintro ⟨module, rfl⟩ call mem
    cases failed : call.error? with
    | none => rfl
    | some e =>
      obtain ⟨_, absurd, -⟩ := (h.error?_iff e).1 ⟨call, mem, failed⟩
      cases absurd
  · intro answered
    obtain ok | ⟨cause, e, isError, hostError⟩ := h.ended
    · exact ok
    · obtain ⟨call, mem, failed⟩ := (h.error?_iff e).2 ⟨cause, isError, hostError⟩
      rw [answered call mem] at failed
      cases failed

end Protocol

section Made

variable {fs : FileSystem} {entryPoint : Option String} {name : String} {resolution : Resolution}
  {importer : Importer}

/-- A load either is stopped beforehand, by an error that is not the host's, or has a plan. -/
theorem make_cases (ε : Type) (fs : FileSystem) (entryPoint : Option String) (name : String)
    (resolution : Resolution) :
    (Unloadable fs resolution ∧ ∃ cause : LoadError ε,
      LoadPlan.make fs entryPoint name resolution = .error cause ∧ cause.hostError? = none) ∨
    ∃ artifact bytes code, resolution.artifact? = some artifact ∧ fs.read artifact = .ok bytes ∧
      Artifact.decode bytes = .ok code ∧ LoadPlan.make (ε := ε) fs entryPoint name resolution =
        .ok ⟨Name.registered entryPoint name, artifact, resolution.searchPath?, code⟩ := by
  unfold LoadPlan.make
  cases hartifact : resolution.artifact? with
  | none =>
    refine .inl ⟨?_, _, rfl, rfl⟩
    cases resolution with
    | nothing => exact .nothing
    | portion directory => exact .portion directory
    | module _ => cases hartifact
    | package _ _ => cases hartifact
  | some artifact =>
    cases hread : fs.read artifact with
    | error cause =>
      refine .inl ⟨.unreadable hartifact hread, .artifactUnreadable name artifact cause, ?_, rfl⟩
      simp [hread]
    | ok bytes =>
      cases hdecode : Artifact.decode bytes with
      | error cause =>
        refine .inl ⟨.corrupt hartifact hread hdecode, .corruptArtifact name artifact cause, ?_,
          rfl⟩
        simp [hread, hdecode]
      | ok code =>
        refine .inr ⟨artifact, bytes, code, rfl, hread, hdecode, ?_⟩
        simp [hread, hdecode]

theorem not_unloadable {artifact : Path} {bytes : List UInt8} {code : Code}
    (isArtifact : resolution.artifact? = some artifact) (read : fs.read artifact = .ok bytes)
    (decoded : Artifact.decode bytes = .ok code) : ¬Unloadable fs resolution := by
  intro unloadable
  cases unloadable with
  | nothing => cases isArtifact
  | portion => cases isArtifact
  | unreadable isArtifact' unreadable =>
    cases isArtifact.symm.trans isArtifact'
    cases read.symm.trans unreadable
  | corrupt isArtifact' read' corrupt =>
    cases isArtifact.symm.trans isArtifact'
    cases read.symm.trans read'
    cases decoded.symm.trans corrupt

end Made

/-- Whatever a host does and whenever it refuses, a load calls it in the order of the protocol and
passes its error on. -/
theorem load_by_protocol [LawfulMonad m] (host : Host m μ ε) (fs : FileSystem) (importer : Importer)
    (entryPoint : Option String) (name : String) (resolution : Resolution) :
    Notes (host.noting.load fs importer entryPoint name resolution)
      (host.load fs importer entryPoint name resolution)
      (ByProtocol fs importer entryPoint name resolution) := by
  unfold Host.load
  obtain ⟨unloadable, cause, isError, notHost⟩ |
    ⟨artifact, bytes, code, isArtifact, read, decoded, isPlan⟩ :=
    make_cases ε fs entryPoint name resolution
  · rw [isError]
    refine (notes_throw cause).mono fun x calls made => ?_
    obtain ⟨rfl, rfl⟩ := made
    constructor
    · exact fun _ => ⟨rfl, cause, rfl, notHost⟩
    · exact fun _ _ _ isArtifact read decoded =>
        absurd unloadable (not_unloadable isArtifact read decoded)
    · simp [unloadable]
    · simp [notHost]
  · rw [isPlan]
    refine (notes_carryOut host importer _).mono fun x calls made => ?_
    have loadable := not_unloadable isArtifact read decoded
    constructor
    · exact fun unloadable => absurd unloadable loadable
    · intro artifact' bytes' code' isArtifact' read' decoded'
      cases isArtifact.symm.trans isArtifact'
      cases read.symm.trans read'
      cases decoded.symm.trans decoded'
      exact made
    · rw [made.succeeded]
      exact ⟨fun answered => ⟨loadable, answered⟩, fun both => both.2⟩
    · exact made.error?_iff

/-- A repository with a package `p` whose body stores a number. -/
def packageFiles : FileSystem where
  entries := [("r", .directory [
    ("p", .directory [
      ("__init__.pyf", .file (Artifact.frame
        (Artifact.body.write ⟨"p", "p.py", [.store "x" (.int 1)]⟩)))])])]
  workingDirectory := .top

/-- A host that refuses to run bodies is asked for everything before that, and in the end to take
back the registration of the main module. -/
theorem load_by_protocol_packageFiles :
    ∃ cause calls r,
      (Recorder.host.noting.load packageFiles ⟨0, ⟨"/r"⟩⟩ (some "p") "p"
        (.package ⟨"/r/p/__init__.pyf"⟩ ⟨"/r/p"⟩)).run.run [] ⟨["execute"], .empty, []⟩ =
          ((.error cause, calls), r) ∧
      cause.hostError? = some (.refused "execute") ∧ calls.length = 5 ∧
      r.events = ["register __main__", "set __main__ __loader__ /r", "set __main__ __path__ /r/p",
        "execute __main__ p /r/p/__init__.pyf", "remove __main__"] ∧
      ByProtocol packageFiles ⟨0, ⟨"/r"⟩⟩ (some "p") "p"
        (.package ⟨"/r/p/__init__.pyf"⟩ ⟨"/r/p"⟩) (.error cause) calls := by
  have outcome : (fun ((x, calls), r) =>
        ((match x with | .error cause => cause.hostError? | .ok _ => none), List.length calls,
          Recorder.events r))
      ((Recorder.host.noting.load packageFiles ⟨0, ⟨"/r"⟩⟩ (some "p") "p"
        (.package ⟨"/r/p/__init__.pyf"⟩ ⟨"/r/p"⟩)).run.run [] ⟨["execute"], .empty, []⟩) =
      (some (.refused "execute"), 5,
        ["register __main__", "set __main__ __loader__ /r", "set __main__ __path__ /r/p",
          "execute __main__ p /r/p/__init__.pyf", "remove __main__"]) := by
    decide +kernel
  have notes := load_by_protocol Recorder.host packageFiles ⟨0, ⟨"/r"⟩⟩ (some "p") "p"
    (.package ⟨"/r/p/__init__.pyf"⟩ ⟨"/r/p"⟩)
  obtain ⟨x, calls, r, ran, -, byProtocol⟩ := notes.at ⟨["execute"], .empty, []⟩
  rw [ran] at outcome
  obtain ⟨hostError, others⟩ := Prod.mk.inj outcome
  obtain ⟨length, events⟩ := Prod.mk.inj others
  cases x with
  | ok _ => cases hostError
  | error cause => exact ⟨cause, calls, r, ran, hostError, length, events, byProtocol⟩

end ModuleImport
