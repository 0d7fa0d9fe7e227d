import ModuleImport.Proofs.Interpreter.Continued
import ModuleImport.Proofs.Interpreter.Instruction
import ModuleImport.Proofs.Interpreter.Mentioned

namespace ModuleImport

namespace Run

variable {α β ε δ : Type} {depth : Nat} {s t : Interpreter}

/-- Runs whose imports may be nested at least this deeply end, all in the same way. -/
def Ends (depth : Nat) (r : Nat → Failing ε α) (s : Interpreter) : Prop :=
  ∃ p, ∀ d, depth ≤ d → r d s = some p

theorem Ends.done {r : Failing ε α} {p : Except ε α × Interpreter} (h : r s = some p) :
    Ends depth (fun _ => r) s :=
  ⟨p, fun _ _ => h⟩

theorem Ends.congr {r r' : Nat → Failing ε α} (ends : Ends depth r' t)
    (same : ∀ d, r d s = r' d t) : Ends depth r s := by
  obtain ⟨p, h⟩ := ends
  exact ⟨p, fun d deep => (same d).trans (h d deep)⟩

theorem Ends.bind {r : Nat → Failing ε α} {f : Nat → α → Failing ε β} (first : Ends depth r s)
    (rest : ∀ {a t}, r depth s = some (.ok a, t) → Ends depth (fun d => f d a) t) :
    Ends depth (fun d => r d >>= f d) s := by
  obtain ⟨⟨x, t⟩, h⟩ := first
  cases x with
  | error e => exact ⟨(.error e, t), fun d deep => bind_of_error (h d deep)⟩
  | ok a =>
    obtain ⟨p, h'⟩ := rest (h depth (Nat.le_refl _))
    exact ⟨p, fun d deep => (bind_of_ok (h d deep)).trans (h' d deep)⟩

theorem Ends.tryCatch {r : Nat → Failing ε α} {f : Nat → ε → Failing ε α} (first : Ends depth r s)
    (rest : ∀ {e t}, r depth s = some (.error e, t) → Ends depth (fun d => f d e) t) :
    Ends depth (fun d => MonadExcept.tryCatch (r d) (f d)) s := by
  obtain ⟨⟨x, t⟩, h⟩ := first
  cases x with
  | ok a => exact ⟨(.ok a, t), fun d deep => tryCatch_of_ok (h d deep)⟩
  | error e =>
    obtain ⟨p, h'⟩ := rest (h depth (Nat.le_refl _))
    exact ⟨p, fun d deep => (tryCatch_of_error (h d deep)).trans (h' d deep)⟩

theorem Ends.adapt {r : Nat → Failing ε α} (f : ε → δ) (ends : Ends depth r s) :
    Ends depth (fun d => ExceptT.adapt f (r d)) s := by
  obtain ⟨p, h⟩ := ends
  refine ⟨(p.1.mapError f, p.2), fun d deep => ?_⟩
  exact (adapt_eq _ _ _).trans (by rw [h d deep]; rfl)

theorem Ends.look {f : Interpreter → α} {r : Nat → α → Run β}
    (rest : Ends depth (fun d => r d (f s)) s) : Ends depth (fun d => Run.look f >>= r d) s :=
  rest.congr fun _ => rfl

theorem Ends.step {f : Interpreter → α × Interpreter} {r : Nat → α → Run β}
    (rest : Ends depth (fun d => r d (f s).1) (f s).2) :
    Ends depth (fun d => Run.step f >>= r d) s :=
  rest.congr fun _ => rfl

theorem Ends.succ {r : Nat → Failing ε α} (ends : Ends depth (fun d => r (d + 1)) s) :
    Ends (depth + 1) r s := by
  obtain ⟨p, h⟩ := ends
  refine ⟨p, fun d deep => ?_⟩
  cases d with
  | zero => omega
  | succ d => exact h d (Nat.le_of_succ_le_succ deep)

theorem Ends.mono {r : Nat → Failing ε α} {deeper : Nat} (ends : Ends depth r s)
    (le : depth ≤ deeper) : Ends deeper r s := by
  obtain ⟨p, h⟩ := ends
  exact ⟨p, fun d deep => h d (Nat.le_trans le deep)⟩

end Run

open Run

namespace Interpreter

variable {fs : FileSystem} {N : String → Prop} {name : String} {depth : Nat} {s t u : Interpreter}

theorem ends_runInstructions (closed : Closed fs N) (consistent : s.Consistent)
    (deep : ∀ {name t}, N name → s.Continues t → Ends depth (fun d => importWithin fs d name) t)
    (module : Module) (artifact : Path) {instructions : List Instruction}
    (imports : ∀ name ∈ instructions.flatMap Instruction.imports, N name) :
    Ends depth (fun d =>
      Body.runInstructions (importWithin fs d) module artifact instructions) s := by
  induction instructions generalizing s with
  | nil => exact .done rfl
  | cons instruction rest ih =>
    refine Ends.bind ?_ fun {_ t} ran => ?_
    · cases instruction with
      | store name value => exact .done rfl
      | print text => exact .done rfl
      | raise message => exact .done rfl
      | copy target source =>
        refine .look ?_
        cases s.store.get? module source <;> exact .done rfl
      | importName name bind =>
        have wanted : N name := imports name List.mem_cons_self
        refine Ends.bind (deep wanted (.refl consistent)) fun {imported t} got => ?_
        cases bind with
        | some target => exact .done rfl
        | none =>
          refine Ends.bind ?_ fun _ => .done rfl
          unfold Body.outermost
          split
          · exact .done rfl
          · exact deep (closed.top wanted (isImportable_of_importWithin got))
              (importWithin_continues consistent got)
    · have after := instruction_continues consistent ran
      refine ih after.consistent (fun wanted later => deep wanted (after.trans later)) ?_
      intro name member
      exact imports name (List.mem_append_right _ member)

section Loads

variable {importer : Importer} {plan : LoadPlan}

theorem ends_run {module : Module} {code : Code} {artifact : Path}
    (body : Ends depth (fun d => Body.runInstructions (importWithin fs d) module artifact
      code.instructions) (s.entered module code artifact)) :
    Ends depth (fun d => Body.run (importWithin fs d) module code artifact) s :=
  Ends.bind (s := s.entered module code artifact)
    (f := fun _ _ => change (·.record (.finished module artifact)))
    (body.tryCatch (f := fun _ e => do
      change (·.record (.stopped module artifact))
      throw e) (fun _ => .done rfl)) (fun _ => .done rfl)

theorem ends_fill {module : Module}
    (body : Ends depth (fun d => Body.runInstructions (importWithin fs d) module plan.artifact
      plan.code.instructions) (s.prepared importer plan module)) :
    Ends depth (fun d => (host (importWithin fs d)).fill importer plan module) s := by
  exact ((ends_run body).adapt (.execution plan.target)).congr fun d => fill_eq _ importer plan _ s

theorem ends_carryOut
    (body : Ends depth (fun d => Body.runInstructions (importWithin fs d) (s.loading plan)
      plan.artifact plan.code.instructions) (s.started importer plan)) :
    Ends depth (fun d => (host (importWithin fs d)).carryOut importer plan) s := by
  have registered (d : Nat) : (host (importWithin fs d)).getOrCreate plan.target s =
      some (.ok (s.getOrCreate plan.target).1, (s.getOrCreate plan.target).2) := rfl
  unfold Host.carryOut
  refine Ends.bind ⟨_, fun d _ => adapt_of_ok _ (registered d)⟩ fun {found t} created => ?_
  cases (adapt_of_ok _ (registered depth)).symm.trans created
  refine Ends.bind ((ends_fill body).tryCatch fun {e t} _ => ?_) (fun _ => .done rfl)
  exact ⟨_, fun d _ => takeBack_eq _ _ _ _ _⟩

theorem ends_loadModule {entryPoint : Option String}
    (bodies : ∀ plan, LoadPlan.find (ε := RunError) fs importer entryPoint name = .ok plan →
      Ends depth (fun d => Body.runInstructions (importWithin fs d) (s.loading plan) plan.artifact
        plan.code.instructions) (s.started importer plan)) :
    Ends depth (fun d => (host (importWithin fs d)).loadModule fs importer entryPoint name) s := by
  simp only [Host.loadModule_eq]
  cases found : LoadPlan.find (ε := RunError) fs importer entryPoint name with
  | error e => exact .done rfl
  | ok plan => exact ends_carryOut (bodies plan found)

end Loads

theorem ends_importParent
    (parents : ∀ {parent}, Name.parent? name = some parent →
      Ends depth (fun d => importWithin fs d parent) s) :
    Ends depth (fun d => importParent (importWithin fs d) name) s := by
  unfold importParent
  cases isParent : Name.parent? name with
  | none => exact .done rfl
  | some parent =>
    simp only [map_eq_pure_bind]
    exact Ends.bind (parents isParent) fun _ => .done rfl

theorem ends_directoriesFor (parent? : Option Module) (name : String) :
    Ends depth (fun _ => directoriesFor parent? name) s := by
  unfold directoriesFor
  cases parent? with
  | none => exact .done rfl
  | some parent =>
    refine .look ?_
    cases s.store.searchPath? parent <;> exact .done rfl

theorem ends_importFrom {directories : List Path}
    (bodies : ∀ {importer plan u}, s.search fs name directories = (.ok (.loader importer), u) →
      LoadPlan.find (ε := RunError) fs importer (u.store.entryPointOf importer) name = .ok plan →
      Ends depth (fun d => Body.runInstructions (importWithin fs d) (u.loading plan) plan.artifact
        plan.code.instructions) (u.started importer plan)) :
    Ends depth (fun d => importFrom fs (importWithin fs d) name directories) s := by
  unfold importFrom
  refine .step ?_
  cases search : s.search fs name directories with
  | mk found u =>
    cases found with
    | error e => exact .done rfl
    | ok found =>
      cases found with
      | portions portions => cases portions <;> exact .done rfl
      | loader importer =>
        refine .look ?_
        exact (ends_loadModule fun plan plans => bodies search plans).adapt _

/-- A level ends if the import of the parent does and, after a search, the body that is loaded. -/
theorem ends_importStep (consistent : s.Consistent)
    (parents : ∀ {parent}, Name.parent? name = some parent →
      Ends depth (fun d => importWithin fs d parent) s)
    (bodies : ∀ {importer plan u}, s.Continues u → u.loaded? name = none →
      plan.target = u.registeredName name → plan.code.imports ⊆ fs.importedNames →
      Ends depth (fun d => Body.runInstructions (importWithin fs d) (u.loading plan) plan.artifact
        plan.code.instructions) (u.started importer plan)) :
    Ends depth (fun d => importStep fs (importWithin fs d) name) s := by
  unfold importStep
  split
  swap
  · exact .done rfl
  refine .look ?_
  cases s.loaded? name with
  | some module => exact .done rfl
  | none =>
    refine Ends.bind (ends_importParent parents) fun {parent? t} parent => ?_
    have atParent := importParent_continues consistent parent
    refine Ends.bind (ends_directoriesFor parent? name) fun {directories t'} path => ?_
    obtain ⟨rfl, -⟩ := directoriesFor_inv path
    refine .look ?_
    cases absent : t'.loaded? name with
    | some module => exact .done rfl
    | none =>
      refine Ends.bind (ends_importFrom fun {importer plan u} search plans => ?_) fun _ => .done rfl
      have after := atParent.trans (search_continues atParent.consistent search)
      exact bodies after (loaded?_of_search absent search)
        (target_of_search after.consistent search plans) (LoadPlan.imports_of_find plans)

/-- How many of some names are not registered. -/
def missing (names : List String) (s : Interpreter) : Nat :=
  names.countP fun name => (s.loaded? name).isNone

theorem missing_le {names : List String}
    (registered : ∀ name ∈ names, s.loaded? name ≠ none → t.loaded? name ≠ none) :
    t.missing names ≤ s.missing names := by
  apply List.countP_mono_left
  intro name member absent
  rw [Option.isNone_iff_eq_none] at absent ⊢
  by_contra present
  exact registered name member present absent

theorem missing_lt {names : List String} {name : String} (member : name ∈ names)
    (registered : ∀ name ∈ names, s.loaded? name ≠ none → t.loaded? name ≠ none)
    (before : s.loaded? name = none) (after : t.loaded? name ≠ none) :
    t.missing names < s.missing names := by
  obtain ⟨front, back, rfl⟩ := List.append_of_mem member
  have inFront : t.missing front ≤ s.missing front :=
    missing_le fun name member => registered name (List.mem_append_left _ member)
  have inBack : t.missing back ≤ s.missing back :=
    missing_le fun name member =>
      registered name (List.mem_append_right _ (List.mem_cons_of_mem _ member))
  unfold missing at inFront inBack ⊢
  simp only [List.countP_append, List.countP_cons, before, Option.isNone_none, if_true,
    Option.isNone_iff_eq_none, after, if_false]
  omega

theorem Continues.missing_le (st : s.Continues t) (names : List String) :
    t.missing names ≤ s.missing names := by
  apply Interpreter.missing_le
  intro name _ present
  obtain ⟨module, found⟩ := Option.ne_none_iff_exists'.mp present
  rw [st.loaded? found]
  exact Option.some_ne_none module

theorem missing_started_lt {names : List String} (member : name ∈ names) (importer : Importer)
    {plan : LoadPlan} (absent : s.loaded? name = none)
    (target : plan.target = s.registeredName name) :
    (s.started importer plan).missing names < s.missing names := by
  have unregistered : s.lookup plan.target = none := target ▸ absent
  have looked (key : String) : (s.started importer plan).loaded? key =
      if s.registeredName key = plan.target then some (s.loading plan) else s.loaded? key := by
    have same : (s.started importer plan).registeredName key = s.registeredName key := by
      unfold registeredName
      rw [(started_of_absent importer unregistered).entryPoint]
      rfl
    unfold loaded?
    rw [same, lookup_started importer unregistered]
  refine missing_lt member ?_ absent ?_
  · intro key _ present
    rw [looked]
    split
    · exact Option.some_ne_none _
    · exact present
  · rw [looked, if_pos target.symm]
    exact Option.some_ne_none _

/-- An import ends if its depth allows, for each mentioned name that is not registered, a chain of
parents from a mentioned name, and one more chain from its own name. -/
theorem ends_importWithin {names : List String} {width : Nat}
    (wide : ∀ name ∈ fs.mentioned names, (Name.segments name).length ≤ width)
    (consistent : s.Consistent) (member : name ∈ fs.mentioned names)
    (deep : s.missing (fs.mentioned names) * width + (Name.segments name).length ≤ depth) :
    Ends depth (fun d => importWithin fs d name) s := by
  have closed := closed_mentioned fs names
  induction depth generalizing s name with
  | zero =>
    have := Name.length_segments_pos name
    omega
  | succ depth ih =>
    refine Ends.succ (Ends.bind ?_ fun _ => .done rfl)
    refine ends_importStep consistent (fun {parent} h => ?_) fun {importer plan u} su absent target
      imports => ?_
    · apply ih consistent (closed.parent member h)
      have := Name.length_segments_of_parent h
      omega
    · refine ends_runInstructions closed (consistent_started importer plan su.consistent)
        (fun {other t} mentioned later => ?_) _ _ (fun name member => closed.imported (imports member))
      apply ih later.consistent mentioned
      -- the body of the load runs with at least one mentioned name fewer to register
      have fewer : t.missing (fs.mentioned names) < s.missing (fs.mentioned names) :=
        calc t.missing (fs.mentioned names)
          _ ≤ (u.started importer plan).missing (fs.mentioned names) := later.missing_le _
          _ < u.missing (fs.mentioned names) := missing_started_lt member importer absent target
          _ ≤ s.missing (fs.mentioned names) := su.missing_le _
      have bound := Nat.mul_le_mul_right width (Nat.succ_le_of_lt fewer)
      have := wide other mentioned
      have := Name.length_segments_pos name
      rw [Nat.succ_mul] at bound
      omega

/-- The depth that is allowed to imports of some names is enough for each name that they mention, even
if one level of it is used up. -/
theorem ends_mentioned {names : List String} (consistent : s.Consistent)
    (member : name ∈ fs.mentioned names) (deep : importDepth fs names ≤ depth + 1) :
    Ends depth (fun d => importWithin fs d name) s := by
  obtain ⟨total, same, few, wide⟩ := importDepth_eq fs names
  refine (ends_importWithin wide consistent member (Nat.le_refl _)).mono ?_
  have missing : s.missing (fs.mentioned names) ≤ total :=
    Nat.le_trans List.countP_le_length few
  have product := Nat.mul_le_mul_right total missing
  have segments := wide name member
  rw [same, Nat.add_mul, Nat.mul_add] at deep
  omega

/-- Every import ends, and no deeper nesting of imports would make it end in another way. -/
theorem ends_importModule (consistent : s.Consistent) (fs : FileSystem) (name : String) :
    Ends (importDepth fs [name]) (fun d => importWithin fs d name) s :=
  ends_mentioned consistent (mentioned_of_mem List.mem_cons_self) (Nat.le_succ _)

section Requests

variable {module : Module} {importer : Importer}

theorem ends_execute (consistent : s.Consistent) (owned : s.Owns module) (fs : FileSystem)
    (code : Code) (artifact : Path) :
    Ends (importDepth fs code.imports)
      (fun d => Body.run (importWithin fs d) module code artifact) s := by
  refine ends_run (ends_runInstructions (closed_mentioned fs code.imports)
    (consistent_entered consistent owned code artifact) ?_ _ _ ?_)
  · exact fun mentioned later => ends_mentioned later.consistent mentioned (Nat.le_succ _)
  · exact fun name member => mentioned_of_mem member

theorem ends_body_of_plan (consistent : s.Consistent) {plan : LoadPlan}
    (imports : plan.code.imports ⊆ fs.importedNames) :
    Ends (importDepth fs []) (fun d => Body.runInstructions (importWithin fs d) (s.loading plan)
      plan.artifact plan.code.instructions) (s.started importer plan) := by
  have closed := closed_mentioned fs []
  refine ends_runInstructions closed (consistent_started importer plan consistent) ?_ _ _ ?_
  · exact fun mentioned later => ends_mentioned later.consistent mentioned (Nat.le_succ _)
  · exact fun name member => closed.imported (imports member)

theorem ends_load (consistent : s.Consistent) (fs : FileSystem) (importer : Importer)
    (entryPoint : Option String) (name : String) (resolution : Resolution) :
    Ends (importDepth fs []) (fun d =>
      (host (importWithin fs d)).load fs importer entryPoint name resolution) s := by
  unfold Host.load
  cases made : LoadPlan.make (ε := RunError) fs entryPoint name resolution with
  | error e => exact .done rfl
  | ok plan => exact ends_carryOut (ends_body_of_plan consistent (LoadPlan.imports_of_make made))

theorem ends_loadModule_outside (consistent : s.Consistent) (fs : FileSystem) (importer : Importer)
    (entryPoint : Option String) (name : String) :
    Ends (importDepth fs []) (fun d =>
      (host (importWithin fs d)).loadModule fs importer entryPoint name) s :=
  ends_loadModule fun _ found => ends_body_of_plan consistent (LoadPlan.imports_of_find found)

theorem loadModule_ends (consistent : s.Consistent) (fs : FileSystem) (importer : Importer)
    (name : String) : ∃ p, loadModule fs importer name s = some p := by
  obtain ⟨p, found⟩ := (ends_loadModule_outside consistent fs importer
    (s.store.entryPointOf importer) name).adapt RunError.failedLoad
  exact ⟨p, found _ (Nat.le_refl _)⟩

/-- Whatever an interpreter is asked for from outside, it comes to an end. -/
theorem requests_end (consistent : s.Consistent) (owned : s.Owns module) (fs : FileSystem)
    (code : Code) (artifact : Path) (name : String) (resolution : Resolution) :
    execute fs module code artifact s ≠ none ∧ load fs importer name resolution s ≠ none ∧
      loadModule fs importer name s ≠ none := by
  obtain ⟨p, executed⟩ := ends_execute consistent owned fs code artifact
  obtain ⟨q, loaded⟩ := (ends_load consistent fs importer
    (s.store.entryPointOf importer) name resolution).adapt RunError.failedLoad
  refine ⟨?_, ?_, ?_⟩
  · exact Option.ne_none_iff_exists'.mpr ⟨p, executed _ (Nat.le_refl _)⟩
  · exact Option.ne_none_iff_exists'.mpr ⟨q, loaded _ (Nat.le_refl _)⟩
  · exact Option.ne_none_iff_exists'.mpr (loadModule_ends consistent fs importer name)

end Requests

end Interpreter

end ModuleImport
