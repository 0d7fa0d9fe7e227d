import ModuleImport.Proofs.Interpreter.Failing
import ModuleImport.Proofs.Repository.Spelling

namespace ModuleImport

open Run Body

/-- Whether an error says that loading does not agree with finding, or that the host has refused. -/
def LoadError.contradicts {ε : Type} : LoadError ε → Bool
  | nameNotFound _ | artifactUnreadable _ _ _ | notLoadable _ _ | registry _ _ => true
  | probe _ | corruptArtifact _ _ _ | execution _ _ => false

/-- No failed load in the chain of an error contradicts what was found. -/
def RunError.Coherent (e : RunError) : Prop :=
  ∀ link ∈ e.chain, link.contradicts = false

namespace Repository

variable {fs : FileSystem} {p root artifact : Path} {name : String} {resolution : Resolution}

theorem read_of_probe (probed : probe fs p = .ok .file) : ∃ bytes, fs.read p = .ok bytes := by
  unfold probe at probed
  unfold FileSystem.read
  split at probed
  · rename_i bytes found
    rw [found]
    exact ⟨bytes, rfl⟩
  all_goals cases probed

theorem read_of_resolve (resolved : resolve fs root name = .ok resolution)
    (isArtifact : resolution.artifact? = some artifact) :
    ∃ bytes, fs.read artifact = .ok bytes := by
  unfold resolve resolveWith at resolved
  split at resolved
  · cases classified_of_classify resolved with
    | module file =>
      cases isArtifact
      exact read_of_probe file
    | package _ _ _ file =>
      cases isArtifact
      exact read_of_probe file
    | portion => cases isArtifact
    | nothing => cases isArtifact
  · cases resolved
    cases isArtifact

end Repository

section Loads

variable {fs : FileSystem} {importer : Importer} {name : String} {resolution : Resolution}
  {entryPoint : Option String} {e : LoadError RunError}

theorem readable_of_offer (resolved : importer.resolve fs name = .ok resolution)
    (offers : resolution.offer = .loader) :
    ∃ artifact bytes, resolution.artifact? = some artifact ∧ fs.read artifact = .ok bytes := by
  have loadable := (Resolution.offer_eq_loader_iff resolution).mp offers
  obtain ⟨artifact, isArtifact⟩ := Option.isSome_iff_exists.mp loadable
  obtain ⟨bytes, read⟩ := Repository.read_of_resolve resolved isArtifact
  exact ⟨artifact, bytes, isArtifact, read⟩

/-- An importer that has offered to load can only find that the artifact is corrupt. -/
theorem corrupt_of_find (resolved : importer.resolve fs name = .ok resolution)
    (offers : resolution.offer = .loader)
    (failed : LoadPlan.find fs importer entryPoint name = .error e) :
    ∃ artifact cause, e = .corruptArtifact name artifact cause := by
  obtain ⟨artifact, bytes, isArtifact, read⟩ := readable_of_offer resolved offers
  have loadable := (Resolution.offer_eq_loader_iff resolution).mp offers
  simp only [LoadPlan.find, resolved, loadable, if_true, LoadPlan.make, isArtifact, read] at failed
  split at failed
  · rename_i cause _
    cases failed
    exact ⟨artifact, cause, rfl⟩
  · cases failed

end Loads

namespace Interpreter

variable {fs : FileSystem} {inner : String → Run Module} {name : String} {s t : Interpreter}
  {e : RunError}

/-- What is shown of imports that are nested less deeply. -/
def Coherently (inner : String → Run Module) : Prop :=
  ∀ {name s e t}, inner name s = some (.error e, t) → e.Coherent

theorem body_coherent (nested : Coherently inner) {module : Module} {artifact : Path}
    {instructions : List Instruction}
    (h : runInstructions inner module artifact instructions s = some (.error e, t)) :
    e.Coherent := by
  have failed {u v : Interpreter} {e : RunError} (instruction : Instruction)
      (ran : runInstruction inner module artifact instruction u = some (.error e, v)) :
      e.Coherent := by
    cases instructed_of_runInstruction ran with
    | importFailed failed => exact nested failed
    | outermostFailed _ failed => exact nested failed
    | missing => exact fun link member => by cases member
    | raised => exact fun link member => by cases member
  obtain ⟨absurd, -⟩ | ⟨_, same, coherent⟩ := runInstructions_induct (P := fun _ => True)
    (Q := fun e _ => e.Coherent) (fun _ _ _ _ => trivial)
    (fun instruction _ _ ran => failed instruction ran) trivial h
  · cases absurd
  · cases same
    exact coherent

theorem importParent_coherent (nested : Coherently inner)
    (h : importParent inner name s = some (.error e, t)) : e.Coherent := by
  obtain ⟨_, absurd, _⟩ | ⟨parent, y, _, imported, same⟩ := importParent_inv h
  · cases absurd
  · cases y with
    | ok module => cases same
    | error e' =>
      cases same
      exact nested imported

theorem level_coherent (nested : Coherently inner) (level : Level fs inner name s (.error e) t) :
    e.Coherent := by
  cases level with
  | unimportable => exact fun link member => by cases member
  | notAPackage => exact fun link member => by cases member
  | notFound => exact fun link member => by cases member
  | parentFailed _ _ failed => exact importParent_coherent nested failed
  | probeFailed => exact List.forall_mem_singleton.mpr rfl
  | planFailed _ search failed =>
    obtain ⟨-, resolution, resolved, offers⟩ := search_loader search
    obtain ⟨artifact, cause, rfl⟩ := corrupt_of_find resolved offers failed
    exact List.forall_mem_singleton.mpr rfl
  | bodyFailed _ _ _ body => exact List.forall_mem_cons.mpr ⟨rfl, body_coherent nested body⟩

theorem importWithin_coherent (fs : FileSystem) (depth : Nat) :
    Coherently (importWithin fs depth) := by
  induction depth with
  | zero =>
    intro name s e t h
    cases h
  | succ depth ih =>
    intro name s e t h
    obtain ⟨d, u, same, level, -⟩ := importWithin_inv h
    cases same
    exact level_coherent ih level

/-- Finding and loading agree. What an importer offers to load it resolves again to an artifact that
can be read, and a load that has a plan can fail by its body only, for the interpreter refuses no
module. So if a call fails, then no failed load in its error, however deeply nested, says
otherwise. -/
theorem chain_coherent :
    (∀ fs importer name, Importer.offer fs importer name = .ok .loader →
      ∃ resolution artifact bytes, importer.resolve fs name = .ok resolution ∧
        resolution.artifact? = some artifact ∧ fs.read artifact = .ok bytes) ∧
    (∀ (inner : String → Run Module) importer plan s e t,
      (host inner).carryOut importer plan s = some (.error e, t) →
        ∃ cause, e = .execution plan.target cause) ∧
    ∀ fs name s e t, importModule fs name s = some (.error e, t) ∨
        runMain fs name s = some (.error e, t) →
      ∀ link ∈ e.chain, link.contradicts = false := by
  refine ⟨?_, ?_, ?_⟩
  · intro fs importer name offered
    obtain ⟨resolution, resolved, offers⟩ := offer_inv offered
    obtain ⟨artifact, bytes, isArtifact, read⟩ := readable_of_offer resolved offers
    exact ⟨resolution, artifact, bytes, resolved, isArtifact, read⟩
  · intro inner importer plan s e t failed
    obtain ⟨_, _, absurd, _⟩ | ⟨cause, _, _, same, _⟩ := carryOut_inv failed
    · cases absurd
    · cases same
      exact ⟨cause, rfl⟩
  · intro fs name s e t call
    rcases call with imported | ran
    · exact importWithin_coherent fs _ imported
    · rw [runMain_eq] at ran
      exact importWithin_coherent fs _ ran

/-- A module `a` that imports `b`, and the artifact of `b` is empty. -/
def corruptFiles : FileSystem where
  entries := [("r", .directory [
    ("a.pyf", .file (Artifact.frame (Artifact.body.write ⟨"a", "a.py", [.importName "b" none]⟩))),
    ("b.pyf", .file [])])]
  workingDirectory := .top

/-- The import of `a` fails because that of `b` fails in its body, and yet an importer offers `b`. -/
theorem chain_coherent_corruptFiles :
    ∃ e t, importModule corruptFiles "a" fresh = some (.error e, t) ∧
      e.chain.filterMap LoadError.moduleName? = ["a", "b"] ∧
      (∀ link ∈ e.chain, link.contradicts = false) ∧
      ∃ resolution artifact bytes, Importer.resolve corruptFiles ⟨0, ⟨"/r"⟩⟩ "b" = .ok resolution ∧
        resolution.artifact? = some artifact ∧ corruptFiles.read artifact = .ok bytes := by
  have ran : (importModule corruptFiles "a" fresh).map (fun p => match p.1 with
      | .error e => e.chain.filterMap LoadError.moduleName?
      | .ok _ => []) = some ["a", "b"] := by decide +kernel
  have offered : Importer.offer corruptFiles ⟨0, ⟨"/r"⟩⟩ "b" = .ok .loader := by decide +kernel
  obtain ⟨⟨x, t⟩, call, names⟩ := Option.map_eq_some_iff.mp ran
  cases x with
  | ok _ => cases names
  | error e =>
    exact ⟨e, t, call, names, chain_coherent.2.2 _ _ _ _ _ (.inl call),
      chain_coherent.1 _ _ _ offered⟩

end Interpreter

end ModuleImport
