import ModuleImport.Proofs.Interpreter.Ends
import ModuleImport.Proofs.Interpreter.Inside

namespace ModuleImport

/-- Two file systems that look alike, with files that hold the same at some paths. -/
structure FileSystem.AgreesOn (inside : Path → Prop) (fs fs' : FileSystem) : Prop where
  workingPath : fs'.workingPath? = fs.workingPath?
  probe : ∀ p, Repository.probe fs' p = Repository.probe fs p
  read : ∀ p, inside p → fs'.read p = fs.read p

/-- There the artifact of some name stands inside the repositories. -/
def HoldsArtifact (base? : Option Path) (entries : List Path) (strict : Prop) (p : Path) : Prop :=
  ∃ name, ArtifactInside base? entries strict name p

namespace Run

variable {α β ε δ : Type} {s t : Interpreter}

theorem bind_agree {r r' : Failing ε α} {f f' : α → Failing ε β} (first : r' s = r s)
    (rest : ∀ {a t}, r s = some (.ok a, t) → f' a t = f a t) : (r' >>= f') s = (r >>= f) s := by
  change (r' s).bind (fun p => ExceptT.bindCont f' p.1 p.2) =
    (r s).bind (fun p => ExceptT.bindCont f p.1 p.2)
  rw [first]
  cases ran : r s with
  | none => rfl
  | some p =>
    obtain ⟨x, t⟩ := p
    cases x with
    | error e => rfl
    | ok a => exact rest ran

theorem tryCatch_agree {r r' : Failing ε α} {f f' : ε → Failing ε α} (first : r' s = r s)
    (rest : ∀ e t, f' e t = f e t) : tryCatch r' f' s = tryCatch r f s := by
  cases ran : r s with
  | none =>
    simp only [tryCatch, tryCatchThe, MonadExceptOf.tryCatch, ExceptT.tryCatch, ExceptT.mk, bind,
      StateT.bind, first, ran]
    rfl
  | some p =>
    obtain ⟨x, t⟩ := p
    have ran' := first.trans ran
    cases x with
    | ok a => rw [tryCatch_of_ok ran', tryCatch_of_ok ran]
    | error e => rw [tryCatch_of_error ran', tryCatch_of_error ran, rest]

theorem adapt_agree {r r' : Failing ε α} (f : ε → δ) (same : r' s = r s) :
    (ExceptT.adapt f r') s = (ExceptT.adapt f r) s := by
  rw [adapt_eq, adapt_eq, same]

end Run

open Run

namespace FileSystem.AgreesOn

variable {inside : Path → Prop} {fs fs' : FileSystem}

theorem isDirectory (agrees : fs.AgreesOn inside fs') (p : Path) :
    fs'.isDirectory p = fs.isDirectory p := by
  have probed (fs : FileSystem) :
      fs.isDirectory p = true ↔ Repository.probe fs p = .ok .directory := by
    unfold FileSystem.isDirectory Repository.probe
    cases fs.stat p with
    | error e => cases e <;> simp
    | ok node => cases node <;> simp
  rw [Bool.eq_iff_iff, probed, probed, agrees.probe]

theorem importerFor (agrees : fs.AgreesOn inside fs') (entry : Path) (s : Interpreter) :
    s.importerFor fs' entry = s.importerFor fs entry := by
  have opened : Repository.openRoot fs' entry = Repository.openRoot fs entry := by
    unfold Repository.openRoot
    simp only [agrees.workingPath, agrees.isDirectory]
  unfold Interpreter.importerFor Store.openImporter
  rw [opened]

theorem resolve (agrees : fs.AgreesOn inside fs') (importer : Importer) (name : String) :
    importer.resolve fs' name = importer.resolve fs name := by
  unfold Importer.resolve Repository.resolve
  rw [show Repository.probe fs' = Repository.probe fs from funext agrees.probe]

theorem search (agrees : fs.AgreesOn inside fs') (name : String) (directories : List Path)
    (s : Interpreter) : s.search fs' name directories = s.search fs name directories := by
  induction directories generalizing s with
  | nil => rfl
  | cons entry rest ih =>
    unfold Interpreter.search Importer.offer
    simp only [agrees.importerFor, agrees.resolve, ih]

theorem make {ε : Type} (agrees : fs.AgreesOn inside fs') {resolution : Resolution}
    (stands : ∀ artifact ∈ resolution.artifact?, inside artifact) {entryPoint : Option String}
    {name : String} :
    LoadPlan.make (ε := ε) fs' entryPoint name resolution =
      LoadPlan.make fs entryPoint name resolution := by
  unfold LoadPlan.make
  cases isArtifact : resolution.artifact? with
  | none => rfl
  | some artifact =>
    dsimp only
    rw [agrees.read artifact (stands artifact isArtifact)]

theorem find {ε : Type} (agrees : fs.AgreesOn inside fs') {importer : Importer} {name : String}
    (stands : ∀ resolution, importer.resolve fs name = .ok resolution →
      ∀ artifact ∈ resolution.artifact?, inside artifact) (entryPoint : Option String) :
    LoadPlan.find (ε := ε) fs' importer entryPoint name =
      LoadPlan.find fs importer entryPoint name := by
  unfold LoadPlan.find
  rw [agrees.resolve]
  cases resolved : importer.resolve fs name with
  | error cause => rfl
  | ok resolution =>
    dsimp only
    rw [agrees.make (stands resolution resolved)]

end FileSystem.AgreesOn

namespace Interpreter

variable {base? : Option Path} {entries : List Path} {strict : Prop}
  {fs fs' : FileSystem} {roots : List String} {name : String} {depth : Nat} {s t u : Interpreter}

section Loads

variable {inner inner' : String → Run Module} {importer : Importer} {plan : LoadPlan}

theorem run_agree {module : Module} {code : Code} {artifact : Path}
    (body : Body.runInstructions inner' module artifact code.instructions
        (s.entered module code artifact) =
      Body.runInstructions inner module artifact code.instructions
        (s.entered module code artifact)) :
    Body.run inner' module code artifact s = Body.run inner module code artifact s := by
  unfold Body.run
  simp only [change_bind]
  exact bind_agree (tryCatch_agree body fun _ _ => rfl) fun _ => rfl

theorem fill_agree {module : Module}
    (body : Body.runInstructions inner' module plan.artifact plan.code.instructions
        (s.prepared importer plan module) =
      Body.runInstructions inner module plan.artifact plan.code.instructions
        (s.prepared importer plan module)) :
    (host inner').fill importer plan module s = (host inner).fill importer plan module s := by
  rw [fill_eq, fill_eq]
  exact adapt_agree _ (run_agree body)

theorem carryOut_agree
    (body : Body.runInstructions inner' (s.loading plan) plan.artifact plan.code.instructions
        (s.started importer plan) =
      Body.runInstructions inner (s.loading plan) plan.artifact plan.code.instructions
        (s.started importer plan)) :
    (host inner').carryOut importer plan s = (host inner).carryOut importer plan s := by
  have registered (inner : String → Run Module) : (host inner).getOrCreate plan.target s =
      some (.ok (s.getOrCreate plan.target).1, (s.getOrCreate plan.target).2) := rfl
  rw [Host.carryOut, Host.carryOut, bind_of_ok (adapt_of_ok _ (registered inner')),
    bind_of_ok (adapt_of_ok _ (registered inner))]
  have filled : (host inner').fill importer plan (s.loading plan) (s.getOrCreate plan.target).2 =
      (host inner).fill importer plan (s.loading plan) (s.getOrCreate plan.target).2 :=
    fill_agree body
  refine bind_agree (tryCatch_agree filled fun e t => ?_) fun _ => rfl
  rw [takeBack_eq, takeBack_eq]

theorem runInstruction_congr {module : Module} {artifact : Path} {instruction : Instruction}
    (named : ∀ name bind, instruction = .importName name bind → inner' name s = inner name s)
    (outermost : ∀ name imported t, instruction = .importName name none →
      inner name s = some (.ok imported, t) → Name.top name ≠ name →
      inner' (Name.top name) t = inner (Name.top name) t) :
    Body.runInstruction inner' module artifact instruction s =
      Body.runInstruction inner module artifact instruction s := by
  unfold Body.runInstruction
  cases instruction with
  | importName name bind =>
    refine bind_agree (named name bind rfl) fun {imported t} got => ?_
    cases bind with
    | some target => rfl
    | none =>
      refine bind_agree ?_ fun _ => rfl
      unfold Body.outermost
      split
      · rfl
      · rename_i other
        exact outermost name imported t rfl got other
  | _ => rfl

theorem importParent_congr
    (same : ∀ parent, Name.parent? name = some parent → inner' parent s = inner parent s) :
    importParent inner' name s = importParent inner name s := by
  unfold importParent
  cases isParent : Name.parent? name with
  | none => rfl
  | some parent =>
    simp only [map_eq_pure_bind]
    exact bind_agree (same parent isParent) fun _ => rfl

/-- What a level comes to after its parent's import is the same if the search is, and the plan that
it leads to, and the run of the body. -/
theorem importFrom_congr {directories : List Path}
    (searched : s.search fs' name directories = s.search fs name directories)
    (planned : ∀ {importer t}, s.search fs name directories = (.ok (.loader importer), t) →
      LoadPlan.find (ε := RunError) fs' importer (t.store.entryPointOf importer) name =
        LoadPlan.find fs importer (t.store.entryPointOf importer) name)
    (body : ∀ {importer plan t}, s.search fs name directories = (.ok (.loader importer), t) →
      LoadPlan.find (ε := RunError) fs importer (t.store.entryPointOf importer) name = .ok plan →
      Body.runInstructions inner' (t.loading plan) plan.artifact plan.code.instructions
          (t.started importer plan) =
        Body.runInstructions inner (t.loading plan) plan.artifact plan.code.instructions
          (t.started importer plan)) :
    importFrom fs' inner' name directories s = importFrom fs inner name directories s := by
  unfold importFrom
  simp only [step_bind, searched]
  cases search : s.search fs name directories with
  | mk found t =>
    match found with
    | .error e => rfl
    | .ok (.portions []) => rfl
    | .ok (.portions (portion :: portions)) => rfl
    | .ok (.loader importer) =>
      simp only [look_bind, Host.loadModule_eq]
      refine adapt_agree _ ?_
      rw [planned search]
      cases found : LoadPlan.find (ε := RunError) fs importer (t.store.entryPointOf importer)
          name with
      | error e => rfl
      | ok plan => exact carryOut_agree (body search found)

/-- A level does the same if the import of the parent does, and what it comes to after that. -/
theorem importStep_congr
    (parent : Name.isImportable name = true → s.loaded? name = none →
      importParent inner' name s = importParent inner name s)
    (onwards : ∀ {parent? directories t}, Searching inner name s parent? directories t →
      importFrom fs' inner' name directories t = importFrom fs inner name directories t) :
    importStep fs' inner' name s = importStep fs inner name s := by
  unfold importStep
  cases importable : Name.isImportable name with
  | false => simp only [Bool.false_eq_true, if_false]
  | true =>
    simp only [if_true, look_bind]
    cases absent : s.loaded? name with
    | some module => dsimp only
    | none =>
      dsimp only
      refine bind_agree (parent importable absent) fun {parent? t} imported => ?_
      refine bind_agree rfl fun {directories u} path => ?_
      obtain ⟨rfl, ⟨_, known, same⟩ | ⟨_, _, _, absurd⟩⟩ := directoriesFor_inv path
      · cases same
        simp only [look_bind]
        cases stillAbsent : u.loaded? name with
        | some module => dsimp only
        | none =>
          dsimp only
          have searching : Searching inner name s parent? directories u :=
            ⟨importable, absent, imported, known, stillAbsent⟩
          exact bind_agree (onwards searching) fun _ => rfl
      · cases absurd

end Loads

/-- Imports that are nested less deeply do the same over both file systems. -/
def Agreeing (base? : Option Path) (entries : List Path) (strict : Prop) (fs fs' : FileSystem)
    (depth : Nat) : Prop :=
  ∀ {name s}, s.Consistent → s.Rooted base? entries strict →
    importWithin fs' depth name s = importWithin fs depth name s

section Runs

variable (there : fs.workingPath? = base?) (nested : Agreeing base? entries strict fs fs' depth)
include there nested

theorem instruction_agree (consistent : s.Consistent) (rooted : s.Rooted base? entries strict)
    (module : Module) (artifact : Path) (instruction : Instruction) :
    Body.runInstruction (importWithin fs' depth) module artifact instruction s =
      Body.runInstruction (importWithin fs depth) module artifact instruction s := by
  refine runInstruction_congr (fun _ _ _ => nested consistent rooted) fun name _ t _ got _ => ?_
  have after := importWithin_continues consistent got
  have changes : Changes fs [name] s t :=
    importWithin_changes fs [name] depth (.requested List.mem_cons_self) consistent got
  exact nested after.consistent (rooted.changes there changes)

theorem body_agree (site : Site) (consistent : s.Consistent)
    (rooted : s.Rooted base? entries strict)
    (running : s.Running site.module site.code site.artifact) {instructions : List Instruction}
    (own : ∀ instruction ∈ instructions, instruction ∈ site.code.instructions) :
    Body.runInstructions (importWithin fs' depth) site.module site.artifact instructions s =
      Body.runInstructions (importWithin fs depth) site.module site.artifact instructions s := by
  induction instructions generalizing s with
  | nil => rw [Body.runInstructions, Body.runInstructions]
  | cons instruction rest ih =>
    rw [Body.runInstructions, Body.runInstructions]
    refine bind_agree (instruction_agree there nested consistent rooted _ _ _) fun {_ t} ran => ?_
    have advances : Advances fs [] s t :=
      instruction_advances consistent running (own _ List.mem_cons_self) ran
    exact ih advances.continues.consistent (rooted.changes there advances.changes)
      (running.later advances.continues) fun other member =>
        own other (List.mem_cons_of_mem _ member)

theorem importFrom_agree (agrees : fs.AgreesOn (HoldsArtifact base? entries strict) fs')
    (consistent : s.Consistent) {parent? : Option Module} {directories : List Path}
    (searching : Searching (importWithin fs depth) name s parent? directories t)
    (rooted : t.Rooted base? entries strict) :
    importFrom fs' (importWithin fs' depth) name directories t =
      importFrom fs (importWithin fs depth) name directories t := by
  have isBase : ∀ base ∈ base?, base.isAbsolute = true :=
    there ▸ Repository.isAbsolute_workingPath fs
  have between := (importParent_continues consistent searching.parent).consistent
  have rooted' {importer : Importer} {u : Interpreter}
      (search : t.search fs name directories = (.ok (.loader importer), u)) :
      u.Rooted base? entries strict :=
    have chain : Changes fs [name] t u := search_changes between search
    rooted.changes there chain
  refine importFrom_congr (agrees.search name directories t) ?_ ?_
  · intro importer u search
    have ready := ready_of_search consistent searching search
    exact agrees.find (fun resolution resolved artifact isArtifact =>
      ⟨name, ((rooted' search).resolved isBase ready resolved).1 artifact isArtifact⟩) _
  · intro importer plan u search found
    have loadable := loadable_of_search consistent searching search found
    have started : Change fs [name] u (u.started importer plan) :=
      .started (.requested List.mem_cons_self) loadable
    exact body_agree there nested ⟨u.loading plan, plan.code, plan.artifact⟩
      (consistent_started importer plan loadable.consistent) ((rooted' search).change there started)
      loadable.running fun _ member => member

theorem importStep_agree (agrees : fs.AgreesOn (HoldsArtifact base? entries strict) fs')
    (consistent : s.Consistent) (rooted : s.Rooted base? entries strict) :
    importStep fs' (importWithin fs' depth) name s =
      importStep fs (importWithin fs depth) name s := by
  refine importStep_congr (fun _ _ => importParent_congr fun _ _ => nested consistent rooted) ?_
  intro parent? directories t searching
  have advances : Advances fs [name] s t :=
    importParent_advances (.requested List.mem_cons_self) consistent searching.parent
  exact importFrom_agree there nested agrees consistent searching
    (rooted.changes there advances.changes)

end Runs

/-- However deeply imports are nested, they do the same over file systems that agree on all that
stands inside. -/
theorem importWithin_agree (there : fs.workingPath? = base?)
    (agrees : fs.AgreesOn (HoldsArtifact base? entries strict) fs') (depth : Nat) :
    Agreeing base? entries strict fs fs' depth := by
  induction depth with
  | zero =>
    intro name s _ _
    rfl
  | succ depth ih =>
    intro name s consistent rooted
    exact bind_agree (importStep_agree there ih agrees consistent rooted) fun _ => rfl

theorem importModule_agree (there : fs.workingPath? = base?)
    (agrees : fs.AgreesOn (HoldsArtifact base? entries strict) fs') (consistent : s.Consistent)
    (rooted : s.Rooted base? entries strict) :
    importModule fs' name s = importModule fs name s := by
  obtain ⟨p, ended⟩ := ends_importModule consistent fs name
  obtain ⟨p', ended'⟩ := ends_importModule consistent fs' name
  -- the two file systems may mention different names, so they may allow different depths
  have enough := ended (max (importDepth fs [name]) (importDepth fs' [name])) (le_max_left _ _)
  have enough' := ended' (max (importDepth fs [name]) (importDepth fs' [name])) (le_max_right _ _)
  calc importModule fs' name s
    _ = some p' := ended' _ (Nat.le_refl _)
    _ = some p := by
      rw [← enough', ← enough]
      exact importWithin_agree there agrees _ consistent rooted
    _ = importModule fs name s := (ended _ (Nat.le_refl _)).symm

/-- Imports stay inside the repositories. Whatever is executed for a name, and whatever becomes a
portion of its namespace package, stands below the absolute form of an entry of the search path, at
the end of a row of steps down of which the last is the last segment of the name; and if no entry
point was ever set, the steps are the segments of the name. An artifact that cannot be loaded
stands there, too, and nothing else is read: over files that hold something else in any other place
the call ends in the same way. -/
theorem imports_stay_inside {config : Config} {mains later : List String}
    {run : FileSystem → String → Run Module} {x : Except RunError Module}
    (reached : ReachedFrom base? config mains s) (there : fs.workingPath? = base?)
    (call : run = importModule ∧ later = mains ∨ run = runMain ∧ later = name :: mains)
    (ended : run fs name s = some (x, t)) :
    (∀ event ∈ t.trace, event ∈ s.trace ∨
      t.StandsInside base? config.searchPath (later = []) [name] event) ∧
    (∀ e, x = .error e → t.UnreadInside base? config.searchPath (later = []) [name] e) ∧
    ∀ fs', fs.AgreesOn (HoldsArtifact base? config.searchPath (later = [])) fs' →
      run fs' name s = some (x, t) := by
  obtain ⟨u, trace, consistent, rooted, imports⟩ : ∃ u : Interpreter, u.trace = s.trace ∧
      u.Consistent ∧ u.Rooted base? config.searchPath (later = []) ∧
      ∀ fs, run fs name s = importModule fs name u := by
    obtain ⟨rfl, rfl⟩ | ⟨rfl, rfl⟩ := call
    · exact ⟨s, rfl, reached.reached.consistent, reached.rooted, fun _ => rfl⟩
    · have start := reached.setEntryPoint (some name)
      exact ⟨s.setEntryPoint (some name), rfl, start.reached.consistent, start.rooted,
        fun _ => rfl⟩
  rw [imports] at ended
  have changes : Changes fs [name] u t :=
    importModule_changes consistent List.mem_cons_self ended
  refine ⟨?_, ?_, fun fs' agrees => ?_⟩
  · rw [← trace]
    exact rooted.events there changes
  · rintro e rfl
    exact rooted.fails there
      (importWithin_fails fs [name] _ (.requested List.mem_cons_self) consistent ended)
  · rw [imports, importModule_agree there agrees consistent rooted, ended]

/-- A namespace package `n` with a package `p` inside it, whose submodule imports `n.bad`, which is
corrupt. -/
def insideFiles : FileSystem where
  entries := [("r", .directory [("n", .directory [
    ("bad.pyf", .file []),
    ("p", .directory [
      ("__init__.pyf", .file (Artifact.frame (Artifact.body.write ⟨"n.p", "p.py", []⟩))),
      ("c.pyf", .file (Artifact.frame
        (Artifact.body.write ⟨"n.p.c", "c.py", [.importName "n.bad" none]⟩)))])])])]
  workingDirectory := .top

theorem imports_stay_inside_insideFiles :
    ∃ e t, importModule insideFiles "n.p.c" (new ⟨[⟨"r"⟩], none, .silent⟩) = some (.error e, t) ∧
      DirectoryInside (some ⟨"/"⟩) [⟨"r"⟩] True "n" ⟨"/r/n"⟩ ∧
      ArtifactInside (some ⟨"/"⟩) [⟨"r"⟩] True "n.p.c" ⟨"/r/n/p/c.pyf"⟩ ∧
      ArtifactInside (some ⟨"/"⟩) [⟨"r"⟩] True "n.bad" ⟨"/r/n/bad.pyf"⟩ := by
  have ran : (importModule insideFiles "n.p.c" (new ⟨[⟨"r"⟩], none, .silent⟩)).map (fun p =>
        (match p.1 with | .error e => e.chain.map LoadError.unread? | .ok _ => [],
          p.2.entryPoint, decide (.assembled "n" ⟨0, "n"⟩ [⟨"/r/n"⟩] ∈ p.2.trace),
          decide (.began ⟨2, "n.p.c"⟩ ⟨"n.p.c", "c.py", [.importName "n.bad" none]⟩
            ⟨"/r/n/p/c.pyf"⟩ ∈ p.2.trace))) =
      some ([none, some ("n.bad", ⟨"/r/n/bad.pyf"⟩)], none, true, true) := by decide +kernel
  obtain ⟨⟨x, t⟩, call, same⟩ := Option.map_eq_some_iff.mp ran
  obtain ⟨unread, same⟩ := Prod.mk.inj same
  obtain ⟨entryless, same⟩ := Prod.mk.inj same
  obtain ⟨assembled, began⟩ := Prod.mk.inj same
  cases x with
  | ok module => cases unread
  | error e =>
    have start : ReachedFrom (some ⟨"/"⟩) ⟨[⟨"r"⟩], none, .silent⟩ []
      (new ⟨[⟨"r"⟩], none, .silent⟩) := .new
    obtain ⟨events, errors, -⟩ := imports_stay_inside start rfl (.inl ⟨rfl, rfl⟩) call
    rw [← eq_self ([] : List String)]
    refine ⟨e, t, call, ?_, ?_, ?_⟩
    · obtain absurd | ⟨requested, _, same, stand⟩ := events _ (of_decide_eq_true assembled)
      · cases absurd
      · rw [registeredName_eq entryless] at same
        cases same
        exact stand _ List.mem_cons_self
    · obtain absurd | ⟨requested, _, same, stands⟩ := events _ (of_decide_eq_true began)
      · cases absurd
      · rw [registeredName_eq entryless] at same
        cases same
        exact stands
    · have member : some ("n.bad", ⟨"/r/n/bad.pyf"⟩) ∈ e.chain.map LoadError.unread? := by
        rw [show e.chain.map LoadError.unread? = _ from unread]
        exact List.mem_cons_of_mem _ List.mem_cons_self
      obtain ⟨link, isLink, about⟩ := List.mem_map.mp member
      exact (errors e rfl link isLink _ _ about).2

end Interpreter

end ModuleImport
