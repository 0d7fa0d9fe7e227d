import ModuleImport.Proofs.Interpreter.Ends

namespace ModuleImport.Interpreter

variable {fs : FileSystem} {depth : Nat} {name : String} {s t : Interpreter} {e : RunError}

theorem loaded?_abandoned {plan : LoadPlan} (absent : s.lookup plan.target = none)
    (target : plan.target = s.registeredName name) (entryPoint : t.entryPoint = s.entryPoint) :
    (s.abandoned plan t).loaded? name = none := by
  have same : (s.abandoned plan t).registeredName name = plan.target := by
    rw [abandoned_of_absent absent, target]
    unfold registeredName
    exact congrArg (Name.registered · name) entryPoint
  unfold loaded?
  rw [same]
  exact (lookup_abandoned absent _).trans (if_pos rfl)

theorem level_failed (consistent : s.Consistent)
    (level : Level fs (importWithin fs depth) name s (.error e) t) (absent : s.loaded? name = none) :
    t.loaded? name = none ∨ Name.isImportable name = true ∧
      ∃ parent y, Name.parent? name = some parent ∧ importWithin fs depth parent s = some (y, t) ∧
        (y = .error e ∨ ∃ package, y = .ok package ∧ t.store.searchPath? package = none) := by
  cases level with
  | unimportable => exact .inl absent
  | parentFailed importable _ failed =>
    obtain ⟨_, absurd, _⟩ | ⟨parent, y, isParent, imported, same⟩ := importParent_inv failed
    · cases absurd
    · cases y with
      | ok _ => cases same
      | error e' =>
        cases same
        exact .inr ⟨importable, parent, _, isParent, imported, .inl rfl⟩
  | notAPackage importable _ parent none =>
    obtain ⟨_, absurd, _⟩ | ⟨parent, y, isParent, imported, same⟩ := importParent_inv parent
    · cases absurd
    · cases y with
      | error _ => cases same
      | ok _ =>
        cases same
        exact .inr ⟨importable, parent, _, isParent, imported, .inr ⟨_, rfl, none⟩⟩
  | probeFailed searching search => exact .inl (loaded?_of_search searching.stillAbsent search)
  | notFound searching search => exact .inl (loaded?_of_search searching.stillAbsent search)
  | planFailed searching search _ => exact .inl (loaded?_of_search searching.stillAbsent search)
  | @bodyFailed _ _ importer plan _ _ u v searching search found body =>
    left
    have parent := importParent_continues consistent searching.parent
    have before := parent.trans (search_continues parent.consistent search)
    have unregistered :=
      lookup_target_of_search before.consistent.sound searching.stillAbsent search found
    have ran := body_continues (consistent_started importer plan before.consistent) body
    refine loaded?_abandoned unregistered (target_of_search before.consistent search found) ?_
    exact ran.entryPoint.trans (started_of_absent importer unregistered).entryPoint

/-- The import of the parent of a name failed, or the parent is no package. -/
inductive ParentFailed (fs : FileSystem) (name : String) (s : Interpreter) (e : RunError)
    (t : Interpreter) : Prop
  | failed {parent} : Name.parent? name = some parent →
      importModule fs parent s = some (.error e, t) → ParentFailed fs name s e t
  | notAPackage {parent package} : Name.parent? name = some parent →
      importModule fs parent s = some (.ok package, t) → t.store.searchPath? package = none →
      ParentFailed fs name s e t

/-- Within the import of a name its parent is imported as it would be in a call of its own. -/
theorem importModule_of_parent (consistent : s.Consistent) {parent : String}
    (isParent : Name.parent? name = some parent) {p : Except RunError Module × Interpreter}
    (depth_eq : importDepth fs [name] = depth + 1)
    (imported : importWithin fs depth parent s = some p) : importModule fs parent s = some p := by
  obtain ⟨q, ended⟩ := ends_importModule consistent fs parent
  -- a parent has fewer segments than its name, so the depth that is left is enough for it alone
  have deep : importDepth fs [parent] ≤ depth := by
    have := importDepth_parent_lt fs isParent
    omega
  exact (ended _ (Nat.le_refl _)).trans ((ended depth deep).symm.trans imported)

theorem importModule_of_loaded {module : Module} (importable : Name.isImportable name = true)
    (loaded : s.loaded? name = some module) :
    importModule fs name s = some (.ok module, s.record (.imported name module)) := by
  have step (inner : String → Run Module) : importStep fs inner name s = some (.ok module, s) :=
    importStep_of_level (.registered importable loaded)
  obtain ⟨depth, same⟩ : ∃ depth, importDepth fs [name] = depth + 1 :=
    Nat.exists_eq_succ_of_ne_zero (Nat.mul_ne_zero (Nat.succ_ne_zero _) (Nat.succ_ne_zero _))
  rw [importModule, same, importWithin, Run.bind_of_ok (step _)]
  rfl

/-- A failed import leaves nothing under its own name, unless the import of the parent, with which it
begins, has brought in the module and has then failed or given no package. What is left then is a
whole module, and the import would now succeed. Otherwise nothing that the failed import has left can
be the answer when the import is repeated. -/
theorem lookup_of_failed (reached : Reached s) (absent : s.lookup (s.registeredName name) = none)
    (failed : importModule fs name s = some (.error e, t)) :
    (t.lookup (s.registeredName name) = none ∨ ∃ module,
      t.lookup (s.registeredName name) = some module ∧ ParentFailed fs name s e t ∧
        t.Whole (s.registeredName name) module ∧ ¬s.Owns module ∧
        importModule fs name t = some (.ok module, t.record (.imported name module))) ∧
    (t.lookup (s.registeredName name) = none →
      ∀ module u, importModule fs name t = some (.ok module, u) → ¬t.Owns module) := by
  have continues := importWithin_continues reached.consistent failed
  have after := Reached.called reached (.importModule failed)
  have sameName := continues.registeredName name
  constructor
  · obtain ⟨depth, _, depth_eq, level, rfl⟩ := importWithin_inv failed
    change Level fs _ name s _ t at level
    cases found : t.lookup (s.registeredName name) with
    | none => exact .inl rfl
    | some module =>
      right
      obtain ⟨whole, new⟩ := continues.settles.settled _ _ absent found
      have loaded : t.loaded? name = some module := by
        unfold loaded?
        rw [sameName]
        exact found
      obtain none | ⟨importable, parent, y, isParent, imported, ended⟩ :=
        level_failed reached.consistent level absent
      · rw [none] at loaded
        cases loaded
      have alone := importModule_of_parent reached.consistent isParent depth_eq imported
      refine ⟨module, rfl, ?_, whole, new, importModule_of_loaded importable loaded⟩
      obtain rfl | ⟨package, rfl, none⟩ := ended
      · exact .failed isParent alone
      · exact .notAPackage isParent alone none
  · intro unregistered module u repeated
    have onwards := importWithin_continues after.consistent repeated
    have loaded := loaded?_of_importWithin after.consistent repeated rfl
    unfold loaded? at loaded
    rw [onwards.registeredName, sameName] at loaded
    exact (onwards.settles.settled _ _ unregistered loaded).2

/-- A package `p` that imports its submodule `c` and then does one thing more, and a module `a` that
imports the submodule as well. -/
def strandedFiles (last : Instruction) : FileSystem where
  entries := [("r", .directory [
    ("a.pyf", .file (Artifact.frame
      (Artifact.body.write ⟨"a", "a.py", [.importName "p.c" (some "c")]⟩))),
    ("p", .directory [
      ("__init__.pyf", .file (Artifact.frame
        (Artifact.body.write ⟨"p", "p.py", [.importName "p.c" none, last]⟩))),
      ("c.pyf", .file (Artifact.frame (Artifact.body.write ⟨"p.c", "c.py", []⟩)))])])]
  workingDirectory := .top

theorem lookup_of_failed_strandedFiles :
    ∃ e t, importModule (strandedFiles (.raise "no")) "p.c" fresh = some (.error e, t) ∧
      t.lookup "p.c" = some ⟨1, "p.c"⟩ ∧ t.Whole "p.c" ⟨1, "p.c"⟩ ∧
      importModule (strandedFiles (.raise "no")) "p.c" t =
        some (.ok ⟨1, "p.c"⟩, t.record (.imported "p.c" ⟨1, "p.c"⟩)) := by
  have ran : (importModule (strandedFiles (.raise "no")) "p.c" fresh).map
      (fun p => (p.1.toOption, p.2.lookup "p.c")) = some (none, some ⟨1, "p.c"⟩) := by decide +kernel
  obtain ⟨⟨x, t⟩, call, same⟩ := Option.map_eq_some_iff.mp ran
  obtain ⟨failed, found⟩ := Prod.mk.inj same
  cases x with
  | ok module => cases failed
  | error e =>
    have unregistered : fresh.lookup (fresh.registeredName "p.c") = none := by decide +kernel
    have name : fresh.registeredName "p.c" = "p.c" := by decide +kernel
    obtain ⟨absurd | ⟨module, left, _, whole, _, again⟩, _⟩ :=
      lookup_of_failed reached_fresh unregistered call
    · rw [name, found] at absurd
      cases absurd
    · rw [name, found] at left
      cases left
      exact ⟨e, t, call, found, name ▸ whole, again⟩

/-- What an import ends with, what is registered under its name then, and what the same import ends
with when it is repeated. -/
def repeated (fs : FileSystem) (name : String) (s : Interpreter) :
    Option (Option Module × Option Module × Option Module) :=
  (importModule fs name s).bind fun (x, t) =>
    (importModule fs name t).map fun (y, _) => (x.toOption, t.lookup name, y.toOption)

/-- It is not so that a failed import always leaves its name unregistered, nor that an import that
has failed and has left its name unregistered fails again. -/
theorem failed_import_then_ok :
    repeated (strandedFiles (.raise "no")) "p.c" fresh =
      some (none, some ⟨1, "p.c"⟩, some ⟨1, "p.c"⟩) ∧
    repeated (strandedFiles (.store "__path__" .none)) "p.c" fresh =
      some (none, some ⟨1, "p.c"⟩, some ⟨1, "p.c"⟩) ∧
    repeated (strandedFiles (.raise "no")) "a" fresh =
      some (none, none, some ⟨3, "a"⟩) := by
  refine ⟨?_, ?_, ?_⟩ <;> decide +kernel

end ModuleImport.Interpreter
