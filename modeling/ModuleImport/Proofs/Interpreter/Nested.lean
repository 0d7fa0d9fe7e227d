import ModuleImport.Proofs.Interpreter.Asked

namespace ModuleImport

open Run Interpreter

variable {fs : FileSystem} {N : String → Prop} {names : List String} {name other : String}
  {depth : Nat} {s t u : Interpreter}

theorem Body.Asks.closed (closed : Closed fs N) {module : Module} {artifact : Path}
    {instructions : List Instruction}
    (asks : Body.Asks (importWithin fs depth) module artifact instructions s other t)
    (imports : ∀ name ∈ instructions.flatMap Instruction.imports, N name) : N other := by
  induction asks with
  | named => exact imports _ List.mem_cons_self
  | outermost got _ =>
    exact closed.top (imports _ List.mem_cons_self) (isImportable_of_importWithin got)
  | later _ _ ih => exact ih fun name member => imports name (List.mem_append_right _ member)

namespace Interpreter

theorem Asked.closed (closed : Closed fs N) (requested : N name)
    (asked : Asked fs (importWithin fs depth) name s other t) : N other := by
  cases asked with
  | parent _ _ isParent => exact closed.parent requested isParent
  | body _ _ found asks =>
    exact asks.closed closed fun _ member =>
      closed.imported (LoadPlan.imports_of_find found member)

/-- What imports of some names mention is imported within them as it is from outside. -/
theorem importWithin_eq (consistent : s.Consistent) (member : name ∈ fs.mentioned names)
    (deep : importDepth fs names ≤ depth + 1) :
    importWithin fs depth name s = importModule fs name s := by
  obtain ⟨p, within⟩ := ends_mentioned consistent member deep
  obtain ⟨q, alone⟩ := ends_importModule consistent fs name
  -- both are what the import comes to when it is allowed either depth
  have both : some p = some q :=
    (within _ (Nat.le_max_left depth (importDepth fs [name]))).symm.trans
      (alone _ (Nat.le_max_right depth (importDepth fs [name])))
  exact (within depth (Nat.le_refl _)).trans (both.trans (alone _ (Nat.le_refl _)).symm)

theorem importModule_eq (consistent : s.Consistent) :
    importModule fs name s = (do
      let module ← importStep fs (importModule fs) name
      change (·.record (.imported name module))
      pure module) s := by
  obtain ⟨depth, same⟩ : ∃ depth, importDepth fs [name] = depth + 1 :=
    Nat.exists_eq_succ_of_ne_zero (Nat.mul_ne_zero (Nat.succ_ne_zero _) (Nat.succ_ne_zero _))
  rw [importModule, same, importWithin]
  refine bind_agree (importStep_asked fun other t asked => ?_).symm fun _ => rfl
  have mentioned := asked.closed (closed_mentioned fs [name]) (mentioned_of_mem List.mem_cons_self)
  exact (importWithin_eq (asked.start consistent).1 mentioned (Nat.le_of_eq same)).symm

theorem importModule_of_level {x : Except RunError Module} (consistent : s.Consistent)
    (level : Level fs (importModule fs) name s x t) :
    importModule fs name s = some (x, t.noteImported name x) := by
  have step := importStep_of_level level
  rw [importModule_eq consistent]
  cases x with
  | ok module => exact bind_of_ok step
  | error e => exact bind_of_error step

theorem loadModule_eq (consistent : s.Consistent) (importer : Importer) (name : String) :
    loadModule fs importer name s = ExceptT.adapt .failedLoad
      ((host (importModule fs)).loadModule fs importer (s.store.entryPointOf importer) name) s := by
  rw [loadModule, look_bind, loadingHost]
  apply adapt_agree
  rw [Host.loadModule_eq, Host.loadModule_eq]
  cases found : LoadPlan.find (ε := RunError) fs importer (s.store.entryPointOf importer) name with
  | error e => rfl
  | ok plan =>
    refine (carryOut_agree (Body.runInstructions_asked fun other t asks => ?_)).symm
    have mentioned := asks.closed (closed_mentioned fs []) fun _ member =>
      (closed_mentioned fs []).imported (LoadPlan.imports_of_find found member)
    have started := consistent_started importer plan consistent
    exact (importWithin_eq (asks.continues started).consistent mentioned (Nat.le_succ _)).symm

end Interpreter

end ModuleImport
