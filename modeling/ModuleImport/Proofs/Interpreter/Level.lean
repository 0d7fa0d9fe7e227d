import ModuleImport.Proofs.Interpreter.Load

namespace ModuleImport

open Run Interpreter

variable {fs : FileSystem} {inner : String → Run Module} {name : String} {s s' : Interpreter}

theorem importParent_inv {x : Except RunError (Option Module)}
    (h : importParent inner name s = some (x, s')) :
    (Name.parent? name = none ∧ x = .ok none ∧ s' = s) ∨
      ∃ parent y, Name.parent? name = some parent ∧ inner parent s = some (y, s') ∧
        x = y.map some := by
  unfold importParent at h
  cases hparent : Name.parent? name with
  | none =>
    rw [hparent] at h
    obtain ⟨rfl, rfl⟩ := pure_inv h
    exact .inl ⟨rfl, rfl, rfl⟩
  | some parent =>
    right
    rw [hparent] at h
    simp only [map_eq_pure_bind] at h
    obtain ⟨e, failed, rfl⟩ | ⟨module, t, imported, h⟩ := bind_inv h
    · exact ⟨parent, .error e, rfl, failed, rfl⟩
    · obtain ⟨rfl, rfl⟩ := pure_inv h
      exact ⟨parent, .ok module, rfl, imported, rfl⟩

theorem importParent_of_none (none : Name.parent? name = none) :
    importParent inner name s = some (.ok .none, s) := by
  unfold importParent
  rw [none]
  rfl

theorem importParent_of_ok {parent : String} {module : Module}
    (isParent : Name.parent? name = some parent)
    (imported : inner parent s = some (.ok module, s')) :
    importParent inner name s = some (.ok (some module), s') := by
  unfold importParent
  rw [isParent]
  simp only [map_eq_pure_bind]
  exact bind_of_ok imported

namespace Interpreter

def directories? (parent? : Option Module) (s : Interpreter) : Option (List Path) :=
  match parent? with
  | none => some s.searchPath
  | some parent => s.store.searchPath? parent

/-- A level from `s` has come to its search in `t`: the parent is imported, there are directories to
search, and the name is still not registered. -/
structure Searching (inner : String → Run Module) (name : String) (s : Interpreter)
    (parent? : Option Module) (directories : List Path) (t : Interpreter) : Prop where
  importable : Name.isImportable name = true
  absent : s.loaded? name = none
  parent : importParent inner name s = some (.ok parent?, t)
  directories : t.directories? parent? = some directories
  stillAbsent : t.loaded? name = none

/-- Binds on a parent what was imported, if anything was. -/
def bindImported (parent? : Option Module) (name : String) (x : Except RunError Module)
    (s : Interpreter) : Interpreter :=
  match x with
  | .ok module => s.bindOnParent parent? name module
  | .error _ => s

/-- The ways in which one level of an import ends. -/
inductive Level (fs : FileSystem) (inner : String → Run Module) (name : String) (s : Interpreter) :
    Except RunError Module → Interpreter → Prop
  | unimportable : Name.isImportable name = false →
      Level fs inner name s (.error (.moduleNotFound name)) s
  | registered {module} : Name.isImportable name = true → s.loaded? name = some module →
      Level fs inner name s (.ok module) s
  | parentFailed {e t} : Name.isImportable name = true → s.loaded? name = none →
      importParent inner name s = some (.error e, t) →
      Level fs inner name s (.error e) t
  | notAPackage {parent t} : Name.isImportable name = true → s.loaded? name = none →
      importParent inner name s = some (.ok (some parent), t) →
      t.store.searchPath? parent = none →
      Level fs inner name s (.error (.notAPackage name parent.name)) t
  | registeredByParent {parent? directories module t} : Name.isImportable name = true →
      s.loaded? name = none → importParent inner name s = some (.ok parent?, t) →
      t.directories? parent? = some directories → t.loaded? name = some module →
      Level fs inner name s (.ok module) t
  | probeFailed {parent? directories e t u} : Searching inner name s parent? directories t →
      t.search fs name directories = (.error e, u) →
      Level fs inner name s (.error (.failedLoad (.probe e))) u
  | notFound {parent? directories t u} : Searching inner name s parent? directories t →
      t.search fs name directories = (.ok (.portions []), u) →
      Level fs inner name s (.error (.moduleNotFound name)) u
  | assembled {parent? directories portions t u} : Searching inner name s parent? directories t →
      t.search fs name directories = (.ok (.portions portions), u) → portions ≠ [] →
      Level fs inner name s (.ok (u.assemble name portions).1)
        ((u.assemble name portions).2.bindOnParent parent? name (u.assemble name portions).1)
  | planFailed {parent? directories importer e t u} :
      Searching inner name s parent? directories t →
      t.search fs name directories = (.ok (.loader importer), u) →
      LoadPlan.find fs importer (u.store.entryPointOf importer) name = .error e →
      Level fs inner name s (.error (.failedLoad e)) u
  | loaded {parent? directories importer plan t u v} :
      Searching inner name s parent? directories t →
      t.search fs name directories = (.ok (.loader importer), u) →
      LoadPlan.find (ε := RunError) fs importer (u.store.entryPointOf importer) name = .ok plan →
      Body.runInstructions inner (u.loading plan) plan.artifact plan.code.instructions
        (u.started importer plan) = some (.ok (), v) →
      Level fs inner name s (.ok (u.loading plan))
        ((u.completed plan v).bindOnParent parent? name (u.loading plan))
  | bodyFailed {parent? directories importer plan e t u v} :
      Searching inner name s parent? directories t →
      t.search fs name directories = (.ok (.loader importer), u) →
      LoadPlan.find (ε := RunError) fs importer (u.store.entryPointOf importer) name = .ok plan →
      Body.runInstructions inner (u.loading plan) plan.artifact plan.code.instructions
        (u.started importer plan) = some (.error e, v) →
      Level fs inner name s (.error (.failedLoad (.execution plan.target e))) (u.abandoned plan v)

end Interpreter

theorem directoriesFor_inv {parent? : Option Module} {x : Except RunError (List Path)}
    (h : directoriesFor parent? name s = some (x, s')) :
    s' = s ∧ ((∃ directories, s.directories? parent? = some directories ∧ x = .ok directories) ∨
      ∃ parent, parent? = some parent ∧ s.store.searchPath? parent = none ∧
        x = .error (.notAPackage name parent.name)) := by
  unfold directoriesFor at h
  cases parent? with
  | none =>
    cases h
    exact ⟨rfl, .inl ⟨s.searchPath, rfl, rfl⟩⟩
  | some parent =>
    simp only [look_bind] at h
    cases hpath : s.store.searchPath? parent with
    | none =>
      rw [hpath] at h
      obtain ⟨rfl, rfl⟩ := throw_inv h
      exact ⟨rfl, .inr ⟨parent, rfl, hpath, rfl⟩⟩
    | some directories =>
      rw [hpath] at h
      obtain ⟨rfl, rfl⟩ := pure_inv h
      exact ⟨rfl, .inl ⟨directories, hpath, rfl⟩⟩

theorem level_of_importFrom {parent? : Option Module} {directories : List Path} {t u : Interpreter}
    {x : Except RunError Module} (searching : Searching inner name s parent? directories t)
    (h : importFrom fs inner name directories t = some (x, u)) :
    Level fs inner name s x (u.bindImported parent? name x) := by
  rw [importFrom, step_bind] at h
  cases hsearch : t.search fs name directories with
  | mk found v =>
    rw [hsearch] at h
    cases found with
    | error e =>
      obtain ⟨rfl, rfl⟩ := throw_inv h
      exact .probeFailed searching hsearch
    | ok found =>
      cases found with
      | portions portions =>
        cases portions with
        | nil =>
          obtain ⟨rfl, rfl⟩ := throw_inv h
          exact .notFound searching hsearch
        | cons portion portions =>
          cases h
          exact .assembled searching hsearch (List.cons_ne_nil _ _)
      | loader importer =>
        simp only [look_bind, Host.loadModule_eq] at h
        obtain ⟨y, ended, rfl⟩ := adapt_inv h
        cases hplan : LoadPlan.find (ε := RunError) fs importer (v.store.entryPointOf importer)
            name with
        | error e =>
          rw [hplan] at ended
          obtain ⟨rfl, rfl⟩ := throw_inv ended
          exact .planFailed searching hsearch hplan
        | ok plan =>
          rw [hplan] at ended
          obtain ⟨w, body, rfl, rfl⟩ | ⟨e, w, body, rfl, rfl⟩ := carryOut_inv ended
          · exact .loaded searching hsearch hplan body
          · exact .bodyFailed searching hsearch hplan body

theorem level_of_importStep {x : Except RunError Module}
    (h : importStep fs inner name s = some (x, s')) : Level fs inner name s x s' := by
  unfold importStep at h
  cases importable : Name.isImportable name with
  | false =>
    rw [importable] at h
    obtain ⟨rfl, rfl⟩ := throw_inv h
    exact .unimportable importable
  | true =>
    rw [importable, if_pos rfl, look_bind] at h
    cases loaded : s.loaded? name with
    | some module =>
      rw [loaded] at h
      obtain ⟨rfl, rfl⟩ := pure_inv h
      exact .registered importable loaded
    | none =>
      rw [loaded] at h
      obtain ⟨e, failed, rfl⟩ | ⟨parent?, t, parent, rest⟩ := bind_inv h
      · exact .parentFailed importable loaded failed
      obtain ⟨e, failed, rfl⟩ | ⟨directories, u, found, last⟩ := bind_inv rest
      · obtain ⟨rfl, ⟨_, _, absurd⟩ | ⟨p, rfl, none, failed⟩⟩ := directoriesFor_inv failed
        · cases absurd
        · cases failed
          exact .notAPackage importable loaded parent none
      obtain ⟨rfl, ⟨_, known, same⟩ | ⟨_, _, _, absurd⟩⟩ := directoriesFor_inv found
      · cases same
        rw [look_bind] at last
        cases again : u.loaded? name with
        | some module =>
          rw [again] at last
          obtain ⟨rfl, rfl⟩ := pure_inv last
          exact .registeredByParent importable loaded parent known again
        | none =>
          rw [again] at last
          have searching : Searching inner name s parent? directories u :=
            ⟨importable, loaded, parent, known, again⟩
          obtain ⟨e, failed, rfl⟩ | ⟨module, v, got, ended⟩ := bind_inv last
          · exact level_of_importFrom searching failed
          · rw [change_bind] at ended
            obtain ⟨rfl, rfl⟩ := pure_inv ended
            exact level_of_importFrom searching got
      · cases absurd

theorem directoriesFor_of_some {parent? : Option Module} {directories : List Path}
    (known : s.directories? parent? = some directories) :
    directoriesFor parent? name s = some (.ok directories, s) := by
  cases parent? with
  | none =>
    cases known
    rfl
  | some parent =>
    have path : s.store.searchPath? parent = some directories := known
    rw [directoriesFor, look_bind, path]
    rfl

theorem importStep_of_parent {parent? : Option Module} {directories : List Path}
    (importable : Name.isImportable name = true) (absent : s.loaded? name = none)
    (parent : importParent inner name s = some (.ok parent?, s'))
    (known : s'.directories? parent? = some directories) :
    importStep fs inner name s = match s'.loaded? name with
      | some module => some (.ok module, s')
      | none => ((importFrom fs inner name directories) >>= fun module => do
          change (bindOnParent parent? name module)
          pure module) s' := by
  unfold importStep
  rw [importable, if_pos rfl, look_bind, absent]
  dsimp only
  rw [bind_of_ok parent, bind_of_ok (directoriesFor_of_some known), look_bind]
  cases s'.loaded? name <;> rfl

theorem importStep_of_searching {parent? : Option Module} {directories : List Path}
    (searching : Searching inner name s parent? directories s') :
    importStep fs inner name s =
      ((importFrom fs inner name directories) >>= fun module => do
          change (bindOnParent parent? name module)
          pure module) s' := by
  rw [importStep_of_parent searching.importable searching.absent searching.parent
    searching.directories, searching.stillAbsent]

theorem importFrom_of_loader {directories : List Path} {importer : Importer}
    (search : s.search fs name directories = (.ok (.loader importer), s')) :
    importFrom fs inner name directories s =
      ExceptT.adapt .failedLoad
        ((host inner).loadModule fs importer (s'.store.entryPointOf importer) name) s' := by
  rw [importFrom, step_bind, search]
  rfl

theorem importStep_of_level {x : Except RunError Module} (level : Level fs inner name s x s') :
    importStep fs inner name s = some (x, s') := by
  cases level with
  | unimportable importable =>
    unfold importStep
    rw [importable]
    rfl
  | registered importable loaded =>
    unfold importStep
    rw [importable, if_pos rfl, look_bind, loaded]
    rfl
  | parentFailed importable absent failed =>
    unfold importStep
    rw [importable, if_pos rfl, look_bind, absent]
    exact bind_of_error failed
  | notAPackage importable absent parent none =>
    unfold importStep
    rw [importable, if_pos rfl, look_bind, absent]
    dsimp only
    rw [bind_of_ok parent]
    refine bind_of_error ?_
    rw [directoriesFor, look_bind, none]
    rfl
  | registeredByParent importable absent parent known loaded =>
    rw [importStep_of_parent importable absent parent known, loaded]
  | probeFailed searching search =>
    rw [importStep_of_searching searching]
    refine bind_of_error ?_
    rw [importFrom, step_bind, search]
    rfl
  | notFound searching search =>
    rw [importStep_of_searching searching]
    refine bind_of_error ?_
    rw [importFrom, step_bind, search]
    rfl
  | @assembled _ _ portions _ u searching search some =>
    rw [importStep_of_searching searching]
    refine bind_of_ok (a := (u.assemble name portions).1) ?_
    rw [importFrom, step_bind, search]
    cases portions with
    | nil => exact absurd rfl some
    | cons => rfl
  | planFailed searching search failed =>
    rw [importStep_of_searching searching]
    refine bind_of_error ?_
    rw [importFrom_of_loader search, Host.loadModule_eq, failed]
    rfl
  | loaded searching search found body =>
    rw [importStep_of_searching searching]
    refine bind_of_ok ?_
    rw [importFrom_of_loader search, Host.loadModule_eq, found]
    exact adapt_of_ok _ (carryOut_of_body body)
  | bodyFailed searching search found body =>
    rw [importStep_of_searching searching]
    refine bind_of_error ?_
    rw [importFrom_of_loader search, Host.loadModule_eq, found]
    exact adapt_of_error _ (carryOut_of_body body)

namespace Interpreter

def noteImported (name : String) (x : Except RunError Module) (s : Interpreter) : Interpreter :=
  match x with
  | .ok module => s.record (.imported name module)
  | .error _ => s

end Interpreter

theorem importWithin_inv {depth : Nat} {x : Except RunError Module}
    (h : importWithin fs depth name s = some (x, s')) :
    ∃ d t, depth = d + 1 ∧ Level fs (importWithin fs d) name s x t ∧ s' = t.noteImported name x := by
  cases depth with
  | zero => cases h
  | succ d =>
    rw [importWithin] at h
    obtain ⟨e, failed, rfl⟩ | ⟨module, t, got, ended⟩ := bind_inv h
    · exact ⟨d, s', rfl, level_of_importStep failed, rfl⟩
    · rw [change_bind] at ended
      obtain ⟨rfl, rfl⟩ := pure_inv ended
      exact ⟨d, t, rfl, level_of_importStep got, rfl⟩

end ModuleImport
