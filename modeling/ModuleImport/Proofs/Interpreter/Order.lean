import Mathlib.Data.List.Sort
import ModuleImport.Proofs.Interpreter.Closure

namespace ModuleImport.Interpreter

open Origin

variable {fs : FileSystem} {names names' : List String} {name : String} {config config' : Config}
  {s t : Interpreter}

/-- Two interpreters have made a module from the same: each has executed the same code from the same
path, once, or has assembled a namespace package of the same portions. -/
inductive AlikeMade (s t : Interpreter) (name : String) : Prop
  | executed {module module' code artifact artifact'} : s.lookup name = some module →
      t.lookup name = some module' → artifact.same artifact' = true →
      s.bodyEvents module = [.finished module artifact, .began module code artifact] →
      t.bodyEvents module' = [.finished module' artifact', .began module' code artifact'] →
      AlikeMade s t name
  | assembled {module module' portions portions'} : s.lookup name = some module →
      t.lookup name = some module' → SamePaths portions portions' →
      .assembled name module portions ∈ s.trace → s.bodyEvents module = [] →
      .assembled name module' portions' ∈ t.trace → t.bodyEvents module' = [] →
      AlikeMade s t name

/-- A name that both interpreters have registered comes from its one origin in both. -/
theorem alikeMade_of_importAll (entryless : config.entryPoint = none)
    (entryless' : config'.entryPoint = none) (searchPath : config.searchPath = config'.searchPath)
    (imported : importAll fs names (new config) = some s)
    (imported' : importAll fs names' (new config') = some t) (inside : name ∈ s.modules)
    (inside' : name ∈ t.modules) : AlikeMade s t name := by
  obtain ⟨module, found⟩ := Option.ne_none_iff_exists'.mp ((mem_modules_iff s name).mp inside)
  obtain ⟨module', found'⟩ := Option.ne_none_iff_exists'.mp ((mem_modules_iff t name).mp inside')
  obtain ⟨origin, originates, made, -⟩ := (sourced_of_importAll entryless imported).modules found
  obtain ⟨origin', originates', made', -⟩ :=
    (sourced_of_importAll entryless' imported').modules found'
  rw [searchPath] at originates
  have same := originates.same originates'
  cases made with
  | executed began =>
    cases made' with
    | executed began' =>
      cases same with
      | artifact path =>
        have once := (whole_of_importAll imported found).once began
        have once' := (whole_of_importAll imported' found').once began'
        exact .executed found found' path once once'
    | assembled => cases same
  | assembled event silent =>
    cases made' with
    | executed => cases same
    | assembled event' silent' =>
      cases same with
      | portions paths => exact .assembled found found' paths event silent event' silent'

theorem AlikeMade.executed_later {code : Code} (alike : AlikeMade s t name)
    (executed : s.Executed name code) : t.Executed name code := by
  obtain ⟨module, artifact, found, began⟩ := executed
  have told := began_mem_bodyEvents began rfl
  cases alike with
  | @executed _ module' _ _ artifact' registered registered' _ once once' =>
    rw [found] at registered
    cases registered
    rw [once] at told
    rcases List.mem_cons.mp told with absurd | same
    · cases absurd
    · cases List.mem_singleton.mp same
      have began' : .began module' code artifact' ∈ t.bodyEvents module' := by
        rw [once']
        exact List.mem_cons_of_mem _ List.mem_cons_self
      exact ⟨module', artifact', registered', List.mem_of_mem_filter began'⟩
  | assembled registered _ _ _ silent =>
    rw [found] at registered
    cases registered
    rw [silent] at told
    cases told

/-- An interpreter registers nothing that another one does not, if it is asked for no more. -/
theorem modules_subset_of_importAll (entryless : config.entryPoint = none)
    (entryless' : config'.entryPoint = none) (searchPath : config.searchPath = config'.searchPath)
    (among : names ⊆ names') (imported : importAll fs names (new config) = some s)
    (imported' : importAll fs names' (new config') = some t) : s.modules ⊆ t.modules := by
  have closed := importClosed_modules entryless' imported'
  have other : s.ImportClosed names {name | name ∈ t.modules} := by
    refine ⟨fun name member => closed.requested name (among member), closed.parent, ?_⟩
    intro name other code inside' executed member
    have inside : name ∈ s.modules := by
      obtain ⟨module, _, found, -⟩ := executed
      rw [mem_modules_iff, found]
      exact Option.some_ne_none module
    have alike := alikeMade_of_importAll entryless entryless' searchPath imported imported' inside
      inside'
    exact closed.imported inside' (alike.executed_later executed) member
  exact modules_subset entryless imported other

/-- If new interpreters with the same search path and without an entry point import the same names in
different orders, and all imports succeed, then they end with the same names registered, and what is
registered for a name was executed from the same artifact by both, or assembled from the same
portions by both. -/
theorem importAll_perm (entryless : config.entryPoint = none) (entryless' : config'.entryPoint = none)
    (searchPath : config.searchPath = config'.searchPath) (perm : names.Perm names')
    (imported : importAll fs names (new config) = some s)
    (imported' : importAll fs names' (new config') = some t) :
    s.modules = t.modules ∧ ∀ name ∈ s.modules, AlikeMade s t name := by
  have there := modules_subset_of_importAll entryless entryless' searchPath perm.subset imported
    imported'
  have back := modules_subset_of_importAll entryless' entryless searchPath.symm perm.symm.subset
    imported' imported
  constructor
  · exact List.Subset.antisymm_of_pairwise s.registry.ascending_names t.registry.ascending_names there
      back
  · intro name inside
    exact alikeMade_of_importAll entryless entryless' searchPath imported imported' inside
      (there inside)

/-- A package `p`, whose directory is searched under another spelling, too, so that its submodule `c`
can be imported without it. The namespace package `n` has a portion in either place. -/
def orderFiles : FileSystem where
  entries := [("r", .directory [
    ("n", .directory []),
    ("p", .directory [
      ("__init__.pyf", .file (Artifact.frame (Artifact.body.write ⟨"p", "p.py", []⟩))),
      ("c.pyf", .file (Artifact.frame
        (Artifact.body.write ⟨"p.c", "c.py", [.importName "n" none]⟩))),
      ("n", .directory [])])])]
  workingDirectory := .top

/-- Which of `c` and `p.c` is imported first decides under which spelling both are executed. -/
theorem importAll_perm_orderFiles :
    ∃ s t, importAll orderFiles ["p.c", "c"] (new ⟨[⟨"/r"⟩, ⟨"//r/p"⟩], none, .silent⟩) = some s ∧
      importAll orderFiles ["c", "p.c"] (new ⟨[⟨"/r"⟩, ⟨"//r/p"⟩], none, .silent⟩) = some t ∧
      (s.lookup "c").bind s.store.file? = some ⟨"/r/p/c.pyf"⟩ ∧
      (t.lookup "c").bind t.store.file? = some ⟨"//r/p/c.pyf"⟩ ∧
      s.modules = ["c", "n", "p", "p.c"] ∧ s.modules = t.modules ∧
      ∀ name ∈ s.modules, AlikeMade s t name := by
  have first : (importAll orderFiles ["p.c", "c"] (new ⟨[⟨"/r"⟩, ⟨"//r/p"⟩], none, .silent⟩)).map
      (fun s => ((s.lookup "c").bind s.store.file?, s.modules)) =
      some (some ⟨"/r/p/c.pyf"⟩, ["c", "n", "p", "p.c"]) := by decide +kernel
  have second : (importAll orderFiles ["c", "p.c"] (new ⟨[⟨"/r"⟩, ⟨"//r/p"⟩], none, .silent⟩)).map
      (fun t => (t.lookup "c").bind t.store.file?) = some (some ⟨"//r/p/c.pyf"⟩) := by
    decide +kernel
  obtain ⟨s, imported, same⟩ := Option.map_eq_some_iff.mp first
  obtain ⟨t, imported', file'⟩ := Option.map_eq_some_iff.mp second
  obtain ⟨file, modules⟩ := Prod.mk.inj same
  have perm : ["p.c", "c"].Perm ["c", "p.c"] := .swap "c" "p.c" []
  obtain ⟨equal, alike⟩ := importAll_perm rfl rfl rfl perm imported imported'
  exact ⟨s, t, imported, imported', file, file', modules, equal, alike⟩

end ModuleImport.Interpreter
