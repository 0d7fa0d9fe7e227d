import Mathlib.Data.List.Chain
import Mathlib.Order.Bounds.Basic
import ModuleImport.Proofs.Interpreter.Sourced

namespace ModuleImport.Interpreter

open Repository Run

variable {fs : FileSystem} {names roots : List String} {name key : String} {module : Module}
  {s t u : Interpreter}

/-- The state after imports in a row if all of them succeed. -/
def importAll (fs : FileSystem) : List String → Interpreter → Option Interpreter
  | [], s => some s
  | name :: rest, s =>
    match importModule fs name s with
    | some (.ok _, t) => importAll fs rest t
    | _ => none

/-- The code was executed as the body of the module that is registered under a name. -/
def Executed (s : Interpreter) (name : String) (code : Code) : Prop :=
  ∃ module artifact, s.lookup name = some module ∧ .began module code artifact ∈ s.trace

/-- A set of names that holds some requested ones and is closed under parents and under what the
executed code imports. -/
structure ImportClosed (s : Interpreter) (requested : List String) (S : Set String) : Prop where
  requested : ∀ name ∈ requested, name ∈ S
  parent : ∀ {name parent}, name ∈ S → Name.parent? name = some parent → parent ∈ S
  imported : ∀ {name other code}, name ∈ S → s.Executed name code → other ∈ code.imports → other ∈ S

/-- Nothing on the way to a state was taken back. -/
def Forward (s : Interpreter) : Prop :=
  ∀ event ∈ s.trace, event.unwinds = false

theorem importAll_cons_inv {rest : List String}
    (h : importAll fs (name :: rest) s = some t) :
    ∃ module u, importModule fs name s = some (.ok module, u) ∧ importAll fs rest u = some t := by
  rw [importAll] at h
  split at h
  · rename_i module u imported
    exact ⟨module, u, imported, h⟩
  · cases h

theorem Forward.imported (forward : s.Forward) (consistent : s.Consistent)
    (imported : importModule fs name s = some (.ok module, t)) : t.Forward := by
  obtain ⟨x, u, ended, -, done, unwound, course⟩ := importModule_courses consistent fs name
  rw [imported] at ended
  cases ended
  intro event member
  rw [course.trace, course.clean rfl, List.nil_append] at member
  rcases List.mem_append.mp member with new | earlier
  · exact course.forward event new
  · exact forward event earlier

/-- Imports that all succeed are single changes that take nothing back, and register what was asked
for. -/
theorem importAll_changes (consistent : s.Consistent) (forward : s.Forward)
    (wanted : names ⊆ roots) (h : importAll fs names s = some t) :
    s.Continues t ∧ Changes fs roots s t ∧ t.Forward ∧ ∀ name ∈ names, t.loaded? name ≠ none := by
  induction names generalizing s with
  | nil =>
    cases h
    exact ⟨.refl consistent, .refl, forward, fun name member => by cases member⟩
  | cons name rest ih =>
    obtain ⟨module, u, imported, others⟩ := importAll_cons_inv h
    have first := importWithin_continues consistent imported
    have changes : Changes fs roots s u :=
      importModule_changes consistent (wanted List.mem_cons_self) imported
    obtain ⟨continues, later, clean, loaded⟩ := ih first.consistent
      (forward.imported consistent imported) (fun _ member => wanted (List.mem_cons_of_mem _ member))
      others
    refine ⟨first.trans continues, changes.trans later, clean, ?_⟩
    intro other member
    rcases List.mem_cons.mp member with rfl | member
    · rw [continues.loaded? (loaded?_of_importWithin consistent imported rfl)]
      exact Option.some_ne_none module
    · exact loaded other member

/-- What holds of registered names and of bodies as long as nothing was taken back. -/
structure Standing (s : Interpreter) : Prop where
  parents : ∀ {key parent}, s.lookup key ≠ none → Name.parent? key = some parent →
    s.lookup parent ≠ none
  bodies : ∀ {module code artifact}, .began module code artifact ∈ s.trace →
    s.lookup module.name = some module
  imports : ∀ {module artifact}, .finished module artifact ∈ s.trace →
    ∃ code, .began module code artifact ∈ s.trace ∧ ∀ other ∈ code.imports, s.lookup other ≠ none

theorem standing_new (config : Config) : (new config).Standing where
  parents present := absurd rfl present
  bodies began := by cases began
  imports finished := by cases finished

theorem Forward.earlier (forward : t.Forward) (remembered : ∀ event ∈ s.trace, event ∈ t.trace) :
    s.Forward :=
  fun event member => forward event (remembered event member)

theorem not_forward_abandoned {parent? : Option Module} {importer : Importer} {plan : LoadPlan}
    (loadable : Loadable fs name parent? importer plan s) : ¬(s.abandoned plan t).Forward := by
  intro forward
  rw [abandoned_of_absent loadable.unregistered] at forward
  have removed := forward (.removed plan.target) List.mem_cons_self
  cases removed

theorem Change.lookup_of_forward (change : Change fs roots s t) (forward : t.Forward)
    (found : s.lookup key = some module) : t.lookup key = some module := by
  cases change.effect with
  | quiet registry =>
    unfold lookup at found ⊢
    rw [registry]
    exact found
  | @registers name _ _ registers =>
    have ne : key ≠ s.registeredName name := by
      rintro rfl
      rw [registers.absent] at found
      cases found
    rw [registers.lookup, if_neg ne]
    exact found
  | completed => exact found
  | abandoned loadable => exact absurd forward (not_forward_abandoned loadable)

theorem lookup_of_forward (changes : Changes fs roots s t) (forward : t.Forward)
    (found : s.lookup key = some module) : t.lookup key = some module := by
  induction changes with
  | refl => exact found
  | tail _ change ih =>
    exact change.lookup_of_forward forward (ih (forward.earlier change.remembered))

theorem Change.present_of_forward (change : Change fs roots s t) (forward : t.Forward)
    (present : s.lookup key ≠ none) : t.lookup key ≠ none := by
  obtain ⟨module, found⟩ := Option.ne_none_iff_exists'.mp present
  rw [change.lookup_of_forward forward found]
  exact Option.some_ne_none module

theorem Registers.parent_present {parent : String} (registers : Registers fs roots s name module t)
    (entryless : s.entryPoint = none) (isParent : Name.parent? name = some parent) :
    s.lookup parent ≠ none := by
  obtain ⟨parent?, parentOf⟩ := registers.parentOf
  cases parentOf with
  | none top =>
    rw [top] at isParent
    cases isParent
  | @some _ package isParent' loaded =>
    rw [isParent'] at isParent
    cases isParent
    rw [loaded?_eq_lookup entryless] at loaded
    rw [loaded]
    exact Option.some_ne_none package

theorem Standing.change (standing : s.Standing) (entryless : s.entryPoint = none)
    (change : Change fs roots s t) (forward : t.Forward) : t.Standing where
  parents {key parent} present isParent := by
    obtain ⟨module, found⟩ := Option.ne_none_iff_exists'.mp present
    apply change.present_of_forward forward
    obtain earlier | ⟨name, registers, same⟩ := change.registered found
    · have before : s.lookup key ≠ none := by
        rw [earlier]
        exact Option.some_ne_none module
      exact standing.parents before isParent
    · rw [registeredName_eq entryless] at same
      subst same
      exact registers.parent_present entryless isParent
  bodies began := by
    obtain earlier | added := change.adds began
    · exact change.lookup_of_forward forward (standing.bodies earlier)
    · cases added with
      | began _ loadable started =>
        rw [started]
        exact loadable.running.registered
  imports {module artifact} finished := by
    obtain earlier | added := change.adds finished
    · obtain ⟨code, began, imports⟩ := standing.imports earlier
      refine ⟨code, change.remembered _ began, ?_⟩
      exact fun other member => change.present_of_forward forward (imports other member)
    · cases added with
      | @finished u _ _ importer plan loadable continues imports =>
        refine ⟨plan.code, change.remembered _ (loadable.running.later continues).began, ?_⟩
        intro other member
        have loaded := imports other member
        rw [loaded?_eq_lookup entryless] at loaded
        exact change.present_of_forward forward loaded

theorem Standing.changes (standing : s.Standing) (entryless : s.entryPoint = none)
    (changes : Changes fs roots s t) (forward : t.Forward) : t.Standing := by
  induction changes with
  | refl => exact standing
  | tail before change ih =>
    have still := (entryPoint_of_changes before).trans entryless
    exact (ih (forward.earlier change.remembered)).change still change forward

/-- In a state in which nothing was taken back and every module is whole, what is registered is closed
under the imports of the executed code. -/
theorem Standing.imported (standing : t.Standing)
    (whole : ∀ key module, t.lookup key = some module → t.Whole key module) {code : Code}
    {other : String} (executed : t.Executed name code) (member : other ∈ code.imports) :
    t.lookup other ≠ none := by
  obtain ⟨module, artifact, found, began⟩ := executed
  have once := (whole name module found).once began
  have finished : .finished module artifact ∈ t.bodyEvents module := by
    rw [once]
    exact List.mem_cons_self
  obtain ⟨code', began', imports⟩ := standing.imports (List.mem_of_mem_filter finished)
  have again := began_mem_bodyEvents began' rfl
  rw [once] at again
  rcases List.mem_cons.mp again with absurd | same
  · cases absurd
  · cases List.mem_singleton.mp same
    exact imports other member

/-- Names are registered for a reason, so every set that is closed holds them, at any time on the way. -/
theorem mem_of_registered {S : Set String} (closed : t.ImportClosed roots S)
    (entryless : s.entryPoint = none) (free : ∀ key, s.lookup key = none) (standing : s.Standing)
    (before : Changes fs roots s u) (after : Changes fs roots u t) (forward : t.Forward)
    (present : u.lookup key ≠ none) : key ∈ S := by
  induction before generalizing key with
  | refl => exact absurd (free key) present
  | @tail u v before change ih =>
    have rest := after.head change
    have onwards := forward.earlier (remembered_of_changes rest)
    obtain ⟨module, found⟩ := Option.ne_none_iff_exists'.mp present
    obtain earlier | ⟨name, registers, same⟩ := change.registered found
    · apply ih rest
      rw [earlier]
      exact Option.some_ne_none module
    · rw [registeredName_eq ((entryPoint_of_changes before).trans entryless)] at same
      subst same
      have stands := standing.changes entryless before onwards
      -- each reason for which a name is wanted puts it into the set
      have wanted := registers.wanted
      clear registers found present
      induction wanted with
      | requested member => exact closed.requested _ member
      | parent _ isParent inside => exact closed.parent inside isParent
      | @imported module code artifact other began member =>
        have registered := stands.bodies began
        have inside : module.name ∈ S := by
          apply ih rest
          rw [registered]
          exact Option.some_ne_none module
        refine closed.imported inside ⟨module, artifact, ?_, ?_⟩ member
        · exact lookup_of_forward rest forward registered
        · exact remembered_of_changes rest _ began

theorem mem_modules_iff (s : Interpreter) (key : String) : key ∈ s.modules ↔ s.lookup key ≠ none := by
  rw [modules, Table.mem_names_iff, Option.isSome_iff_ne_none]
  rfl

section Imports

variable {config : Config}

theorem importAll_new (imported : importAll fs names (new config) = some t) :
    (new config).Continues t ∧ Changes fs names (new config) t ∧ t.Forward ∧
      ∀ name ∈ names, t.loaded? name ≠ none :=
  importAll_changes (Reached.consistent (.new config)) (fun event member => by cases member)
    (List.Subset.refl names) imported

theorem whole_of_importAll (imported : importAll fs names (new config) = some t)
    (found : t.lookup key = some module) : t.Whole key module :=
  ((importAll_new imported).1.settles.settled key module rfl found).1

theorem sourced_of_importAll (entryless : config.entryPoint = none)
    (imported : importAll fs names (new config) = some t) : t.Sourced fs config.searchPath :=
  (sourced_new fs config).changes entryless (importAll_new imported).2.1

/-- What is registered in the end is closed. -/
theorem importClosed_modules (entryless : config.entryPoint = none)
    (imported : importAll fs names (new config) = some t) :
    t.ImportClosed names {name | name ∈ t.modules} := by
  obtain ⟨continues, changes, forward, loaded⟩ := importAll_new imported
  have standing := (standing_new config).changes entryless changes forward
  have still : t.entryPoint = none := continues.entryPoint.trans entryless
  constructor
  · intro name member
    have present := loaded name member
    rw [loaded?_eq_lookup still] at present
    exact (mem_modules_iff t name).mpr present
  · intro name parent inside isParent
    have present := standing.parents ((mem_modules_iff t name).mp inside) isParent
    exact (mem_modules_iff t parent).mpr present
  · intro name other code _ executed member
    have whole (key : String) (module : Module) (found : t.lookup key = some module) :
        t.Whole key module := whole_of_importAll imported found
    exact (mem_modules_iff t other).mpr (standing.imported whole executed member)

/-- Every closed set holds all that is registered in the end. -/
theorem modules_subset {S : Set String} (entryless : config.entryPoint = none)
    (imported : importAll fs names (new config) = some t) (closed : t.ImportClosed names S) :
    {name | name ∈ t.modules} ⊆ S := by
  obtain ⟨-, changes, forward, -⟩ := importAll_new imported
  intro name inside
  exact mem_of_registered closed entryless (fun _ => rfl) (standing_new config) changes .refl forward
    ((mem_modules_iff t name).mp inside)

end Imports

/-- Modules outside packages of which each imports the next one, and none of which imports others. -/
structure ImportChain (s : Interpreter) (chain : List String) : Prop where
  top : ∀ name ∈ chain, Name.parent? name = none
  within : ∀ name ∈ chain, ∀ code, s.Executed name code → code.imports ⊆ chain
  next : chain.IsChain fun name other => ∃ code, s.Executed name code ∧ other ∈ code.imports

theorem ImportChain.importClosed {first : String} {rest : List String}
    (chain : t.ImportChain (first :: rest)) :
    t.ImportClosed [first] {name | name ∈ first :: rest} where
  requested name member := by
    rw [List.mem_singleton.mp member]
    exact List.mem_cons_self
  parent {name parent} inside isParent := by
    rw [chain.top name inside] at isParent
    cases isParent
  imported inside executed member := chain.within _ inside _ executed member

theorem ImportClosed.chain {S : Set String} {requested rest : List String} {first : String}
    (closed : t.ImportClosed requested S) (chain : t.ImportChain (first :: rest))
    (inside : first ∈ S) : ∀ name ∈ first :: rest, name ∈ S := by
  refine chain.next.induction (· ∈ S) _ ?_ fun _ => inside
  rintro name other ⟨code, executed, imports⟩ inside
  exact closed.imported inside executed imports

/-- Artifacts outside packages on a search path, of which each imports the next one, and none of which
imports others. -/
structure ArtifactChain (fs : FileSystem) (searchPath : List Path) (chain : List String) : Prop where
  top : ∀ name ∈ chain, Name.parent? name = none
  held : ∀ name ∈ chain, ∃ code, Holds fs searchPath name code ∧ code.imports ⊆ chain
  next : chain.IsChain fun name other =>
    ∃ code, Holds fs searchPath name code ∧ other ∈ code.imports

section Artifacts

variable {config : Config} {code : Code} (entryless : config.entryPoint = none)
  (imported : importAll fs names (new config) = some t)

include entryless imported

theorem executed_iff_of_holds (holds : Holds fs config.searchPath name code)
    (inside : name ∈ t.modules) {other : Code} : t.Executed name other ↔ other = code := by
  obtain ⟨module, found⟩ := Option.ne_none_iff_exists'.mp ((mem_modules_iff t name).mp inside)
  obtain ⟨origin, originates, made, -⟩ := (sourced_of_importAll entryless imported).modules found
  obtain ⟨artifact, directory?, rfl⟩ := holds.of_originates originates
  cases made with
  | executed began =>
    constructor
    · rintro ⟨module', artifact', found', began'⟩
      rw [found] at found'
      cases found'
      have told := began_mem_bodyEvents began' rfl
      rw [(whole_of_importAll imported found).once began] at told
      rcases List.mem_cons.mp told with absurd | same
      · cases absurd
      · cases List.mem_singleton.mp same
        rfl
    · rintro rfl
      exact ⟨module, artifact, found, began⟩

/-- What is a chain on the search path is one of the modules when its first name has been imported. -/
theorem ArtifactChain.importChain {first : String} {rest : List String}
    (chain : ArtifactChain fs config.searchPath (first :: rest)) (requested : first ∈ names) :
    t.ImportChain (first :: rest) := by
  have closed := importClosed_modules entryless imported
  -- each name is registered, because the one before it has executed its code
  have inside : ∀ name ∈ first :: rest, name ∈ t.modules := by
    refine chain.next.induction (· ∈ t.modules) _ ?_ fun _ => closed.requested first requested
    rintro name other ⟨code, holds, imports⟩ inside
    have executed := (executed_iff_of_holds entryless imported holds inside).mpr rfl
    exact closed.imported inside executed imports
  refine ⟨chain.top, fun name member other executed => ?_, ?_⟩
  · obtain ⟨code, holds, within⟩ := chain.held name member
    obtain rfl := (executed_iff_of_holds entryless imported holds (inside name member)).mp executed
    exact within
  · refine chain.next.imp_of_mem_imp ?_
    rintro name other member - ⟨code, holds, imports⟩
    exact ⟨code, (executed_iff_of_holds entryless imported holds (inside name member)).mpr rfl,
      imports⟩

end Artifacts

/-- If imports of a new interpreter without an entry point all succeed, then what is registered is the
least set that holds the requested names, with a name its parent, and what the executed code imports.
So where artifacts on the search path make a chain, of which the first one is imported, the modules
make the same chain, and as many names are registered as it is long. -/
theorem modules_isLeast {config : Config} (entryless : config.entryPoint = none)
    (imported : importAll fs names (new config) = some t) :
    IsLeast {S | t.ImportClosed names S} {name | name ∈ t.modules} ∧
      ∀ first rest, names = [first] →
        (ArtifactChain fs config.searchPath (first :: rest) → t.ImportChain (first :: rest)) ∧
        (t.ImportChain (first :: rest) → (first :: rest).Nodup →
          t.modules.Perm (first :: rest) ∧ t.modules.length = rest.length + 1) := by
  have closed := importClosed_modules entryless imported
  have least {S : Set String} (other : t.ImportClosed names S) :=
    modules_subset entryless imported other
  refine ⟨⟨closed, fun S other => least other⟩, ?_⟩
  rintro first rest rfl
  constructor
  · exact fun artifacts => artifacts.importChain entryless imported List.mem_cons_self
  · intro chain distinct
    have perm : t.modules.Perm (first :: rest) := by
      refine (List.perm_ext_iff_of_nodup t.registry.nodup_names distinct).mpr ?_
      intro name
      constructor
      · exact fun inside => least chain.importClosed inside
      · exact closed.chain chain (closed.requested first List.mem_cons_self) name
    exact ⟨perm, perm.length_eq⟩

/-- A package `p` that imports its submodule `c`, which imports `a`. The modules `a` and `b` import each
other, and nobody imports `z`. -/
def closureFiles : FileSystem where
  entries := [("r", .directory [
    ("a.pyf", .file (Artifact.frame (Artifact.body.write ⟨"a", "a.py", [.importName "b" none]⟩))),
    ("b.pyf", .file (Artifact.frame (Artifact.body.write ⟨"b", "b.py", [.importName "a" none]⟩))),
    ("p", .directory [
      ("__init__.pyf", .file (Artifact.frame
        (Artifact.body.write ⟨"p", "p.py", [.importName "p.c" none]⟩))),
      ("c.pyf", .file (Artifact.frame
        (Artifact.body.write ⟨"p.c", "c.py", [.importName "a" (some "x")]⟩)))]),
    ("z.pyf", .file (Artifact.frame (Artifact.body.write ⟨"z", "z.py", []⟩)))])]
  workingDirectory := .top

theorem modules_isLeast_closureFiles :
    (∃ t, importAll closureFiles ["p.c", "b"] fresh = some t ∧
      IsLeast {S | t.ImportClosed ["p.c", "b"] S} {name | name ∈ ["a", "b", "p", "p.c"]}) ∧
    ArtifactChain closureFiles [⟨"/r"⟩] ["a", "b"] ∧
    ∃ t, importAll closureFiles ["a"] fresh = some t ∧ t.modules.length = 2 := by
  have first : (importAll closureFiles ["p.c", "b"] fresh).map modules =
      some ["a", "b", "p", "p.c"] := by decide +kernel
  have second : (importAll closureFiles ["a"] fresh).isSome = true := by decide +kernel
  have opened : openRoot closureFiles ⟨"/r"⟩ = .ok ⟨"/r"⟩ := eq_ok_of_toOption (by decide +kernel)
  have held {name : String} (artifact : Path) {code : Code} (top : Name.parent? name = none)
      (resolved : (resolve closureFiles ⟨"/r"⟩ name).toOption = some (.module artifact))
      (read : (closureFiles.read artifact).toOption =
        some (Artifact.frame (Artifact.body.write code)))
      (decoded : (Artifact.decode (Artifact.frame (Artifact.body.write code))).toOption =
        some code) : Holds closureFiles [⟨"/r"⟩] name code :=
    ⟨artifact, none, .top top (.loaded (.opened (Path.same_refl _) opened
      (eq_ok_of_toOption resolved)) rfl (eq_ok_of_toOption read) (eq_ok_of_toOption decoded))⟩
  have a : Holds closureFiles [⟨"/r"⟩] "a" ⟨"a", "a.py", [.importName "b" none]⟩ :=
    held ⟨"/r/a.pyf"⟩ (by decide +kernel) (by decide +kernel) (by decide +kernel) (by decide +kernel)
  have b : Holds closureFiles [⟨"/r"⟩] "b" ⟨"b", "b.py", [.importName "a" none]⟩ :=
    held ⟨"/r/b.pyf"⟩ (by decide +kernel) (by decide +kernel) (by decide +kernel) (by decide +kernel)
  have chain : ArtifactChain closureFiles [⟨"/r"⟩] ["a", "b"] := by
    refine ⟨by decide +kernel, ?_, List.isChain_pair.mpr ⟨_, a, List.mem_cons_self⟩⟩
    exact List.forall_mem_cons.mpr ⟨⟨_, a, by decide⟩,
      List.forall_mem_singleton.mpr ⟨_, b, by decide⟩⟩
  refine ⟨?_, chain, ?_⟩
  · obtain ⟨t, imported, modules⟩ := Option.map_eq_some_iff.mp first
    have least := (modules_isLeast rfl imported).1
    rw [modules] at least
    exact ⟨t, imported, least⟩
  · obtain ⟨t, imported⟩ := Option.isSome_iff_exists.mp second
    obtain ⟨modules, registered⟩ := (modules_isLeast rfl imported).2 "a" ["b"] rfl
    exact ⟨t, imported, (registered (modules chain) (by decide)).2⟩

end ModuleImport.Interpreter
