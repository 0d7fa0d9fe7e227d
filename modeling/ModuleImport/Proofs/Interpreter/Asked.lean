import Mathlib.Logic.Relation
import ModuleImport.Proofs.Interpreter.Reading
import ModuleImport.Proofs.Interpreter.Retained

namespace ModuleImport

open Run Interpreter

section Bodies

variable {inner inner' : String → Run Module} {module : Module} {artifact : Path}
  {instructions : List Instruction} {name : String} {s t u : Interpreter}

/-- A body comes to a state in which it asks for the import of a name. -/
inductive Body.Asks (inner : String → Run Module) (module : Module) (artifact : Path) :
    List Instruction → Interpreter → String → Interpreter → Prop
  | named {name bind rest s} : Asks inner module artifact (.importName name bind :: rest) s name s
  | outermost {name rest imported s t} : inner name s = some (.ok imported, t) →
      Name.top name ≠ name →
      Asks inner module artifact (.importName name none :: rest) s (Name.top name) t
  | later {instruction rest name s t u} :
      Body.runInstruction inner module artifact instruction s = some (.ok (), t) →
      Asks inner module artifact rest t name u →
      Asks inner module artifact (instruction :: rest) s name u

theorem Body.runInstructions_asked
    (same : ∀ name t, Asks inner module artifact instructions s name t →
      inner' name t = inner name t) :
    runInstructions inner' module artifact instructions s =
      runInstructions inner module artifact instructions s := by
  induction instructions generalizing s with
  | nil => rw [runInstructions, runInstructions]
  | cons instruction rest ih =>
    rw [runInstructions, runInstructions]
    refine bind_agree (runInstruction_congr ?_ ?_) fun ran => ih fun name t asks =>
      same name t (.later ran asks)
    · rintro name bind rfl
      exact same name s .named
    · rintro name imported t rfl got other
      exact same (Name.top name) t (.outermost got other)

/-- When a body has run to its end, the imports that it has asked for have given modules. -/
theorem Body.Asks.ended (retaining : Retaining inner)
    (asks : Asks inner module artifact instructions s name u)
    (ran : runInstructions inner module artifact instructions s = some (.ok (), t)) :
    ∃ imported v, inner name u = some (.ok imported, v) ∧ v.Retains t := by
  induction asks with
  | @named name bind rest s =>
    obtain ⟨_, _, absurd⟩ | ⟨_, v, first, onwards⟩ := bind_inv ran
    · cases absurd
    have later := retains_body retaining onwards
    cases instructed_of_runInstruction first with
    | bound got => exact ⟨_, _, got, .trans (.of_registry rfl) later⟩
    | boundItself got => exact ⟨_, _, got, .trans (.of_registry rfl) later⟩
    | boundOutermost got package =>
      exact ⟨_, _, got, (retaining package).trans (.trans (.of_registry rfl) later)⟩
  | @outermost name rest imported s u got other =>
    obtain ⟨_, _, absurd⟩ | ⟨_, v, first, onwards⟩ := bind_inv ran
    · cases absurd
    have later := retains_body retaining onwards
    cases instructed_of_runInstruction first with
    | boundItself _ same => exact absurd same other
    | boundOutermost got' package =>
      cases got.symm.trans got'
      exact ⟨_, _, package, .trans (.of_registry rfl) later⟩
  | later first _ ih =>
    rw [runInstructions, bind_of_ok first] at ran
    exact ih ran

theorem Body.Asks.continues {fs : FileSystem} {depth : Nat} (consistent : s.Consistent)
    (asks : Asks (importWithin fs depth) module artifact instructions s name u) :
    s.Continues u := by
  induction asks with
  | named => exact .refl consistent
  | outermost got => exact importWithin_continues consistent got
  | later ran _ ih =>
    have first := instruction_continues consistent ran
    exact first.trans (ih first.consistent)

end Bodies

namespace Interpreter

variable {fs : FileSystem} {inner inner' : String → Run Module} {name other : String} {depth : Nat}
  {module : Module} {s t u : Interpreter}

/-- An import in the state `s` asks for another one. -/
inductive Asked (fs : FileSystem) (inner : String → Run Module) (name : String) (s : Interpreter) :
    String → Interpreter → Prop
  | parent {parent} : Name.isImportable name = true → s.loaded? name = none →
      Name.parent? name = some parent → Asked fs inner name s parent s
  | body {parent? directories importer plan t u other v} :
      Searching inner name s parent? directories t →
      t.search fs name directories = (.ok (.loader importer), u) →
      LoadPlan.find (ε := RunError) fs importer (u.store.entryPointOf importer) name = .ok plan →
      Body.Asks inner (u.loading plan) plan.artifact plan.code.instructions
        (u.started importer plan) other v →
      Asked fs inner name s other v

theorem importStep_asked
    (same : ∀ other t, Asked fs inner name s other t → inner' other t = inner other t) :
    importStep fs inner' name s = importStep fs inner name s := by
  apply importStep_congr
  · intro importable absent
    exact importParent_congr fun parent isParent =>
      same parent s (.parent importable absent isParent)
  · intro parent? directories t searching
    refine importFrom_congr rfl (fun _ => rfl) fun search found => ?_
    exact Body.runInstructions_asked fun other u asks =>
      same other u (.body searching search found asks)

theorem Searching.unique {parent? parent?' : Option Module} {directories directories' : List Path}
    (searching : Searching inner name s parent? directories t)
    (searching' : Searching inner name s parent?' directories' u) :
    parent?' = parent? ∧ directories' = directories ∧ u = t := by
  cases searching.parent.symm.trans searching'.parent
  cases searching.directories.symm.trans searching'.directories
  exact ⟨rfl, rfl, rfl⟩

/-- What is registered when the parent is imported is still registered when a level has ended. -/
theorem parent_of_level (retaining : Retaining inner) (level : Level fs inner name s (.ok module) t)
    (absent : s.loaded? name = none) :
    ∃ parent? u, importParent inner name s = some (.ok parent?, u) ∧ u.Retains t := by
  cases level with
  | registered _ loaded =>
    rw [absent] at loaded
    cases loaded
  | registeredByParent _ _ parent => exact ⟨_, t, parent, .refl t⟩
  | @assembled parent? directories portions v u searching search =>
    have free : u.loaded? name = none := loaded?_of_search searching.stillAbsent search
    exact ⟨parent?, v, searching.parent, ((retains_search search).trans
      (retains_assemble free portions)).trans (retains_bindOnParent _ _ _ _)⟩
  | @loaded parent? directories importer plan v u w searching search found body =>
    have completed := (Retains.completed (retains_body retaining body)).1
    exact ⟨parent?, v, searching.parent, ((retains_search search).trans completed).trans
      (retains_bindOnParent _ _ _ _)⟩

/-- When an import has given a module, the imports that it has asked for have given modules, too. -/
theorem Asked.ended (retaining : Retaining inner) (asked : Asked fs inner name s other u)
    (level : Level fs inner name s (.ok module) t) :
    ∃ imported v, inner other u = some (.ok imported, v) ∧ v.Retains t := by
  cases asked with
  | parent _ absent isParent =>
    obtain ⟨parent?, v, imported, later⟩ := parent_of_level retaining level absent
    obtain ⟨none, -, -⟩ | ⟨parent, y, isParent', ended, given⟩ := importParent_inv imported
    · rw [none] at isParent
      cases isParent
    · cases isParent.symm.trans isParent'
      cases y with
      | error e => cases given
      | ok package => exact ⟨package, v, ended, later⟩
  | body searching search found asks =>
    -- there is one way to go, so the level has come to the same search and has run the same body
    cases level with
    | registered _ loaded =>
      rw [searching.absent] at loaded
      cases loaded
    | registeredByParent _ _ parent _ loaded =>
      cases searching.parent.symm.trans parent
      rw [searching.stillAbsent] at loaded
      cases loaded
    | assembled searching' search' =>
      obtain ⟨rfl, rfl, rfl⟩ := searching.unique searching'
      cases search.symm.trans search'
    | loaded searching' search' found' ran =>
      obtain ⟨rfl, rfl, rfl⟩ := searching.unique searching'
      cases search.symm.trans search'
      cases found.symm.trans found'
      obtain ⟨imported, v, given, later⟩ := asks.ended retaining ran
      exact ⟨imported, v, given, later.trans (.of_registry (registry_bindOnParent _ _ _ _))⟩

theorem Asked.start (consistent : s.Consistent)
    (asked : Asked fs (importWithin fs depth) name s other u) :
    u.Consistent ∧ u.entryPoint = s.entryPoint := by
  cases asked with
  | parent => exact ⟨consistent, rfl⟩
  | @body parent? directories importer plan v w other u searching search found asks =>
    have parent := importParent_continues consistent searching.parent
    have searched := parent.trans (search_continues parent.consistent search)
    have loadable := loadable_of_search consistent searching search found
    have ran := asks.continues (consistent_started importer plan loadable.consistent)
    exact ⟨ran.consistent, ran.entryPoint.trans
      ((entryPoint_started importer loadable.unregistered).trans searched.entryPoint)⟩

/-- An import that is asked for, with the number of imports that it may nest. -/
structure Query where
  depth : Nat
  name : String
  state : Interpreter

namespace Query

def run (fs : FileSystem) (q : Query) : Option (Except RunError Module × Interpreter) :=
  importWithin fs q.depth q.name q.state

/-- One import asks for another one. -/
inductive Asks (fs : FileSystem) : Query → Query → Prop
  | intro {depth : Nat} {name other : String} {s t : Interpreter} :
      Asked fs (importWithin fs depth) name s other t →
      Asks fs ⟨depth + 1, name, s⟩ ⟨depth, other, t⟩

end Query

/-- An import has given a module, and when the state `t` is reached all is still registered that was
registered then. -/
structure Query.Answered (fs : FileSystem) (t : Interpreter) (entryPoint : Option String)
    (q : Query) : Prop where
  consistent : q.state.Consistent
  entryPoint : q.state.entryPoint = entryPoint
  given : ∃ module u, q.run fs = some (.ok module, u) ∧ u.Retains t

variable {q q' : Query} {entryPoint : Option String}

theorem Query.Answered.asks (answered : q.Answered fs t entryPoint) (asks : Asks fs q q') :
    q'.Answered fs t entryPoint := by
  cases asks with
  | @intro depth name s other u asked =>
    obtain ⟨consistent, same⟩ := asked.start answered.consistent
    obtain ⟨module, v, ran, later⟩ := answered.given
    obtain ⟨d, w, depth_eq, level, rfl⟩ := importWithin_inv ran
    cases depth_eq
    obtain ⟨imported, v, given, before⟩ := asked.ended (retaining_importWithin fs depth) level
    exact ⟨consistent, same.trans answered.entryPoint, imported, v, given,
      before.trans (.trans (.of_registry rfl) later)⟩

/-- The module of an import on the way to `t` is the one that is registered for its name there. -/
theorem Query.Answered.loaded? (answered : q.Answered fs t entryPoint) :
    ∃ module u, q.run fs = some (.ok module, u) ∧
      t.lookup (Name.registered entryPoint q.name) = some module := by
  obtain ⟨module, u, ran, later⟩ := answered.given
  have loaded := loaded?_of_importWithin answered.consistent ran rfl
  have continues := importWithin_continues answered.consistent ran
  refine ⟨module, u, ran, later _ _ ?_⟩
  rw [← answered.entryPoint, ← continues.entryPoint]
  exact loaded

theorem Called.retains (called : Called s t) : s.Retains t := by
  cases called with
  | importModule ended => exact retaining_importWithin _ _ ended
  | @runMain _ fs name _ ended =>
    have start : s.Retains (s.setEntryPoint (some name)) := .of_registry rfl
    exact start.trans (retaining_importWithin _ _ ended)
  | setEntryPoint => exact .of_registry rfl

/-- When an import has given a module, the module is registered for its name. Every import of the
same name on the way, by whatever body it was asked for and however deeply it was nested, has given
the same module. And so does every later import of the name while the entry point is the same,
whatever has been called in between and whatever the files hold by then, and it does no more than
note that it was done. -/
theorem importModule_stable (reached : Reached s)
    (imported : importModule fs name s = some (.ok module, t)) :
    t.lookup (s.registeredName name) = some module ∧
    (∀ q, Relation.TransGen (Query.Asks fs) ⟨importDepth fs [name], name, s⟩ q →
      s.registeredName q.name = s.registeredName name → ∃ u, q.run fs = some (.ok module, u)) ∧
    ∀ u, Relation.ReflTransGen Called t u → u.entryPoint = s.entryPoint → ∀ fs',
      importModule fs' name u =
        some (.ok module, { u with trace := .imported name module :: u.trace }) := by
  have start : Query.Answered fs t s.entryPoint ⟨importDepth fs [name], name, s⟩ :=
    ⟨reached.consistent, rfl, module, t, imported, .refl t⟩
  have registered : t.lookup (s.registeredName name) = some module := by
    obtain ⟨given, u, ran, loaded⟩ := start.loaded?
    cases imported.symm.trans ran
    exact loaded
  refine ⟨registered, ?_, ?_⟩
  · intro q asked same
    have answered : q.Answered fs t s.entryPoint := by
      clear same
      induction asked with
      | single asks => exact start.asks asks
      | tail _ asks ih => exact ih.asks asks
    obtain ⟨given, u, ran, loaded⟩ := answered.loaded?
    have name_eq : Name.registered s.entryPoint q.name = s.registeredName name := same
    rw [name_eq, registered] at loaded
    cases loaded
    exact ⟨u, ran⟩
  · intro u called same fs'
    have later : t.Retains u := by
      clear same
      induction called with
      | refl => exact .refl t
      | tail _ called ih => exact ih.trans called.retains
    have loaded : u.loaded? name = some module := by
      have stays := later _ _ registered
      unfold registeredName at stays
      rw [← same] at stays
      exact stays
    exact importModule_of_loaded (isImportable_of_importWithin imported) loaded

/-- The body of `p` imports the submodule `p.q`, which asks for `p` while this body still runs. -/
theorem asks_cyclicFiles :
    ∃ q, Relation.TransGen (Query.Asks cyclicFiles) ⟨importDepth cyclicFiles ["p"], "p", fresh⟩ q ∧
      q.name = "p" ∧ q.state.lookup "p" = some ⟨0, "p"⟩ := by
  obtain ⟨u, after, searched⟩ : ∃ u, u = (fresh.search cyclicFiles "p" [⟨"/r"⟩]).2 ∧
      fresh.search cyclicFiles "p" [⟨"/r"⟩] = (.ok (.loader ⟨0, ⟨"/r"⟩⟩), u) :=
    ⟨_, rfl, Prod.ext (eq_ok_of_toOption (by decide +kernel)) rfl⟩
  have planned : (LoadPlan.find (ε := RunError) cyclicFiles ⟨0, ⟨"/r"⟩⟩
      (u.store.entryPointOf ⟨0, ⟨"/r"⟩⟩) "p").toOption.map
      (fun plan => (plan.target, plan.code.instructions)) =
        some ("p", [.importName "p.q" none]) := by
    rw [after]
    decide +kernel
  obtain ⟨plan, found, same⟩ := Option.map_eq_some_iff.mp planned
  obtain ⟨target, code⟩ := Prod.mk.inj same
  have unregistered : u.lookup plan.target = none := by
    rw [target, after]
    decide +kernel
  have parent (inner : String → Run Module) : importParent inner "p" fresh =
      some (.ok none, fresh) := importParent_of_none (by decide +kernel)
  have searching (inner : String → Run Module) : Searching inner "p" fresh none [⟨"/r"⟩] fresh :=
    ⟨by decide +kernel, by decide +kernel, parent inner, rfl, by decide +kernel⟩
  have body (inner : String → Run Module) :
      Asked cyclicFiles inner "p" fresh "p.q" (u.started ⟨0, ⟨"/r"⟩⟩ plan) :=
    .body (searching inner) searched (eq_ok_of_toOption found) (by rw [code]; exact .named)
  have back (inner : String → Run Module) : Asked cyclicFiles inner "p.q"
      (u.started ⟨0, ⟨"/r"⟩⟩ plan) "p" (u.started ⟨0, ⟨"/r"⟩⟩ plan) := by
    refine .parent (by decide +kernel) ?_ (by decide +kernel)
    have entryless : u.entryPoint = none := by
      rw [after, search_entryPoint]
      rfl
    rw [loaded?_eq_lookup ((entryPoint_started _ unregistered).trans entryless),
      lookup_started _ unregistered, target, if_neg (by decide), after]
    decide +kernel
  obtain ⟨d, deep⟩ : ∃ d, importDepth cyclicFiles ["p"] = d + 2 :=
    Nat.exists_eq_add_of_le' (by decide +kernel)
  refine ⟨⟨d, "p", u.started ⟨0, ⟨"/r"⟩⟩ plan⟩, ?_, rfl, ?_⟩
  · rw [deep]
    exact .tail (.single (.intro (body _))) (.intro (back _))
  · have loading := lookup_loading ⟨0, ⟨"/r"⟩⟩ plan u
    have new : (u.register "p").1 = ⟨0, "p"⟩ := by
      rw [after]
      decide +kernel
    rw [loading_of_absent unregistered, target, new] at loading
    exact loading

theorem importModule_stable_cyclicFiles :
    ∃ module t q, importModule cyclicFiles "p" fresh = some (.ok module, t) ∧
      t.lookup "p" = some module ∧
      Relation.TransGen (Query.Asks cyclicFiles) ⟨importDepth cyclicFiles ["p"], "p", fresh⟩ q ∧
      q.name = "p" ∧ q.state.lookup "p" = some module ∧
      (∃ u, q.run cyclicFiles = some (.ok module, u)) ∧
      importModule cyclicFiles "p" t =
        some (.ok module, { t with trace := .imported "p" module :: t.trace }) := by
  have ran : (importModule cyclicFiles "p" fresh).map (·.1.toOption) = some (some ⟨0, "p"⟩) := by
    decide +kernel
  obtain ⟨⟨x, t⟩, call, given⟩ := Option.map_eq_some_iff.mp ran
  cases eq_ok_of_toOption given
  obtain ⟨registered, nested, again⟩ := importModule_stable reached_fresh call
  obtain ⟨q, asked, sameName, running⟩ := asks_cyclicFiles
  have entryPoint := (importWithin_continues reached_fresh.consistent call).entryPoint
  exact ⟨_, t, q, call, registered, asked, sameName, running,
    nested q asked (congrArg fresh.registeredName sameName), again t .refl entryPoint _⟩

end Interpreter

end ModuleImport
