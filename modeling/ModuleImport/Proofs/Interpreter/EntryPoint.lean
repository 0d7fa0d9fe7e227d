import ModuleImport.Proofs.Interpreter.Registering
import ModuleImport.Proofs.Interpreter.Attached
import ModuleImport.Proofs.Interpreter.Rollback

namespace ModuleImport.Interpreter

variable {fs : FileSystem} {roots : List String} {name main : String} {module : Module}
  {s t u : Interpreter}

theorem registeredName_of_entryPoint (entryPoint : s.entryPoint = some main) (name : String) :
    s.registeredName name = if main = name then Name.mainModule else name := by
  simp [registeredName, Name.registered, entryPoint]

theorem registeredName_ne (entryPoint : s.entryPoint = some main) (other : main ≠ Name.mainModule)
    (name : String) : s.registeredName name ≠ main := by
  rw [registeredName_of_entryPoint entryPoint]
  by_cases same : main = name
  · rw [if_pos same]
    exact Ne.symm other
  · rw [if_neg same]
    exact Ne.symm same

/-- From `s` on, the entry point has not been registered under its own name. -/
structure Unregistered (main : String) (s t : Interpreter) : Prop where
  entryPoint : t.entryPoint = some main
  absent : t.lookup main = none
  events : ∀ event ∈ t.trace, event.registeredName? = some main → event ∈ s.trace

theorem Unregistered.change (before : Unregistered main s t) (other : main ≠ Name.mainModule)
    (change : Change fs roots t u) : Unregistered main s u where
  entryPoint := change.entryPoint.trans before.entryPoint
  absent := by
    by_contra present
    obtain ⟨module, found⟩ := Option.ne_none_iff_exists'.mp present
    obtain earlier | ⟨name, -, same⟩ := change.registered found
    · rw [before.absent] at earlier
      cases earlier
    · exact registeredName_ne before.entryPoint other name same.symm
  events event member about := by
    obtain earlier | ⟨name, same⟩ := change.told member about
    · exact before.events event earlier about
    · exact absurd same.symm (registeredName_ne before.entryPoint other name)

theorem Unregistered.changes (before : Unregistered main s t) (other : main ≠ Name.mainModule)
    (changes : Changes fs roots t u) : Unregistered main s u := by
  induction changes with
  | refl => exact before
  | tail _ change ih => exact ih.change other change

/-- The calls that leave a name as the entry point: imports of any names, and runs of the entry point
itself. -/
inductive CalledAs (main : String) : Interpreter → Interpreter → Prop
  | importModule {s t fs name x} : importModule fs name s = some (x, t) → CalledAs main s t
  | runMain {s t fs x} : runMain fs main s = some (x, t) → CalledAs main s t

theorem CalledAs.called (call : CalledAs main s t) : Called s t := by
  cases call with
  | importModule ended => exact .importModule ended
  | runMain ended => exact .runMain ended

/-- Such a call is an import in a state with the same registry and the same history. -/
theorem CalledAs.unregistered (call : CalledAs main t u) (reached : Reached t)
    (before : Unregistered main s t) (other : main ≠ Name.mainModule) : Unregistered main s u := by
  have imports {fs : FileSystem} {name : String} {t : Interpreter} {x : Except RunError Module}
      (reached : Reached t) (before : Unregistered main s t)
      (ended : Interpreter.importModule fs name t = some (x, u)) : Unregistered main s u := by
    have changes : Changes fs [name] t u :=
      importModule_changes reached.consistent List.mem_cons_self ended
    exact before.changes other changes
  cases call with
  | importModule ended => exact imports reached before ended
  | runMain ended =>
    rw [runMain_eq] at ended
    exact imports (.called reached (.setEntryPoint t (some main)))
      ⟨rfl, before.absent, before.events⟩ ended

theorem mainModule_of_imported (reached : Reached t) (entryPoint : t.entryPoint = some main)
    (ended : importModule fs main t = some (.ok module, u)) :
    u.lookup Name.mainModule = some module ∧ module.name = Name.mainModule := by
  have continues := importWithin_continues reached.consistent ended
  have loaded := loaded?_of_importWithin reached.consistent ended rfl
  unfold loaded? at loaded
  rw [registeredName_of_entryPoint (continues.entryPoint.trans entryPoint), if_pos rfl] at loaded
  exact ⟨loaded, continues.consistent.named.name loaded⟩

/-- While a name is the entry point it is not registered, not even for a moment, whatever is imported
over whatever files, and whether or not the imports succeed. What an import or a run of it gives is
the module that is registered as the main module, and that is its name. -/
theorem entryPoint_unregistered (reached : Reached s) (other : main ≠ Name.mainModule)
    (absent : s.lookup main = none)
    (calls : Relation.ReflTransGen (CalledAs main) (s.setEntryPoint (some main)) t) :
    Unregistered main s t ∧
      ∀ fs module u,
        importModule fs main t = some (.ok module, u) ∨ runMain fs main t = some (.ok module, u) →
        Unregistered main s u ∧ u.lookup Name.mainModule = some module ∧
          module.name = Name.mainModule := by
  have along : Reached t ∧ Unregistered main s t := by
    induction calls with
    | refl =>
      refine ⟨.called reached (.setEntryPoint s (some main)), rfl, absent, ?_⟩
      exact fun _ member _ => member
    | tail _ call ih => exact ⟨.called ih.1 call.called, call.unregistered ih.1 ih.2 other⟩
  obtain ⟨reached, before⟩ := along
  refine ⟨before, ?_⟩
  intro fs module u call
  rcases call with imported | ran
  · have after := (CalledAs.importModule imported).unregistered reached before other
    exact ⟨after, mainModule_of_imported reached before.entryPoint imported⟩
  · have after := (CalledAs.runMain ran).unregistered reached before other
    have start := Reached.called reached (.setEntryPoint t (some main))
    exact ⟨after, mainModule_of_imported start rfl ran⟩

theorem calledAs_of_imports (imports : Imports fs s t) :
    Relation.ReflTransGen (CalledAs main) s t := by
  induction imports with
  | refl => exact .refl
  | step _ ended ih => exact ih.tail (.importModule ended)

/-- A package `p` that imports its submodule `c` before the submodule is looked for, which imports the
package and a module `q` that imports it back. A module `x` imports the submodule and then fails. -/
def entryPointFiles : FileSystem where
  entries := [("r", .directory [
    ("p", .directory [
      ("__init__.pyf", .file (Artifact.frame
        (Artifact.body.write ⟨"p", "p.py", [.importName "p.c" (some "main")]⟩))),
      ("c.pyf", .file (Artifact.frame
        (Artifact.body.write ⟨"p.c", "c.py", [.importName "p" none, .importName "q" none]⟩)))]),
    ("q.pyf", .file (Artifact.frame
      (Artifact.body.write ⟨"q", "q.py", [.importName "p.c" none]⟩))),
    ("x.pyf", .file (Artifact.frame
      (Artifact.body.write ⟨"x", "x.py", [.importName "p.c" none, .raise "no"]⟩)))])]
  workingDirectory := .top

theorem entryPoint_unregistered_entryPointFiles :
    ∃ t u module, session entryPointFiles ["x", "q"] (fresh.setEntryPoint (some "p.c")) = some t ∧
      importModule entryPointFiles "p.c" t = some (.ok module, u) ∧
      u.modules = ["__main__", "p", "q"] ∧ u.lookup "p.c" = none ∧
      u.lookup "__main__" = some module ∧ module.name = "__main__" := by
  have ran : ((session entryPointFiles ["x", "q"] (fresh.setEntryPoint (some "p.c"))).bind fun t =>
      (importModule entryPointFiles "p.c" t).map fun p => (p.1.toOption, p.2.modules)) =
      some (some ⟨2, "__main__"⟩, ["__main__", "p", "q"]) := by decide +kernel
  obtain ⟨t, calls, ran⟩ := Option.bind_eq_some_iff.mp ran
  obtain ⟨⟨x, u⟩, imported, same⟩ := Option.map_eq_some_iff.mp ran
  obtain ⟨given, modules⟩ := Prod.mk.inj same
  cases x with
  | error e => cases given
  | ok module =>
    have other : "p.c" ≠ Name.mainModule := by decide
    obtain ⟨-, gives⟩ := entryPoint_unregistered reached_fresh other rfl
      (calledAs_of_imports (imports_of_session calls))
    obtain ⟨after, registered, name⟩ := gives entryPointFiles module u (.inl imported)
    exact ⟨t, u, module, calls, imported, modules, after.absent, registered, name⟩

/-- A module was made for a name during an import of `root` from `s` to `t`: the walk along the search
path of the parent has selected the artifact whose body is the only one that was executed in it, or
the portions that it was assembled from. -/
inductive MadeFor (fs : FileSystem) (root name : String) (s : Interpreter) (module : Module)
    (t : Interpreter) : Prop
  | executed {u parent? importer plan} : Changes fs [root] s u →
      Loadable fs name parent? importer plan u → module = u.loading plan →
      t.bodyEvents module = [.finished module plan.artifact, .began module plan.code plan.artifact] →
      MadeFor fs root name s module t
  | assembled {u parent? portions} : Changes fs [root] s u →
      Ready fs name parent? (.portions portions) u → module = (u.assemble name portions).1 →
      .assembled module.name module portions ∈ t.trace → t.bodyEvents module = [] →
      MadeFor fs root name s module t

theorem MadeFor.later {root : String} (made : MadeFor fs root name s module t)
    (remembered : ∀ event ∈ t.trace, event ∈ u.trace)
    (same : u.bodyEvents module = t.bodyEvents module) : MadeFor fs root name s module u := by
  cases made with
  | executed before loadable own once => exact .executed before loadable own (same.trans once)
  | assembled before ready own made silent =>
    exact .assembled before ready own (remembered _ made) (same.trans silent)

/-- A registration on the way makes its module for its name, if the module is whole at the end. -/
theorem madeFor_of_registers {root : String} {v : Interpreter} (before : Changes fs [root] s u)
    (registers : Registers fs [root] u name module v) (after : Changes fs [root] v t)
    (whole : t.Whole key module) : MadeFor fs root name s module t := by
  have remembered := remembered_of_changes after
  cases registers with
  | @assembled parent? portions _ ready =>
    obtain ⟨owned, silent⟩ := bodyEvents_assembled ready
    have still := (bodyEvents_eq_nil_of_changes after owned silent).2
    exact .assembled before ready rfl (remembered _ List.mem_cons_self) still
  | started _ loadable =>
    have began := remembered _ (began_mem_started loadable.unregistered)
    exact .executed before loadable rfl (whole.once began)

/-- When there is a main module, a run of any program gives that module and changes nothing else. -/
theorem runMain_of_mainModule (importable : Name.isImportable name = true)
    (found : s.lookup Name.mainModule = some module) :
    runMain fs name s =
      some (.ok module, (s.setEntryPoint (some name)).record (.imported name module)) := by
  rw [runMain_eq]
  apply importModule_of_loaded importable
  unfold loaded?
  rw [registeredName_of_entryPoint rfl, if_pos rfl]
  exact found

/-- A level that gives a module for a name that was free makes it for this name, unless the import of
the parent has registered the name. -/
theorem level_gives {depth : Nat} (consistent : s.Consistent) (absent : s.loaded? name = none)
    (level : Level fs (importWithin fs depth) name s (.ok module) t) (whole : t.Whole key module) :
    MadeFor fs name name s module t ∨ Name.parent? name ≠ none ∧ Changes fs [name] s t := by
  have wanted : s.Wanted [name] name := .requested List.mem_cons_self
  have nested : Chains fs [name] depth := importWithin_changes fs [name] depth
  cases level with
  | registered _ loaded =>
    rw [absent] at loaded
    cases loaded
  | registeredByParent _ _ parent _ loaded =>
    refine .inr ⟨?_, importParent_changes nested consistent wanted parent⟩
    intro top
    obtain ⟨-, -, rfl⟩ | ⟨_, _, isParent, -⟩ := importParent_inv parent
    · rw [absent] at loaded
      cases loaded
    · rw [top] at isParent
      cases isParent
  | assembled searching search _ =>
    obtain ⟨before, asked⟩ := searching_changes nested consistent wanted searching search
    have ready := ready_of_search consistent searching search
    exact .inl (madeFor_of_registers before (.assembled asked ready) (assembled_changes ready) whole)
  | loaded searching search found body =>
    obtain ⟨before, asked⟩ := searching_changes nested consistent wanted searching search
    have loadable := loadable_of_search consistent searching search found
    have after := load_changes nested loadable body
    exact .inl (madeFor_of_registers before (.started asked loadable) after whole)

/-- What a run of a program gives is the main module. It is the module that was made for the program,
unless there was a main module before, or the package that the program is in has made one under the
name of the main module. -/
theorem runMain_gives (reached : Reached s) (ran : runMain fs main s = some (.ok module, t)) :
    t.lookup Name.mainModule = some module ∧
      (s.lookup Name.mainModule = some module ∧
          t = (s.setEntryPoint (some main)).record (.imported main module) ∨
        s.lookup Name.mainModule = none ∧ ¬s.Owns module ∧
          (MadeFor fs main main (s.setEntryPoint (some main)) module t ∨
            Name.parent? main ≠ none ∧ main ≠ Name.mainModule ∧
              MadeFor fs main Name.mainModule (s.setEntryPoint (some main)) module t)) := by
  have start := Reached.called reached (.setEntryPoint s (some main))
  have after := Reached.called reached (.runMain ran)
  have imported := ran
  rw [runMain_eq] at imported
  have registered := (mainModule_of_imported start rfl imported).1
  refine ⟨registered, ?_⟩
  cases found : s.lookup Name.mainModule with
  | some earlier =>
    left
    rw [runMain_of_mainModule (isImportable_of_importWithin imported) found] at ran
    cases ran
    exact ⟨rfl, rfl⟩
  | none =>
    right
    have absent : (s.setEntryPoint (some main)).lookup Name.mainModule = none := found
    have free : (s.setEntryPoint (some main)).loaded? main = none := by
      unfold loaded?
      rw [registeredName_of_entryPoint rfl, if_pos rfl]
      exact found
    obtain ⟨depth, u, -, level, rfl⟩ := importWithin_inv imported
    have continues := level_continues start.consistent level
    obtain ⟨whole, new⟩ := continues.settles.settled _ _ absent registered
    have noted {name : String} (made : MadeFor fs main name (s.setEntryPoint (some main)) module u) :
        MadeFor fs main name (s.setEntryPoint (some main)) module (u.noteImported main (.ok module)) :=
      made.later (fun _ => List.mem_cons_of_mem _) (bodyEvents_record_other fun _ about => by cases about)
    have foreign : ¬s.Owns module := by
      simpa [Owns] using new
    refine ⟨rfl, foreign, ?_⟩
    obtain made | ⟨inPackage, changes⟩ := level_gives start.consistent free level whole
    · exact .inl (noted made)
    · -- the import of the package has registered the main module, for one of two names
      obtain ⟨v, w, name, before, registers, same, rest⟩ :=
        registered_of_changes changes absent registered
      have made := noted (madeFor_of_registers before registers rest whole)
      rw [registeredName_of_entryPoint rfl] at same
      by_cases own : main = name
      · subst own
        exact .inl made
      · rw [if_neg own] at same
        rw [← same] at own made
        exact .inr ⟨inPackage, own, made⟩

/-- Two programs `a` and `b`, and a package `p` with a program `c`. The package imports a module that
has the name of the main module. -/
def programFiles : FileSystem where
  entries := [("r", .directory [
    ("__main__.pyf", .file (Artifact.frame (Artifact.body.write ⟨"__main__", "m.py", []⟩))),
    ("a.pyf", .file (Artifact.frame (Artifact.body.write ⟨"a", "a.py", [.print "a"]⟩))),
    ("b.pyf", .file (Artifact.frame (Artifact.body.write ⟨"b", "b.py", [.print "b"]⟩))),
    ("p", .directory [
      ("__init__.pyf", .file (Artifact.frame
        (Artifact.body.write ⟨"p", "p.py", [.importName "__main__" none]⟩))),
      ("c.pyf", .file (Artifact.frame
        (Artifact.body.write ⟨"p.c", "c.py", [.print "c"]⟩)))])])]
  workingDirectory := .top

/-- The artifacts of the bodies that have begun, the latest first. -/
def begunArtifacts (s : Interpreter) : List Path :=
  s.trace.filterMap fun
    | .began _ _ artifact => some artifact
    | _ => none

/-- A run of `b` after one of `a` gives the module of `a`, and a run of `p.c` gives a module that is
not made from `c`. -/
theorem runMain_gives_programFiles :
    (∃ s t module, runMain programFiles "a" fresh = some (.ok module, s) ∧
      runMain programFiles "b" s = some (.ok module, t) ∧
      t = (s.setEntryPoint (some "b")).record (.imported "b" module) ∧
      t.begunArtifacts = [⟨"/r/a.pyf"⟩]) ∧
    ∃ t module, runMain programFiles "p.c" fresh = some (.ok module, t) ∧
      t.lookup "__main__" = some module ∧ ¬fresh.Owns module ∧
      t.begunArtifacts = [⟨"/r/__main__.pyf"⟩, ⟨"/r/p/__init__.pyf"⟩] := by
  have twice : ((runMain programFiles "a" fresh).bind fun p =>
      (runMain programFiles "b" p.2).map fun q =>
        (p.1.toOption, q.1.toOption, p.2.lookup "__main__", q.2.begunArtifacts)) =
      some (some ⟨0, "__main__"⟩, some ⟨0, "__main__"⟩, some ⟨0, "__main__"⟩,
        [⟨"/r/a.pyf"⟩]) := by decide +kernel
  have within : (runMain programFiles "p.c" fresh).map
      (fun p => (p.1.toOption, p.2.begunArtifacts)) =
      some (some ⟨1, "__main__"⟩, [⟨"/r/__main__.pyf"⟩, ⟨"/r/p/__init__.pyf"⟩]) := by decide +kernel
  constructor
  · obtain ⟨⟨x, s⟩, first, ran⟩ := Option.bind_eq_some_iff.mp twice
    obtain ⟨⟨y, t⟩, second, same⟩ := Option.map_eq_some_iff.mp ran
    simp only [Prod.mk.injEq] at same
    obtain ⟨given, again, found, begun⟩ := same
    cases x with
    | error e => cases given
    | ok module =>
      cases y with
      | error e => cases again
      | ok module' =>
        cases given
        cases again
        obtain ⟨-, ⟨-, nothing⟩ | ⟨absent, -⟩⟩ :=
          runMain_gives (.called reached_fresh (.runMain first)) second
        · exact ⟨s, t, _, first, second, nothing, begun⟩
        · have none : s.lookup "__main__" = none := absent
          rw [found] at none
          cases none
  · obtain ⟨⟨x, t⟩, ran, same⟩ := Option.map_eq_some_iff.mp within
    obtain ⟨given, begun⟩ := Prod.mk.inj same
    cases x with
    | error e => cases given
    | ok module =>
      obtain ⟨registered, ⟨absurd, -⟩ | ⟨-, new, -⟩⟩ := runMain_gives reached_fresh ran
      · cases absurd
      · exact ⟨t, module, ran, registered, new, begun⟩

end ModuleImport.Interpreter
