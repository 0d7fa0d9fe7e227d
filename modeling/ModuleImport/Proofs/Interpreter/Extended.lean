import ModuleImport.Proofs.Interpreter.Course

namespace ModuleImport

open Run Body

/-- Whether a namespace package is made. -/
def Event.assembles : Event → Bool
  | assembled .. => true
  | _ => false

namespace Interpreter

/-- The state with more directories at the end of the search path. -/
def extended (more : List Path) (s : Interpreter) : Interpreter :=
  { s with searchPath := s.searchPath ++ more }

/-- No namespace package was made. -/
def Unassembled (s : Interpreter) : Prop :=
  ∀ event ∈ s.trace, event.assembles = false

instance (s : Interpreter) : Decidable s.Unassembled :=
  inferInstanceAs (Decidable (∀ event ∈ s.trace, event.assembles = false))

variable {fs : FileSystem} {more : List Path} {name : String} {depth : Nat} {s t u : Interpreter}

theorem Unassembled.of_subset (none : t.Unassembled) (remembered : s.trace ⊆ t.trace) :
    s.Unassembled :=
  fun event member => none event (remembered member)

theorem Unassembled.earlier (none : t.Unassembled) (continues : s.Continues t) : s.Unassembled :=
  none.of_subset fun event member => continues.settles.remembered event member

section Steps

theorem assign_extended (more : List Path) (s : Interpreter) (module : Module) (attr : String)
    (value : Value) :
    (s.extended more).assign module attr value = (s.assign module attr value).extended more := rfl

theorem record_extended (more : List Path) (s : Interpreter) (event : Event) :
    (s.extended more).record event = (s.record event).extended more := rfl

theorem getOrCreate_extended (more : List Path) (s : Interpreter) (name : String) :
    (s.extended more).getOrCreate name =
      ((s.getOrCreate name).1, (s.getOrCreate name).2.extended more) := by
  have same : (s.extended more).lookup name = s.lookup name := rfl
  unfold getOrCreate
  rw [same]
  cases s.lookup name <;> rfl

theorem prepared_extended (more : List Path) (s : Interpreter) (importer : Importer)
    (plan : LoadPlan) (module : Module) :
    (s.extended more).prepared importer plan module =
      (s.prepared importer plan module).extended more := by
  unfold prepared entered
  cases plan.searchPath? <;> simp only [assign_extended, record_extended]

theorem loading_extended (more : List Path) (s : Interpreter) (plan : LoadPlan) :
    (s.extended more).loading plan = s.loading plan := by
  rw [loading, getOrCreate_extended]
  rfl

theorem started_extended (more : List Path) (s : Interpreter) (importer : Importer)
    (plan : LoadPlan) :
    (s.extended more).started importer plan = (s.started importer plan).extended more := by
  rw [started, getOrCreate_extended, loading_extended, prepared_extended]
  rfl

theorem bindOnParent_extended (more : List Path) (s : Interpreter) (parent? : Option Module)
    (name : String) (module : Module) :
    (s.extended more).bindOnParent parent? name module =
      (s.bindOnParent parent? name module).extended more := by
  unfold bindOnParent
  split
  · exact assign_extended more s _ _ _
  · rfl

theorem completed_extended (more : List Path) (s t : Interpreter) (plan : LoadPlan) :
    (s.extended more).completed plan (t.extended more) = (s.completed plan t).extended more := by
  rw [completed, loading_extended]
  rfl

theorem importerFor_extended (more : List Path) (s : Interpreter) (fs : FileSystem) (entry : Path) :
    (s.extended more).importerFor fs entry =
      ((s.importerFor fs entry).1, (s.importerFor fs entry).2.extended more) := by
  have cached : (s.extended more).importers = s.importers := rfl
  have store : (s.extended more).store = s.store := rfl
  have entryPoint : (s.extended more).entryPoint = s.entryPoint := rfl
  unfold importerFor
  simp only [cached, store, entryPoint]
  cases s.importers.get? entry.canonicalText with
  | some importer? => rfl
  | none => cases s.store.openImporter fs entry s.entryPoint <;> rfl

theorem search_extended (more : List Path) (fs : FileSystem) (name : String)
    (directories : List Path) (s : Interpreter) :
    (s.extended more).search fs name directories =
      ((s.search fs name directories).1, (s.search fs name directories).2.extended more) := by
  induction directories generalizing s with
  | nil => rfl
  | cons entry rest ih =>
    rw [search, search, importerFor_extended]
    cases s.importerFor fs entry with
    | mk importer? t =>
      cases importer? with
      | none => exact ih t
      | some importer =>
        dsimp only
        cases importer.offer fs name with
        | error e => rfl
        | ok offer =>
          cases offer with
          | loader => rfl
          | nothing => exact ih t
          | portion directory =>
            dsimp only
            rw [ih]

theorem search_append {directories : List Path} {importer : Importer}
    (h : s.search fs name directories = (.ok (.loader importer), t)) (more : List Path) :
    s.search fs name (directories ++ more) = (.ok (.loader importer), t) := by
  induction directories generalizing s with
  | nil => cases h
  | cons entry rest ih =>
    rw [search] at h
    rw [List.cons_append, search]
    cases hfor : s.importerFor fs entry with
    | mk importer? u =>
      rw [hfor] at h
      cases importer? with
      | none => exact ih h
      | some other =>
        dsimp only at h ⊢
        cases offered : other.offer fs name with
        | error e =>
          rw [offered] at h
          cases h
        | ok offer =>
          rw [offered] at h
          cases offer with
          | loader => exact h
          | nothing => exact ih h
          | portion directory =>
            dsimp only at h ⊢
            cases onwards : u.search fs name rest with
            | mk found v =>
              rw [onwards] at h
              cases found with
              | error e => cases h
              | ok found =>
                cases found with
                | portions directories => cases h
                | loader last =>
                  cases h
                  rw [ih onwards]
                  rfl

end Steps

/-- What is shown of imports that are nested less deeply. -/
def Extending (fs : FileSystem) (more : List Path) (depth : Nat) : Prop :=
  ∀ {name s module t}, s.Consistent → importWithin fs depth name s = some (.ok module, t) →
    t.Unassembled →
    importWithin fs depth name (s.extended more) = some (.ok module, t.extended more)

theorem instruction_extended (nested : Extending fs more depth) (consistent : s.Consistent)
    {module : Module} {artifact : Path} {instruction : Instruction}
    (h : runInstruction (importWithin fs depth) module artifact instruction s = some (.ok (), t))
    (none : t.Unassembled) :
    runInstruction (importWithin fs depth) module artifact instruction (s.extended more) =
      some (.ok (), t.extended more) := by
  cases instruction with
  | store name value =>
    cases h
    rfl
  | print text =>
    cases h
    rfl
  | raise message => cases h
  | copy target source =>
    have same : (s.extended more).store.get? module source = s.store.get? module source := rfl
    rw [runInstruction, look_bind] at h ⊢
    rw [same]
    cases found : s.store.get? module source with
    | none =>
      rw [found] at h
      cases h
    | some value =>
      rw [found] at h
      cases h
      rfl
  | importName name bind =>
    rw [runInstruction] at h ⊢
    obtain ⟨_, _, absurd⟩ | ⟨imported, u, got, rest⟩ := bind_inv h
    · cases absurd
    have after := importWithin_continues consistent got
    cases bind with
    | some target =>
      cases rest
      rw [bind_of_ok (nested consistent got none)]
      rfl
    | none =>
      obtain ⟨_, _, absurd⟩ | ⟨package, v, found, last⟩ := bind_inv rest
      · cases absurd
      cases last
      unfold outermost at found
      split at found
      · rename_i same
        cases found
        rw [bind_of_ok (nested consistent got none)]
        simp only [outermost, if_pos same]
        rfl
      · rename_i other
        have second := importWithin_continues after.consistent found
        rw [bind_of_ok (nested consistent got (Unassembled.earlier (t := v) none second))]
        simp only [outermost, if_neg other]
        rw [bind_of_ok (nested after.consistent found none)]
        rfl

theorem body_extended (nested : Extending fs more depth) (consistent : s.Consistent)
    {module : Module} {artifact : Path} {instructions : List Instruction}
    (h : runInstructions (importWithin fs depth) module artifact instructions s = some (.ok (), t))
    (none : t.Unassembled) :
    runInstructions (importWithin fs depth) module artifact instructions (s.extended more) =
      some (.ok (), t.extended more) := by
  induction instructions generalizing s with
  | nil =>
    cases h
    rfl
  | cons instruction rest ih =>
    rw [runInstructions] at h ⊢
    obtain ⟨_, _, absurd⟩ | ⟨_, u, ran, onwards⟩ := bind_inv h
    · cases absurd
    have first := instruction_continues consistent ran
    have later := body_continues first.consistent onwards
    rw [bind_of_ok (instruction_extended nested consistent ran (none.earlier later))]
    exact ih first.consistent onwards

theorem importParent_extended (nested : Extending fs more depth) (consistent : s.Consistent)
    {parent? : Option Module}
    (h : importParent (importWithin fs depth) name s = some (.ok parent?, t))
    (none : t.Unassembled) :
    importParent (importWithin fs depth) name (s.extended more) =
      some (.ok parent?, t.extended more) := by
  obtain ⟨top, same, rfl⟩ | ⟨parent, x, isParent, imported, same⟩ := importParent_inv h
  · cases same
    exact importParent_of_none top
  · cases x with
    | error e => cases same
    | ok module =>
      cases same
      exact importParent_of_ok isParent (nested consistent imported none)

theorem directories?_extended {parent? : Option Module} {directories : List Path}
    (known : s.directories? parent? = some directories) (more : List Path) :
    ∃ rest, (s.extended more).directories? parent? = some (directories ++ rest) := by
  cases parent? with
  | none =>
    cases known
    exact ⟨more, rfl⟩
  | some parent =>
    refine ⟨[], ?_⟩
    rw [List.append_nil]
    exact known

/-- The search of a level ends with the same loader, whatever comes after in the search path. -/
theorem searching_extended (nested : Extending fs more depth) (consistent : s.Consistent)
    {parent? : Option Module} {directories : List Path} {importer : Importer}
    (searching : Searching (importWithin fs depth) name s parent? directories t)
    (search : t.search fs name directories = (.ok (.loader importer), u)) (none : t.Unassembled) :
    ∃ rest, Searching (importWithin fs depth) name (s.extended more) parent? (directories ++ rest)
        (t.extended more) ∧
      (t.extended more).search fs name (directories ++ rest) =
        (.ok (.loader importer), u.extended more) := by
  obtain ⟨rest, known⟩ := directories?_extended searching.directories more
  have parent := importParent_extended nested consistent searching.parent none
  refine ⟨rest, ⟨searching.importable, searching.absent, parent, known, searching.stillAbsent⟩, ?_⟩
  rw [search_extended, search_append search]

/-- A level that ends with a module and makes no namespace package ends in the same way when there
are more directories to search. -/
theorem level_extended (nested : Extending fs more depth) (consistent : s.Consistent)
    {module : Module} (level : Level fs (importWithin fs depth) name s (.ok module) t) (none : t.Unassembled) :
    Level fs (importWithin fs depth) name (s.extended more) (.ok module) (t.extended more) := by
  cases level with
  | registered importable loaded => exact .registered importable loaded
  | registeredByParent importable absent parent known loaded =>
    obtain ⟨rest, known⟩ := directories?_extended known more
    exact .registeredByParent importable absent
      (importParent_extended nested consistent parent none) known loaded
  | @assembled parent? directories portions v u searching search some =>
    have made := none (.assembled (u.registeredName name) (u.assemble name portions).1 portions)
      (by simp [assemble, record])
    cases made
  | @loaded parent? directories importer plan v u w searching search found body =>
    have parent := importParent_continues consistent searching.parent
    have searched := search_continues parent.consistent search
    have loadable := loadable_of_search consistent searching search found
    have start := consistent_started importer plan loadable.consistent
    have ran := body_continues start body
    -- the events are never taken back, so no package was made up to any of the states on the way
    have noneRun : w.Unassembled := none.of_subset (by simp [completed, record])
    have noneStarted : (u.started importer plan).Unassembled := noneRun.earlier ran
    have noneFound : u.Unassembled := noneStarted.of_subset (by
      rw [trace_started importer loadable.unregistered]
      exact List.subset_append_right _ _)
    obtain ⟨rest, searching', search'⟩ :=
      searching_extended nested consistent searching search (noneFound.earlier searched)
    have body' := body_extended nested start body noneRun
    rw [← started_extended, ← loading_extended more] at body'
    have level' := Level.loaded searching' search' found body'
    rw [loading_extended, completed_extended, bindOnParent_extended] at level'
    exact level'

theorem importWithin_extended (fs : FileSystem) (more : List Path) (depth : Nat) :
    Extending fs more depth := by
  induction depth with
  | zero =>
    intro name s module t _ h
    cases h
  | succ depth ih =>
    intro name s module t consistent h none
    obtain ⟨d, u, same, level, rfl⟩ := importWithin_inv h
    cases same
    have level' := level_extended ih consistent level
      (none.of_subset (List.subset_cons_self _ _))
    rw [importWithin, bind_of_ok (importStep_of_level level')]
    rfl

/-- A call that brings in a module, as the main module or not. -/
inductive Call where
  | toImport (name : String)
  | toRunMain (name : String)

def Call.run (fs : FileSystem) : Call → Run Module
  | toImport name => importModule fs name
  | toRunMain name => runMain fs name

/-- Calls in a row, up to the first that fails. -/
def runAll (fs : FileSystem) : List Call → Run (List Module)
  | [] => pure []
  | call :: calls => do
    let module ← call.run fs
    let modules ← runAll fs calls
    pure (module :: modules)

theorem Call.run_inv {call : Call} {x : Except RunError Module} (consistent : s.Consistent)
    (h : call.run fs s = some (x, t)) :
    ∃ name r, r.Consistent ∧ r.trace = s.trace ∧ importModule fs name r = some (x, t) ∧
      ∀ more, call.run fs (s.extended more) = importModule fs name (r.extended more) := by
  cases call with
  | toImport name => exact ⟨name, s, consistent, rfl, h, fun _ => rfl⟩
  | toRunMain name =>
    exact ⟨name, s.setEntryPoint (some name), ⟨consistent.sound.setEntryPoint _,
      consistent.named.of_registry rfl⟩, rfl, h, fun _ => rfl⟩

theorem runAll_extended {calls : List Call} {modules : List Module} (consistent : s.Consistent)
    (h : runAll fs calls s = some (.ok modules, t)) (none : t.Unassembled) :
    runAll fs calls (s.extended more) = some (.ok modules, t.extended more) ∧
      s.trace ⊆ t.trace := by
  induction calls generalizing s modules with
  | nil =>
    cases h
    exact ⟨rfl, List.Subset.refl _⟩
  | cons call calls ih =>
    rw [runAll] at h
    obtain ⟨_, _, absurd⟩ | ⟨module, u, called, rest⟩ := bind_inv h
    · cases absurd
    obtain ⟨_, _, absurd⟩ | ⟨others, v, onwards, last⟩ := bind_inv rest
    · cases absurd
    cases last
    obtain ⟨name, r, start, trace, imported, again⟩ := call.run_inv consistent called
    have continues := importWithin_continues start imported
    obtain ⟨ran, remembered⟩ := ih continues.consistent onwards
    have same := importWithin_extended fs more _ start imported (none.of_subset remembered)
    rw [runAll, bind_of_ok ((again more).trans same), bind_of_ok ran]
    refine ⟨rfl, fun event member => remembered (continues.settles.remembered event ?_)⟩
    rw [trace]
    exact member

/-- If all calls of a new interpreter give modules and none of them makes a namespace package, then
they do the same when more directories are searched after those that there are. They give the same
modules and leave the same state but for the search path: the registered names, the attributes of
all modules, the bodies that were run with their artifacts, and the printed lines are the same. -/
theorem searchPath_extended {config : Config} {more : List Path} {calls : List Call}
    {modules : List Module} (ran : runAll fs calls (new config) = some (.ok modules, t))
    (none : t.Unassembled) :
    runAll fs calls (new { config with searchPath := config.searchPath ++ more }) =
      some (.ok modules, { t with searchPath := t.searchPath ++ more }) :=
  (runAll_extended (Reached.new config).consistent ran none).1

/-- A module `a` that imports the submodule of a package, and in another repository other modules of
the same names and one that stands nowhere else. -/
def twofoldFiles : FileSystem where
  entries := [
    ("r", .directory [
      ("a.pyf", .file (Artifact.frame
        (Artifact.body.write ⟨"a", "a.py", [.importName "p.c" none, .print "a"]⟩))),
      ("p", .directory [
        ("__init__.pyf", .file (Artifact.frame (Artifact.body.write ⟨"p", "p.py", []⟩))),
        ("c.pyf", .file (Artifact.frame
          (Artifact.body.write ⟨"p.c", "c.py", [.print "c"]⟩)))])]),
    ("q", .directory [
      ("a.pyf", .file (Artifact.frame (Artifact.body.write ⟨"a", "a.py", [.raise "no"]⟩))),
      ("b.pyf", .file (Artifact.frame (Artifact.body.write ⟨"b", "b.py", []⟩))),
      ("p.pyf", .file (Artifact.frame (Artifact.body.write ⟨"p", "p.py", []⟩)))])]
  workingDirectory := .top

theorem searchPath_extended_twofoldFiles :
    ∃ t, runAll twofoldFiles [.toImport "p.c", .toRunMain "a"] (new ⟨[⟨"/r"⟩], none, .empty⟩) =
        some (.ok [⟨1, "p.c"⟩, ⟨2, "__main__"⟩], t) ∧
      runAll twofoldFiles [.toImport "p.c", .toRunMain "a"]
          (new ⟨[⟨"/r"⟩, ⟨"/q"⟩, ⟨"/none"⟩], none, .empty⟩) =
        some (.ok [⟨1, "p.c"⟩, ⟨2, "__main__"⟩],
          { t with searchPath := t.searchPath ++ [⟨"/q"⟩, ⟨"/none"⟩] }) ∧
      t.output.lines = ["c", "a"] ∧ t.modules = ["__main__", "p", "p.c"] := by
  have ran : (runAll twofoldFiles [.toImport "p.c", .toRunMain "a"]
      (new ⟨[⟨"/r"⟩], none, .empty⟩)).map
        (fun p => ((p.1.toOption, decide p.2.Unassembled), (p.2.output.lines, p.2.modules))) =
      some ((some [⟨1, "p.c"⟩, ⟨2, "__main__"⟩], true),
        (["c", "a"], ["__main__", "p", "p.c"])) := by
    decide +kernel
  obtain ⟨⟨x, t⟩, call, same⟩ := Option.map_eq_some_iff.mp ran
  simp only [Prod.mk.injEq] at same
  obtain ⟨⟨given, unassembled⟩, printed, registered⟩ := same
  cases x with
  | error e => cases given
  | ok modules =>
    cases given
    have longer := @searchPath_extended _ _ ⟨[⟨"/r"⟩], none, .empty⟩ [⟨"/q"⟩, ⟨"/none"⟩] _ _ call
      (of_decide_eq_true unassembled)
    exact ⟨t, call, longer, printed, registered⟩

end Interpreter

end ModuleImport
