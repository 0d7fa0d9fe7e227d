import ModuleImport.Proofs.Interpreter.Attached
import ModuleImport.Proofs.Interpreter.Walk
import ModuleImport.Proofs.Repository.Chain

namespace ModuleImport

open Run Repository ModuleImport.Path FileSystem Name

namespace Interpreter

variable {fs : FileSystem} {name segment : String} {place root artifact : Path}
  {outer segments : List String} {resolution : Resolution} {parent? : Option Module}
  {module : Module} {plan : LoadPlan} {importer : Importer} {s t u v : Interpreter}

/-- A module was made for what a name stands for and registered under the name, and has not yet been
bound on its parent. -/
structure Makes (s : Interpreter) (name : String) (resolution : Resolution) (module : Module)
    (t : Interpreter) : Prop where
  lookup : ∀ key, t.lookup key = if key = name then some module else s.lookup key
  new : ¬s.Owns module
  importers : t.importers = s.importers
  kept : ∀ other, s.Owns other → ∀ attr, t.store.get? other attr = s.store.get? other attr
  searchPath : t.store.searchPath? module =
    resolution.searchPath?.map fun directory => [directory]
  file : t.store.file? module = resolution.artifact?

theorem makes_assembled (entryless : s.entryPoint = none) (name : String) (directory : Path) :
    Makes s name (.portion directory) (s.assemble name [directory]).1
      (s.assemble name [directory]).2 := by
  have target := registeredName_eq entryless name
  have own := get?_assembled s name [directory]
  refine ⟨fun key => ?_, ?_, rfl, fun other owned attr => ?_, ?_, ?_⟩
  · have looked := lookup_register s (s.registeredName name) key
    rw [target] at looked
    unfold assemble
    rw [target]
    exact looked
  · exact not_owns_register s _
  · have apart : other.id ≠ (s.register (s.registeredName name)).1.id := Nat.ne_of_lt owned
    exact (Store.get?_set_other _ apart _ _ _).trans (Store.get?_newModule owned _ _)
  · rw [Store.searchPath?, own, if_pos rfl]
    exact Value.paths?_ofPaths _
  · rw [Store.file?, own]
    rfl

theorem owns_assign (owned : s.Owns module) (other : Module) (attr : String) (value : Value) :
    (s.assign other attr value).Owns module := by
  unfold Owns
  rw [size_assign]
  exact owned

theorem get?_assign_self (owned : s.Owns module) (attr key : String) (value : Value) :
    (s.assign module attr value).store.get? module key =
      if key = attr then some value else s.store.get? module key :=
  Store.get?_set_self _ owned attr key value

theorem get?_entered_self (owned : s.Owns module) (code : Code) (artifact : Path) (key : String) :
    (s.entered module code artifact).store.get? module key =
      if key = fileAttribute then some (.path artifact)
      else if key = nameAttribute then some (.str module.name) else s.store.get? module key := by
  have named := get?_assign_self owned nameAttribute key (.str module.name)
  have filed := get?_assign_self (owns_assign owned module nameAttribute (.str module.name))
    fileAttribute key (.path artifact)
  rw [named] at filed
  exact filed

theorem owns_told (owned : s.Owns module) (importer : Importer) (plan : LoadPlan) :
    (s.told importer plan module).Owns module := by
  have loader := owns_assign owned module loaderAttribute (.loader importer)
  unfold told
  cases plan.searchPath? with
  | none => exact loader
  | some directory => exact owns_assign loader _ _ _

theorem searchPath?_told (owned : s.Owns module) (importer : Importer) (plan : LoadPlan)
    (untold : s.store.get? module searchPathAttribute = none) :
    (s.told importer plan module).store.searchPath? module =
      plan.searchPath?.map fun directory => [directory] := by
  have loader := owns_assign owned module loaderAttribute (.loader importer)
  unfold told
  rw [Store.searchPath?]
  cases plan.searchPath? with
  | none =>
    dsimp only
    rw [get?_assign_self owned, if_neg (by decide), untold]
    rfl
  | some directory =>
    dsimp only
    rw [get?_assign_self loader, if_pos rfl]
    exact Value.paths?_ofPaths _

theorem makes_completed (absent : s.lookup name = none)
    (isFor : LoadPlan.IsFor fs none name resolution plan) (importer : Importer) :
    Makes s name resolution (s.loading plan)
      (s.completed plan (s.started importer plan)) := by
  have target : plan.target = name := isFor.target.trans (Name.registered_none name)
  rw [← target] at absent
  have new := loading_of_absent absent
  have registered := getOrCreate_of_absent absent
  have owned : (s.getOrCreate plan.target).2.Owns (s.loading plan) := by
    simp [Owns, new, registered, record]
  have own : ∀ key, (s.started importer plan).store.get? (s.loading plan) key = _ :=
    get?_entered_self (owns_told owned importer plan) plan.code plan.artifact
  refine ⟨fun key => ?_, not_owns_loading absent, (started_of_absent importer absent).importers,
    fun other older attr => get?_started absent older attr, ?_, ?_⟩
  · rw [← target]
    exact lookup_started importer absent key
  · rw [← isFor.searchPath, ← searchPath?_told owned importer plan]
    · exact congrArg (Option.bind · Value.paths?) (own searchPathAttribute)
    · rw [new, registered]
      exact Store.get?_newModule_self s.store plan.target searchPathAttribute
  · rw [isFor.artifact]
    exact congrArg (Option.bind · Value.path?) (own fileAttribute)

theorem search_singleton (looked : s.importerFor fs place = (some importer, t))
    (resolved : importer.resolve fs name = .ok resolution) :
    s.search fs name [place] = (.ok (match resolution.offer with
      | .loader => .loader importer
      | .portion directory => .portions [directory]
      | .nothing => .portions []), t) := by
  rw [search, looked]
  dsimp only
  rw [Importer.offer, resolved]
  cases resolution <;> rfl

theorem plan_of_emptyBody (resolved : importer.resolve fs name = .ok resolution)
    (isArtifact : resolution.artifact? = some artifact) (empty : EmptyBody fs artifact)
    (entryPoint : Option String) :
    ∃ plan, LoadPlan.find (ε := RunError) fs importer entryPoint name = .ok plan ∧
      plan.code.instructions = [] := by
  obtain ⟨content, code, found, decoded, nothing⟩ := empty
  have read : fs.read artifact = .ok content := by rw [FileSystem.read, found]
  have loadable : resolution.isLoadable = true := by
    rw [Resolution.isLoadable, isArtifact]
    rfl
  refine ⟨⟨Name.registered entryPoint name, artifact, resolution.searchPath?, code⟩, ?_, nothing⟩
  rw [LoadPlan.find, resolved]
  dsimp only
  rw [if_pos loadable, LoadPlan.make, isArtifact]
  dsimp only
  rw [read]
  dsimp only
  rw [decoded]

/-- When a directory is looked into for the first time, the import of a name that stands for an empty
body or a portion there makes a module for it. -/
theorem makes_of_searching (consistent : s.Consistent)
    (searching : Searching (importModule fs) name s parent? [place] t)
    (entryless : t.entryPoint = none) (unseen : t.importers.get? place.canonicalText = none)
    (opened : openRoot fs place = .ok root) (resolved : resolve fs root name = .ok resolution)
    (stands : resolution ≠ .nothing)
    (empty : ∀ artifact ∈ resolution.artifact?, EmptyBody fs artifact) :
    ∃ module u, Makes (t.importerFor fs place).2 name resolution module u ∧
      importModule fs name s = some (.ok module,
        (u.bindOnParent parent? name module).record (.imported name module)) := by
  have first : (t.importerFor fs place).1.map Importer.root = _ := importerFor_of_unseen unseen
  have registry := registry_importerFor t fs place
  have entryPoint := entryPoint_importerFor t fs place
  cases looked : t.importerFor fs place with
  | mk importer? u =>
    rw [looked] at first registry entryPoint
    rw [opened] at first
    obtain ⟨importer, rfl, rfl⟩ := Option.map_eq_some_iff.mp first
    have search : t.search fs name [place] = _ := search_singleton looked resolved
    have unmarked : u.entryPoint = none := entryPoint.trans entryless
    cases isArtifact : resolution.artifact? with
    | none =>
      cases resolution with
      | nothing => exact absurd rfl stands
      | module artifact => cases isArtifact
      | package artifact directory => cases isArtifact
      | portion directory =>
        refine ⟨_, _, makes_assembled unmarked name directory, ?_⟩
        exact importModule_of_level consistent
          (.assembled searching search (List.cons_ne_nil _ _))
    | some artifact =>
      have offers : resolution.offer = .loader := by
        apply (Resolution.offer_eq_loader_iff resolution).mpr
        rw [Resolution.isLoadable, isArtifact]
        rfl
      rw [offers] at search
      obtain ⟨continues, -⟩ := owns_of_importParent consistent searching.parent
      have after := (search_continues continues.consistent search).consistent
      obtain ⟨⟨_, cached⟩, -⟩ := search_loader search
      have knows : u.store.entryPointOf importer = none :=
        (after.sound.agreed cached).trans unmarked
      obtain ⟨plan, found, nothing⟩ := plan_of_emptyBody resolved isArtifact
        (empty artifact isArtifact) (u.store.entryPointOf importer)
      obtain ⟨_, again, isFor⟩ := LoadPlan.isFor_of_find found
      cases resolved.symm.trans again
      rw [knows] at isFor
      have absent : u.lookup name = none := by
        rw [← loaded?_eq_lookup unmarked, loaded?, registeredName, entryPoint, lookup, registry]
        exact searching.stillAbsent
      refine ⟨_, _, makes_completed absent isFor importer, ?_⟩
      have body : Body.runInstructions (importModule fs) (u.loading plan) plan.artifact
          plan.code.instructions (u.started importer plan) =
            some (.ok (), u.started importer plan) := by
        rw [nothing]
        rfl
      exact importModule_of_level consistent (.loaded searching search found body)

/-- The module of a package has the module of its submodule as an attribute. -/
def HoldsSubmodule (s : Interpreter) (package : List String) (segment : String) : Prop :=
  ∃ outer inner, s.lookup (dotted package) = some outer ∧
    s.lookup (dotted (package ++ [segment])) = some inner ∧
    s.store.get? outer segment = some (.module inner)

/-- From a new interpreter imports have come down some segments to a module, or to nothing if there
are no segments yet. -/
structure Arrived (fs : FileSystem) (config : Config) (outer : List String) (parent? : Option Module)
    (t : Interpreter) : Prop where
  all : ∀ part ∈ outer, IsSegment part
  imported : ∀ segment, IsSegment segment →
    importParent (importModule fs) (dotted (outer ++ [segment])) (new config) = some (.ok parent?, t)
  here : t.lookup (dotted outer) = parent?
  registered : ∀ key, t.lookup key ≠ none ↔ ∃ part, part ≠ [] ∧ part <+: outer ∧ key = dotted part
  holds : ∀ part segment, part ≠ [] → part ++ [segment] <+: outer → t.HoldsSubmodule part segment

/-- No path with as many names has been looked into. -/
def Unseen (s : Interpreter) (depth : Nat) : Prop :=
  ∀ p : Path, depth ≤ p.names.length → s.importers.get? p.canonicalText = none

section Descent

variable {config : Config}

theorem arrived_new (fs : FileSystem) (config : Config) :
    Arrived fs config [] none (new config) where
  all := nofun
  imported segment isSegment := by
    rw [List.nil_append, dotted_singleton]
    exact importParent_of_none (parent?_of_isSegment isSegment)
  here := rfl
  registered key := by
    constructor
    · intro found
      exact absurd rfl found
    · rintro ⟨part, some, isPrefix, -⟩
      exact absurd (List.prefix_nil.mp isPrefix) some
  holds part segment _ isPrefix := by
    have empty := List.prefix_nil.mp isPrefix
    simp at empty

namespace Arrived

theorem continues (arrived : Arrived fs config outer parent? t) : (new config).Continues t := by
  -- any segment will do, for all of them have this state as that of their parent
  have isSegment : IsSegment "a" := ⟨by decide, by decide, by decide⟩
  exact (owns_of_importParent (Reached.consistent (.new config))
    (arrived.imported "a" isSegment)).1

theorem absent (arrived : Arrived fs config outer parent? t) (isSegment : IsSegment segment) :
    t.lookup (dotted (outer ++ [segment])) = none := by
  by_contra found
  obtain ⟨part, some, isPrefix, same⟩ := (arrived.registered _).mp found
  have whole : ∀ part ∈ outer ++ [segment], IsSegment part :=
    List.forall_mem_append.mpr ⟨arrived.all, List.forall_mem_singleton.mpr isSegment⟩
  have parts := eq_of_dotted (by simp) whole some
    (fun part member => arrived.all part (isPrefix.subset member)) same
  have length := isPrefix.length_le
  rw [← parts] at length
  simp at length

section Next

variable (arrived : Arrived fs config outer parent? t) (isSegment : IsSegment segment)
  (makes : Makes u (dotted (outer ++ [segment])) resolution module v)
  (registry : u.registry = t.registry)

include arrived isSegment makes registry

theorem stays {key : String} {other : Module} (found : t.lookup key = some other) :
    (v.bindOnParent parent? (dotted (outer ++ [segment])) module).lookup key = some other := by
  rw [lookup_bindOnParent, makes.lookup, if_neg, lookup, registry]
  · exact found
  · rintro rfl
    rw [arrived.absent isSegment] at found
    cases found

theorem holds_later (attributes : u.store.attributes = t.store.attributes) {part : List String}
    {last : String} (some : part ≠ []) (isPrefix : part ++ [last] <+: outer) :
    (v.bindOnParent parent? (dotted (outer ++ [segment])) module).HoldsSubmodule part last := by
  obtain ⟨package, inner, isPackage, isInner, bound⟩ := arrived.holds part last some isPrefix
  have consistent := arrived.continues.consistent
  have isOuter : part <+: outer := (List.prefix_append part [last]).trans isPrefix
  -- the parent is another object, for it is registered under a longer name
  have apart : ∀ parent ∈ parent?, parent.id ≠ package.id := by
    intro parent isParent same
    have here : t.lookup (dotted outer) = .some parent := arrived.here.trans isParent
    have names := consistent.named.apart here isPackage same
    have nonempty : outer ≠ [] := by
      rintro rfl
      exact some (List.prefix_nil.mp isOuter)
    have whole := eq_of_dotted nonempty arrived.all some
      (fun segment member => arrived.all segment (isOuter.subset member)) names
    have length := isPrefix.length_le
    rw [whole] at length
    simp at length
  have owned : u.Owns package := by
    unfold Owns
    rw [attributes]
    exact consistent.sound.owned isPackage
  refine ⟨package, inner, arrived.stays isSegment makes registry isPackage,
    arrived.stays isSegment makes registry isInner, ?_⟩
  rw [get?_bindOnParent_of_apart apart, makes.kept package owned, Store.get?, Store.attributesOf,
    attributes]
  exact bound

theorem holds_next (some : outer ≠ []) (owned : ∀ {key other},
      (v.bindOnParent parent? (dotted (outer ++ [segment])) module).lookup key = .some other →
      (v.bindOnParent parent? (dotted (outer ++ [segment])) module).Owns other) :
    (v.bindOnParent parent? (dotted (outer ++ [segment])) module).HoldsSubmodule outer
      segment := by
  have registered := (arrived.registered (dotted outer)).mpr ⟨outer, some, List.prefix_refl _, rfl⟩
  obtain ⟨package, isPackage⟩ := Option.ne_none_iff_exists'.mp registered
  have isParent : parent? = .some package := arrived.here.symm.trans isPackage
  have found := arrived.stays isSegment makes registry isPackage
  have owner : v.Owns package := by
    have after := owned found
    unfold Owns at after
    rw [size_bindOnParent] at after
    exact after
  refine ⟨package, module, found, ?_, ?_⟩
  · exact (lookup_bindOnParent _ _ _ _ _).trans ((makes.lookup _).trans (if_pos rfl))
  · unfold bindOnParent
    rw [isParent, lastSegment?_dotted outer isSegment]
    exact (get?_assign_self owner segment segment _).trans (if_pos rfl)

end Next

theorem next (arrived : Arrived fs config outer parent? t) (isSegment : IsSegment segment)
    (makes : Makes u (dotted (outer ++ [segment])) resolution module v)
    (registry : u.registry = t.registry) (attributes : u.store.attributes = t.store.attributes)
    (imported : importModule fs (dotted (outer ++ [segment])) (new config) = some (.ok module,
      (v.bindOnParent parent? (dotted (outer ++ [segment])) module).record
        (.imported (dotted (outer ++ [segment])) module))) :
    Arrived fs config (outer ++ [segment]) (some module)
      ((v.bindOnParent parent? (dotted (outer ++ [segment])) module).record
        (.imported (dotted (outer ++ [segment])) module)) where
  all := List.forall_mem_append.mpr ⟨arrived.all, List.forall_mem_singleton.mpr isSegment⟩
  imported other isSegment' := by
    have all : ∀ part ∈ outer ++ [segment], IsSegment part :=
      List.forall_mem_append.mpr ⟨arrived.all, List.forall_mem_singleton.mpr isSegment⟩
    exact importParent_of_ok (parent?_dotted (by simp) all isSegment') imported
  here := (lookup_bindOnParent _ _ _ _ _).trans ((makes.lookup _).trans (if_pos rfl))
  registered key := by
    have looked := (lookup_bindOnParent v parent? (dotted (outer ++ [segment])) key module).trans
      (makes.lookup key)
    change Interpreter.lookup (v.bindOnParent parent? _ module) key ≠ none ↔ _
    rw [looked]
    by_cases own : key = dotted (outer ++ [segment])
    · rw [if_pos own]
      exact iff_of_true nofun ⟨_, by simp, List.prefix_refl _, own⟩
    · rw [if_neg own, lookup, registry]
      refine (arrived.registered key).trans ?_
      constructor
      · rintro ⟨part, some, isPrefix, isKey⟩
        exact ⟨part, some, isPrefix.trans (List.prefix_append _ _), isKey⟩
      · rintro ⟨part, some, isPrefix, isKey⟩
        rcases List.prefix_concat_iff.mp isPrefix with whole | inside
        · exact absurd (isKey.trans (congrArg dotted whole)) own
        · exact ⟨part, some, inside, isKey⟩
  holds part last some isPrefix := by
    rcases List.prefix_concat_iff.mp isPrefix with whole | inside
    · obtain ⟨rfl, same⟩ := List.append_inj' whole rfl
      obtain rfl := List.singleton_inj.mp same
      have start := Reached.consistent (.new config)
      exact arrived.holds_next isSegment makes registry some
        (importWithin_continues start imported).consistent.sound.owned
    · exact arrived.holds_later isSegment makes registry attributes some inside

end Arrived

theorem Unseen.importerFor (unseen : s.Unseen place.names.length) (fs : FileSystem) :
    (s.importerFor fs place).2.Unseen (place.names.length + 1) := by
  intro p longer
  rw [importers_importerFor, if_neg]
  · exact unseen p (Nat.le_of_succ_le longer)
  · -- a longer path has another key
    intro same
    have names := names_of_same (same_iff.mpr same)
    rw [names] at longer
    exact Nat.not_succ_le_self _ longer

/-- The directory that is searched leads on to the module of the next segment. The module is told where
it comes from and where its submodules are. -/
theorem Arrived.enters (arrived : Arrived fs config outer parent? t)
    (entryless : config.entryPoint = none) (isSegment : IsSegment segment)
    (directories : t.directories? parent? = some [place]) (unseen : t.Unseen place.names.length)
    (opened : openRoot fs place = .ok root)
    (resolved : resolve fs root (dotted (outer ++ [segment])) = .ok resolution)
    (stands : resolution ≠ .nothing)
    (empty : ∀ artifact ∈ resolution.artifact?, EmptyBody fs artifact) :
    ∃ module u, importModule fs (dotted (outer ++ [segment])) (new config) = some (.ok module, u) ∧
      Arrived fs config (outer ++ [segment]) (some module) u ∧
      u.Unseen (place.names.length + 1) ∧
      u.store.searchPath? module = (resolution.searchPath?.map fun directory => [directory]) ∧
      u.store.file? module = resolution.artifact? := by
  have start := Reached.consistent (.new config)
  have continues := arrived.continues
  have unmarked : t.entryPoint = none := continues.entryPoint.trans entryless
  have all : ∀ part ∈ outer ++ [segment], IsSegment part :=
    List.forall_mem_append.mpr ⟨arrived.all, List.forall_mem_singleton.mpr isSegment⟩
  have searching : Searching (importModule fs) (dotted (outer ++ [segment])) (new config) parent?
      [place] t := by
    refine ⟨isImportable_dotted (by simp) all, rfl, arrived.imported segment isSegment,
      directories, ?_⟩
    rw [loaded?_eq_lookup unmarked]
    exact arrived.absent isSegment
  obtain ⟨module, v, makes, imported⟩ := makes_of_searching start searching unmarked
    (unseen place (Nat.le_refl _)) opened resolved stands empty
  have registry := registry_importerFor t fs place
  have attributes := attributes_importerFor t fs place
  have apart : ∀ package ∈ parent?, package.id ≠ module.id := by
    intro package isParent same
    have older : t.Owns package := continues.consistent.sound.owned (arrived.here.trans isParent)
    have new := makes.new
    unfold Owns at older new
    rw [attributes, ← same] at new
    exact new older
  have own (attr : String) := get?_bindOnParent_of_apart (s := v) apart
    (dotted (outer ++ [segment])) attr module
  refine ⟨module, _, imported, arrived.next isSegment makes registry attributes imported, ?_, ?_, ?_⟩
  · intro p longer
    change (v.bindOnParent parent? _ module).importers.get? _ = none
    rw [importers_bindOnParent, makes.importers]
    exact unseen.importerFor fs p longer
  · exact (congrArg (Option.bind · Value.paths?) (own searchPathAttribute)).trans makes.searchPath
  · exact (congrArg (Option.bind · Value.path?) (own fileAttribute)).trans makes.file

/-- From wherever imports have come down to, they come down along a chain to its artifact. -/
theorem Arrived.descends {directory : Path} (chain : Chain fs directory segments artifact)
    (entryless : config.entryPoint = none) (isDirectory : fs.isDirectory directory = true)
    (shortens : Shortens place directory) (arrived : Arrived fs config outer parent? t)
    (directories : t.directories? parent? = some [place]) (unseen : t.Unseen place.names.length) :
    ∃ module u file, importModule fs (dotted (outer ++ segments)) (new config) =
        some (.ok module, u) ∧
      u.store.file? module = some file ∧ file.same artifact = true ∧
      Arrived fs config (outer ++ segments) (some module) u := by
  -- the module that was arrived at and the directory to search change with the segments done
  induction chain generalizing place outer parent? t with
  | @module directory segment isSegment empty =>
    have isName := isName_artifactFileName (isName_of_isSegment isSegment)
    obtain ⟨root, opened, shorter⟩ :=
      (Chain.module isSegment empty).openRoot isDirectory shortens
    obtain ⟨resolved, here⟩ := resolve_module shorter isSegment (segment?_dotted outer isSegment)
      empty
    obtain ⟨module, u, imported, arrived', -, -, file⟩ := arrived.enters entryless isSegment
      directories unseen opened resolved nofun
      (fun artifact isArtifact => Option.some.inj isArtifact ▸ here)
    exact ⟨module, u, _, imported, file, (shorter.join isName).toAliased.same, arrived'⟩
  | @package directory artifact segment rest isSegment missing isInner initializer inner ih =>
    have isName := isName_of_isSegment isSegment
    obtain ⟨root, opened, shorter⟩ :=
      (Chain.package isSegment missing isInner initializer inner).openRoot isDirectory shortens
    obtain ⟨resolution, resolved, searchPath, empty⟩ := resolve_package shorter isSegment
      (segment?_dotted outer isSegment) missing isInner initializer
    have stands : resolution ≠ .nothing := by
      rintro rfl
      cases searchPath
    obtain ⟨module, u, -, arrived', unseen', searches, -⟩ := arrived.enters entryless isSegment
      directories unseen opened resolved stands empty
    rw [searchPath] at searches
    have depth : place.names.length + 1 = (root.join segment).names.length := by
      rw [names_join shorter.absolute isName, shortens.names, shorter.names, List.length_append]
      rfl
    rw [depth] at unseen'
    have descended := ih isInner (shorter.join isName) arrived' searches unseen'
    rw [List.append_assoc] at descended
    exact descended

/-- A new interpreter that searches one absolute directory imports a nested name along any chain of
packages and portions. The module has the artifact at the end of the chain as its file, exactly the
packages on the way are registered with it, and each of them holds the next one. -/
theorem importModule_descends {root : Path} (absolute : root.isAbsolute = true)
    (isDirectory : fs.isDirectory root = true) (chain : Chain fs root segments artifact)
    (output : Output) :
    ∃ module t file,
      importModule fs (dotted segments) (new ⟨[root], none, output⟩) = some (.ok module, t) ∧
      t.store.file? module = some file ∧ file.same artifact = true ∧
      t.lookup (dotted segments) = some module ∧
      (∀ key, t.lookup key ≠ none ↔
        ∃ part, part ≠ [] ∧ part <+: segments ∧ key = dotted part) ∧
      ∀ part segment, part ≠ [] → part ++ [segment] <+: segments →
        t.HoldsSubmodule part segment := by
  have start := arrived_new fs ⟨[root], none, output⟩
  obtain ⟨module, t, file, imported, isFile, same, arrived⟩ :=
    start.descends chain rfl isDirectory (.refl absolute) rfl fun _ _ => rfl
  exact ⟨module, t, file, imported, isFile, same, arrived.here, arrived.registered, arrived.holds⟩

/-- A package with a portion below it that bears the name of the attribute for search paths. -/
def nestedFiles : FileSystem where
  entries := [("r", .directory [
    ("a", .directory [
      ("__init__.pyf", .file (Artifact.frame (Artifact.body.write ⟨"a", "a.py", []⟩))),
      ("__path__", .directory [
        ("c.pyf", .file (Artifact.frame (Artifact.body.write ⟨"c", "c.py", []⟩)))])])])]
  workingDirectory := .top

theorem importModule_descends_nestedFiles :
    ∃ module t file,
      importModule nestedFiles "a.__path__.c" (new ⟨[⟨"/./r"⟩], none, .silent⟩) =
        some (.ok module, t) ∧
      t.store.file? module = some file ∧ file.same ⟨"/./r/a/__path__/c.pyf"⟩ = true ∧
      t.lookup "a.__path__.c" = some module ∧ t.lookup "a.__path__" ≠ none ∧
      t.HoldsSubmodule ["a"] "__path__" ∧ t.HoldsSubmodule ["a", "__path__"] "c" := by
  have chain : Chain nestedFiles ⟨"/./r"⟩ ["a", "__path__", "c"] ⟨"/./r/a/__path__/c.pyf"⟩ := by
    refine .package ⟨by decide, by decide, by decide⟩ rfl (by decide +kernel) (.inl ?_) ?_
    · exact ⟨_, ⟨"a", "a.py", []⟩, rfl, eq_ok_of_toOption (by decide +kernel), rfl⟩
    refine .package ⟨by decide, by decide, by decide⟩ rfl (by decide +kernel) (.inr rfl) ?_
    refine .module ⟨by decide, by decide, by decide⟩ ?_
    exact ⟨_, ⟨"c", "c.py", []⟩, rfl, eq_ok_of_toOption (by decide +kernel), rfl⟩
  obtain ⟨module, t, file, imported, isFile, same, found, registered, holds⟩ :=
    importModule_descends (by decide) (by decide +kernel) chain .silent
  exact ⟨module, t, file, imported, isFile, same, found,
    (registered _).mpr ⟨["a", "__path__"], by decide, by decide, rfl⟩,
    holds ["a"] "__path__" (by decide) (by decide), holds ["a", "__path__"] "c" (by decide)
      (by decide)⟩

end Descent

end Interpreter

end ModuleImport
