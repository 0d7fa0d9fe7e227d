import ModuleImport.Proofs.Interpreter.Nested
import ModuleImport.Proofs.Interpreter.Order
import ModuleImport.Proofs.Interpreter.Sightings

namespace ModuleImport

open Run Repository Sighting

/-- Portions that stand before what was found. -/
def Found.behind (directories : List Path) : Found → Found
  | .loader importer => .loader importer
  | .portions more => .portions (directories ++ more)

theorem map_behind_nil (found : Except ProbeError Found) : found.map (Found.behind []) = found := by
  rcases found with e | found
  · rfl
  · cases found <;> rfl

theorem map_behind_behind (first second : List Path) (found : Except ProbeError Found) :
    (found.map (Found.behind second)).map (Found.behind first) =
      found.map (Found.behind (first ++ second)) := by
  rcases found with e | found
  · rfl
  · cases found with
    | loader importer => rfl
    | portions more => simp [Except.map, Found.behind]

namespace Interpreter

variable {fs : FileSystem} {name : String} {entry root : Path} {seen : List Sighting}
  {before directories portions : List Path} {s t u : Interpreter}

/-- An entry that was no repository, or has nothing to load, decides nothing. -/
def Skipped (fs : FileSystem) (name : String) (root? : Option Path) : Prop :=
  ∀ root ∈ root?, Passed fs name root

section Search

/-- Where the first entry decides nothing it adds its portion to what the others come to. -/
theorem search_cons_of_skipped (rest : List Path)
    (skipped : Skipped fs name ((s.importerFor fs entry).1.map Importer.root)) :
    s.search fs name (entry :: rest) =
      let after := (s.importerFor fs entry).2.search fs name rest
      (after.1.map (Found.behind (((s.importerFor fs entry).1.map Importer.root).bind
        (portion? fs name)).toList), after.2) := by
  rw [search]
  cases looked : s.importerFor fs entry with
  | mk importer? u =>
    rw [looked] at skipped
    cases importer? with
    | none =>
      exact Prod.ext (map_behind_nil _).symm rfl
    | some importer =>
      obtain ⟨resolution, resolved, unloadable⟩ := skipped importer.root rfl
      dsimp only [Option.map_some, Option.bind_some]
      rw [Importer.offer, Importer.resolve, portion?, resolved]
      cases resolution with
      | nothing => exact Prod.ext (map_behind_nil _).symm rfl
      | portion directory => rfl
      | module artifact => cases unloadable
      | package artifact searchPath => cases unloadable

/-- Entries that decide nothing add their portions, in order, to what the others come to. -/
theorem search_append_of_skipped (remembers : s.Remembers seen) (rest : List Path)
    (skipped : ∀ entry ∈ before,
      Skipped fs name (firstSeen (along seen fs (before ++ rest)) entry)) :
    s.search fs name (before ++ rest) =
      let after := (s.visited fs before).search fs name rest
      (after.1.map (Found.behind ((before.filterMap
        (firstSeen (along seen fs (before ++ rest)))).filterMap (portion? fs name))), after.2) := by
  induction before generalizing s seen with
  | nil => exact Prod.ext (map_behind_nil _).symm rfl
  | cons entry before ih =>
    have root := remembers.root fs entry (before ++ rest)
    have first := skipped entry List.mem_cons_self
    rw [List.cons_append, ← root] at first
    have onwards := ih (remembers.importerFor fs entry) fun other member => by
      have later := skipped other (List.mem_cons_of_mem _ member)
      rwa [List.cons_append, along_cons] at later
    rw [List.cons_append, search_cons_of_skipped _ first, onwards, ← along_cons]
    refine Prod.ext ?_ rfl
    dsimp only
    rw [map_behind_behind, List.filterMap_cons, ← root]
    cases (s.importerFor fs entry).1.map Importer.root with
    | none => rfl
    | some root =>
      rw [Option.bind_some, List.filterMap_cons]
      cases portion? fs name root <;> rfl

theorem search_append_of_decided {rest : List Path} {result : Except ProbeError Found}
    (remembers : s.Remembers seen)
    (skipped : ∀ entry ∈ before,
      Skipped fs name (firstSeen (along seen fs (before ++ rest)) entry))
    (decided : (s.visited fs before).search fs name rest = (result, u))
    (fixed : ∀ portions, result.map (Found.behind portions) = result) :
    s.search fs name (before ++ rest) = (result, u) := by
  rw [search_append_of_skipped remembers rest skipped, decided]
  exact Prod.ext (fixed _) rfl

theorem search_of_skipped (remembers : s.Remembers seen)
    (skipped : ∀ entry ∈ directories,
      Skipped fs name (firstSeen (along seen fs directories) entry)) :
    s.search fs name directories = (.ok (.portions ((directories.filterMap
      (firstSeen (along seen fs directories))).filterMap (portion? fs name))),
      s.visited fs directories) := by
  have whole := search_append_of_skipped remembers []
    (show ∀ entry ∈ directories, Skipped fs name (firstSeen (along seen fs (directories ++ [])) entry)
      from by rwa [List.append_nil])
  rw [List.append_nil] at whole
  rw [whole, search]
  simp [Except.map, Found.behind]

section Deciding

variable {after : List Path} (remembers : s.Remembers seen)
  (skipped : ∀ other ∈ before,
    Skipped fs name (firstSeen (along seen fs (before ++ entry :: after)) other))
  (found : firstSeen (along seen fs (before ++ entry :: after)) entry = some root)

include remembers found in
theorem importerFor_of_firstSeen : ∃ importer, importer.root = root ∧
    ((s.visited fs before).importerFor fs entry).1 = some importer := by
  have there := remembers.looks (looks_visited fs before s)
  have here := there.root fs entry after
  rw [← along_append, found] at here
  obtain ⟨importer, isImporter, isRoot⟩ := Option.map_eq_some_iff.mp here
  exact ⟨importer, isRoot, isImporter⟩

include remembers skipped found

theorem search_of_loadable {resolution : Resolution} (resolved : resolve fs root name = .ok resolution)
    (loadable : resolution.isLoadable = true) : ∃ importer, importer.root = root ∧
      (s.visited fs (before ++ [entry])).importers.get? entry.canonicalText =
        some (some importer) ∧
      s.search fs name (before ++ entry :: after) =
        (.ok (.loader importer), s.visited fs (before ++ [entry])) := by
  obtain ⟨importer, rfl, isImporter⟩ := importerFor_of_firstSeen remembers found
  have offered : importer.offer fs name = .ok .loader := by
    rw [Importer.offer, Importer.resolve, resolved]
    exact congrArg Except.ok (resolution.offer_eq_loader_iff.mpr loadable)
  refine ⟨importer, rfl, ?_, search_append_of_decided remembers skipped ?_ fun _ => rfl⟩
  · rw [visited_concat, importerFor_cached, isImporter]
  · rw [visited_concat, search]
    cases looked : (s.visited fs before).importerFor fs entry with
    | mk importer? u =>
      rw [looked] at isImporter
      obtain rfl : importer? = some importer := isImporter
      dsimp only
      rw [offered]

theorem search_of_failure {cause : ProbeError} (failed : resolve fs root name = .error cause) :
    s.search fs name (before ++ entry :: after) =
      (.error cause, s.visited fs (before ++ [entry])) := by
  obtain ⟨importer, rfl, isImporter⟩ := importerFor_of_firstSeen remembers found
  have refused : importer.offer fs name = .error cause := by
    rw [Importer.offer, Importer.resolve, failed]
    rfl
  refine search_append_of_decided remembers skipped ?_ fun _ => rfl
  rw [visited_concat, search]
  cases looked : (s.visited fs before).importerFor fs entry with
  | mk importer? u =>
    rw [looked] at isImporter
    obtain rfl : importer? = some importer := isImporter
    dsimp only
    rw [refused]

end Deciding

end Search

section Walks

variable {parent? : Option Module}

/-- The import of a name comes to what a load through the importer kept for `entry`, the last of the
entries that are looked at, comes to. A module that it gives is bound on its parent. -/
def LoadsFrom (fs : FileSystem) (name : String) (s : Interpreter) (parent? : Option Module)
    (t : Interpreter) (before : List Path) (entry root : Path) : Prop :=
  ∃ importer x u, importer.root = root ∧
    (t.visited fs (before ++ [entry])).importers.get? entry.canonicalText = some (some importer) ∧
    loadModule fs importer name (t.visited fs (before ++ [entry])) = some (x, u) ∧
    importModule fs name s = some (x, (u.bindImported parent? name x).noteImported name x)

/-- The import of a name fails after some looks, and what is registered is what was in `t`. -/
def FailsWith (fs : FileSystem) (name : String) (s t : Interpreter) (looked : List Path)
    (e : RunError) : Prop :=
  importModule fs name s = some (.error e, t.visited fs looked) ∧
    (t.visited fs looked).registry = t.registry

/-- After some looks the import of a name registers a new module for it, and nothing else. The module
is told where its portions are, but it has neither a loader nor a file. -/
def Assembles (fs : FileSystem) (name : String) (s t : Interpreter) (looked portions : List Path) :
    Prop :=
  ∃ module u, importModule fs name s = some (.ok module, u) ∧ Looks fs t looked u ∧
    ¬t.Owns module ∧
    (∀ key, u.lookup key = if key = t.registeredName name then some module else t.lookup key) ∧
    u.store.searchPath? module = some portions ∧
    u.store.get? module loaderAttribute = none ∧ u.store.get? module fileAttribute = none

/-- What the import of a name comes to whose search begins in `t` and takes `rootOf entry` for the
repository of an entry. -/
structure Walks (fs : FileSystem) (name : String) (s : Interpreter) (parent? : Option Module)
    (directories : List Path) (t : Interpreter) (rootOf : Path → Option Path) : Prop where
  loads {before after : List Path} {entry root : Path} {resolution : Resolution} :
    directories = before ++ entry :: after →
    (∀ other ∈ before, Skipped fs name (rootOf other)) → rootOf entry = some root →
    resolve fs root name = .ok resolution → resolution.isLoadable = true →
    LoadsFrom fs name s parent? t before entry root
  fails {before after : List Path} {entry root : Path} {cause : ProbeError} :
    directories = before ++ entry :: after →
    (∀ other ∈ before, Skipped fs name (rootOf other)) → rootOf entry = some root →
    resolve fs root name = .error cause →
    FailsWith fs name s t (before ++ [entry]) (.failedLoad (.probe cause))
  notFound : (∀ entry ∈ directories, Skipped fs name (rootOf entry)) →
    (directories.filterMap rootOf).filterMap (portion? fs name) = [] →
    FailsWith fs name s t directories (.moduleNotFound name)
  assembles {portions : List Path} : (∀ entry ∈ directories, Skipped fs name (rootOf entry)) →
    (directories.filterMap rootOf).filterMap (portion? fs name) = portions → portions ≠ [] →
    Assembles fs name s t directories portions

theorem owns_of_importParent (consistent : s.Consistent)
    (parent : importParent (importModule fs) name s = some (.ok parent?, t)) :
    s.Continues t ∧ ∀ package ∈ parent?, t.Owns package := by
  obtain ⟨_, same, rfl⟩ | ⟨outer, x, _, imported, same⟩ := importParent_inv parent
  · cases same
    exact ⟨.refl consistent, nofun⟩
  · have continues := importWithin_continues consistent imported
    cases x with
    | error e => cases same
    | ok package =>
      cases same
      refine ⟨continues, fun other isPackage => ?_⟩
      cases isPackage
      exact continues.consistent.sound.owned (loaded?_of_importWithin consistent imported rfl)

theorem edits_importModule : Editing fs (importModule fs) :=
  fun _ _ _ _ ended => editing_importWithin fs _ ended

theorem visited_frame (fs : FileSystem) (entries : List Path) (s : Interpreter) :
    (s.visited fs entries).registry = s.registry ∧
      (s.visited fs entries).entryPoint = s.entryPoint ∧
      (s.visited fs entries).store.attributes = s.store.attributes := by
  refine visited_induct (P := fun t => t.registry = s.registry ∧ t.entryPoint = s.entryPoint ∧
    t.store.attributes = s.store.attributes) (fun t entry same => ?_) entries ⟨rfl, rfl, rfl⟩
  simpa using same

theorem Looks.assemble (looks : Looks fs s directories t) (name : String) (portions : List Path) :
    Looks fs s directories (t.assemble name portions).2 := by
  have registered : Looks fs s directories (t.register (t.registeredName name)).2 :=
    .edited looks (.register _ _) rfl
  have told := Looks.edited registered (.assign _ (t.register (t.registeredName name)).1
    searchPathAttribute (.ofPaths portions)) rfl
  exact .edited told (.record _ _) rfl

theorem Looks.bindOnParent (looks : Looks fs s directories t) (parent? : Option Module)
    (name : String) (module : Module) :
    Looks fs s directories (t.bindOnParent parent? name module) := by
  unfold Interpreter.bindOnParent
  split
  · exact .edited looks (.assign _ _ _ _) rfl
  · exact looks

theorem get?_assembled (s : Interpreter) (name : String) (portions : List Path) (attr : String) :
    (s.assemble name portions).2.store.get? (s.assemble name portions).1 attr =
      if attr = searchPathAttribute then some (.ofPaths portions)
      else if attr = nameAttribute then some (.str (s.registeredName name)) else none := by
  have owned := owns_register s (s.registeredName name)
  have written := Store.get?_set_self _ owned searchPathAttribute attr (.ofPaths portions)
  exact written.trans (congrArg (ite _ _)
    (Store.get?_newModule_self s.store (s.registeredName name) attr))

theorem get?_bindOnParent_of_apart {other : Module}
    (apart : ∀ package ∈ parent?, package.id ≠ other.id) (name attr : String) (module : Module) :
    (s.bindOnParent parent? name module).store.get? other attr = s.store.get? other attr := by
  unfold bindOnParent
  split
  · rename_i package segment _
    exact Store.get?_set_other _ (Ne.symm (apart package rfl)) _ _ _
  · rfl

section Searched

variable (consistent : s.Consistent)
  (searching : Searching (importModule fs) name s parent? directories t)

include consistent searching

theorem fails_of_search {cause : ProbeError} {looked : List Path}
    (search : t.search fs name directories = (.error cause, t.visited fs looked)) :
    FailsWith fs name s t looked (.failedLoad (.probe cause)) :=
  ⟨importModule_of_level consistent (.probeFailed searching search),
    (visited_frame fs looked t).1⟩

theorem notFound_of_search
    (search : t.search fs name directories = (.ok (.portions []), t.visited fs directories)) :
    FailsWith fs name s t directories (.moduleNotFound name) :=
  ⟨importModule_of_level consistent (.notFound searching search),
    (visited_frame fs directories t).1⟩

theorem assembles_of_search {portions : List Path} (some : portions ≠ [])
    (search : t.search fs name directories = (.ok (.portions portions), t.visited fs directories)) :
    Assembles fs name s t directories portions := by
  obtain ⟨continues, owned⟩ := owns_of_importParent consistent searching.parent
  obtain ⟨registry, entryPoint, attributes⟩ := visited_frame fs directories t
  have looks := looks_visited fs directories t
  have ended := importModule_of_level consistent (.assembled searching search some)
  -- the package is assembled in the state that the looks leave
  generalize t.visited fs directories = u at *
  have target : u.registeredName name = t.registeredName name := by
    unfold registeredName
    rw [entryPoint]
  have new : (u.assemble name portions).1.id = t.store.attributes.size :=
    congrArg Array.size attributes
  have apart : ∀ package ∈ parent?, package.id ≠ (u.assemble name portions).1.id := by
    intro package isPackage
    have older : package.id < t.store.attributes.size := owned package isPackage
    omega
  have value (attr : String) :=
    (get?_bindOnParent_of_apart apart name attr (u.assemble name portions).1).trans
      (get?_assembled u name portions attr)
  refine ⟨_, _, ended, ?_, ?_, fun key => ?_, ?_, value loaderAttribute, value fileAttribute⟩
  · exact .edited ((looks.assemble name portions).bindOnParent parent? name _) (.record _ _) rfl
  · unfold Owns
    omega
  · have looked : u.lookup key = t.lookup key := congrArg (Table.get? · key) registry
    rw [← target, ← looked]
    exact (lookup_bindOnParent _ _ _ key _).trans (lookup_register u (u.registeredName name) key)
  · have path := value searchPathAttribute
    rw [if_pos rfl] at path
    exact (congrArg (Option.bind · Value.paths?) path).trans (Value.paths?_ofPaths portions)

theorem loads_of_search {importer : Importer} (isRoot : importer.root = root)
    (kept : (t.visited fs (before ++ [entry])).importers.get? entry.canonicalText =
      some (some importer))
    (search : t.search fs name directories =
      (.ok (.loader importer), t.visited fs (before ++ [entry]))) :
    LoadsFrom fs name s parent? t before entry root := by
  obtain ⟨continues, -⟩ := owns_of_importParent consistent searching.parent
  have searched := (search_continues continues.consistent search).consistent
  obtain ⟨⟨x, v⟩, loaded⟩ := loadModule_ends searched fs importer name
  have came : importFrom fs (importModule fs) name directories t = some (x, v) := by
    rw [importFrom_of_loader search, ← loadModule_eq searched]
    exact loaded
  refine ⟨importer, x, v, isRoot, kept, loaded, ?_⟩
  have step : importStep fs (importModule fs) name s = _ := importStep_of_searching searching
  rw [importModule_eq consistent]
  cases x with
  | ok module => exact bind_of_ok (step.trans (bind_of_ok came))
  | error e => exact bind_of_error (step.trans (bind_of_error came))

theorem walks_of_remembers (remembers : t.Remembers seen) :
    Walks fs name s parent? directories t (firstSeen (along seen fs directories)) where
  loads := by
    rintro before entry after root resolution rfl skipped found resolved loadable
    obtain ⟨importer, isRoot, kept, search⟩ :=
      search_of_loadable remembers skipped found resolved loadable
    exact loads_of_search consistent searching isRoot kept search
  fails := by
    rintro before entry after root cause rfl skipped found failed
    exact fails_of_search consistent searching (search_of_failure remembers skipped found failed)
  notFound skipped empty := by
    have search := search_of_skipped remembers skipped
    rw [empty] at search
    exact notFound_of_search consistent searching search
  assembles := by
    rintro portions skipped rfl some
    exact assembles_of_search consistent searching some (search_of_skipped remembers skipped)

end Searched

/-- If a name is registered neither when its import begins nor when its parent has been imported, then
the import walks along the configured search path or that of the parent. Whatever was done before, it
takes the entries for the repositories that they were in the first sighting of each, among those of the
past, those during the import of the parent, and those of the walk. If there is something to load, it is
loaded from the first repository that has it, whatever portions stand before. If one cannot be looked
into before that, this is what the import fails with. And if there is neither, all portions in their
order are made into a namespace package, or the import fails because there are none. -/
theorem importModule_walks {config : Config}
    (acted : Relation.ReflTransGen LawfullyActed (new config) s)
    (searching : Searching (importModule fs) name s parent? directories t) :
    (Name.parent? name = none → directories = config.searchPath) ∧
    (∃ seen entries, Lived config seen s ∧ Looks fs s entries t) ∧
    ∀ seen entries, Lived config seen s → Looks fs s entries t →
      Walks fs name s parent? directories t
        (firstSeen (along seen fs (entries ++ directories))) := by
  obtain ⟨consistent, searchPath⟩ := consistent_of_acted acted
  refine ⟨fun outermost => ?_, ?_, fun seen entries lived looks => ?_⟩
  · obtain ⟨-, same, rfl⟩ | ⟨_, _, isParent, -, -⟩ := importParent_inv searching.parent
    · cases same
      exact (Option.some.inj searching.directories).symm.trans searchPath
    · rw [outermost] at isParent
      cases isParent
  · obtain ⟨seen, lived⟩ := exists_lived acted
    obtain ⟨entries, looks⟩ :=
      exists_looks (edits_importParent edits_importModule searching.parent)
    exact ⟨seen, entries, lived, looks⟩
  · rw [along_append]
    exact walks_of_remembers consistent searching (lived.remembers.looks looks)

/-- A new interpreter that searches three directories, the first of which does not exist. -/
def spread : Interpreter :=
  new ⟨[⟨"/none"⟩, ⟨"/r"⟩, ⟨"//r/p"⟩], none, .silent⟩

/-- The first directory has been made, with a module `c` in it. -/
def createdFiles : FileSystem :=
  { orderFiles with
    entries := ("none", .directory [("c.pyf", .file (Artifact.frame (Artifact.body.write
      ⟨"c", "other.py", []⟩)))]) :: orderFiles.entries }

/-- While the first directory is missing, `n` has a portion in either of the others. When it has been
made it is still left out, so that `c` comes from the third one. -/
theorem importModule_walks_createdFiles :
    resolve createdFiles ⟨"/none"⟩ "c" = .ok (.module ⟨"/none/c.pyf"⟩) ∧
    ∃ module u, importModule orderFiles "n" spread = some (.ok module, u) ∧
      u.store.searchPath? module = some [⟨"/r/n"⟩, ⟨"//r/p/n"⟩] ∧
      LoadsFrom createdFiles "c" u none u [⟨"/none"⟩, ⟨"/r"⟩] ⟨"//r/p"⟩ ⟨"//r/p"⟩ := by
  let entries : List Path := [⟨"/none"⟩, ⟨"/r"⟩, ⟨"//r/p"⟩]
  let config : Config := ⟨entries, none, .silent⟩
  have outermost {name : String} (top : Name.parent? name = none) (files : FileSystem)
      (s : Interpreter) : importParent (importModule files) name s = some (.ok none, s) :=
    importParent_of_none top
  have searching : Searching (importModule orderFiles) "n" spread none entries spread :=
    ⟨by decide +kernel, by decide +kernel, outermost (by decide +kernel) _ _, rfl,
      by decide +kernel⟩
  have portion {root : Path} (directory : Path)
      (resolved : (resolve orderFiles root "n").toOption = some (.portion directory)) :
      Skipped orderFiles "n" (some root) := by
    rintro _ ⟨⟩
    exact ⟨.portion directory, eq_ok_of_toOption resolved, rfl⟩
  have untouched : Relation.ReflTransGen LawfullyActed (new config) spread := .refl
  obtain ⟨-, -, walks⟩ := importModule_walks untouched searching
  have skipped : ∀ entry ∈ entries,
      Skipped orderFiles "n" (firstSeen (along [] orderFiles ([] ++ entries)) entry) := by
    have first : firstSeen (along [] orderFiles ([] ++ entries)) ⟨"/none"⟩ = none := by
      decide +kernel
    have second : firstSeen (along [] orderFiles ([] ++ entries)) ⟨"/r"⟩ = some ⟨"/r"⟩ := by
      decide +kernel
    have third : firstSeen (along [] orderFiles ([] ++ entries)) ⟨"//r/p"⟩ = some ⟨"//r/p"⟩ := by
      decide +kernel
    simp only [entries, List.forall_mem_cons] at first second third ⊢
    rw [first, second, third]
    exact ⟨nofun, portion ⟨"/r/n"⟩ (by decide +kernel), portion ⟨"//r/p/n"⟩ (by decide +kernel),
      nofun⟩
  have assembled : Assembles orderFiles "n" spread spread entries [⟨"/r/n"⟩, ⟨"//r/p/n"⟩] :=
    (walks [] [] .new .refl).assembles skipped (by decide +kernel) (by decide)
  obtain ⟨module, u, ran, looks, -, registered, portions, -, -⟩ := assembled
  refine ⟨eq_ok_of_toOption (by decide +kernel), module, u, ran, portions, ?_⟩
  -- the second import goes on from the sightings of the first
  have ends : Act.Ends orderFiles spread (.request (.toImport "n")) u := .request ran
  have lawful : (Act.request (.toImport "n")).Lawful spread := trivial
  have lived : Lived config (along [] orderFiles entries) u := .acted .new lawful ends looks
  have acted : Relation.ReflTransGen LawfullyActed (new config) u :=
    .single ⟨orderFiles, _, lawful, ends⟩
  have continues : spread.Continues u :=
    importWithin_continues (Reached.consistent (.new config)) ran
  have absent : u.loaded? "c" = none := by
    rw [loaded?, continues.registeredName]
    exact registered _
  have searching : Searching (importModule createdFiles) "c" u none entries u :=
    ⟨by decide +kernel, absent, outermost (by decide +kernel) _ _,
      congrArg some (searchPath_of_edits ends.edits), absent⟩
  obtain ⟨-, -, walks⟩ := importModule_walks acted searching
  have left : ∀ entry ∈ [⟨"/none"⟩, ⟨"/r"⟩], Skipped createdFiles "c"
      (firstSeen (along (along [] orderFiles entries) createdFiles ([] ++ entries)) entry) := by
    have first : firstSeen (along (along [] orderFiles entries) createdFiles ([] ++ entries))
        ⟨"/none"⟩ = none := by decide +kernel
    have second : firstSeen (along (along [] orderFiles entries) createdFiles ([] ++ entries))
        ⟨"/r"⟩ = some ⟨"/r"⟩ := by decide +kernel
    simp only [List.forall_mem_cons]
    rw [first, second]
    refine ⟨nofun, ?_, nofun⟩
    rintro _ ⟨⟩
    exact ⟨.nothing, eq_ok_of_toOption (by decide +kernel), rfl⟩
  have resolved : resolve createdFiles ⟨"//r/p"⟩ "c" = .ok (.module ⟨"//r/p/c.pyf"⟩) :=
    eq_ok_of_toOption (by decide +kernel)
  exact (walks _ [] lived .refl).loads rfl left (by decide +kernel) resolved rfl

end Walks

end Interpreter

end ModuleImport
