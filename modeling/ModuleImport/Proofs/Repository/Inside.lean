import ModuleImport.Proofs.Name.Prefixes
import ModuleImport.Proofs.Repository.Spelling

namespace ModuleImport

/-- A single step down: text without a slash that is no dot, one or two. -/
structure IsStep (step : String) : Prop where
  some : step ≠ ""
  notHere : step ≠ "."
  notUp : step ≠ ".."
  single : '/' ∉ step.toList

/-- From the absolute form of an entry, seen from the working directory `base?`, lead one or more
steps. -/
structure IsPlace (base? : Option Path) (entries : List Path) (root : Path) (steps : List String) :
    Prop where
  configured : ∃ entry ∈ entries, entry.absolute? base? = some root
  below : steps ≠ []
  down : ∀ step ∈ steps, IsStep step

/-- The steps end with the last segment of a name, and as long as it is `strict` they are all of its
segments. -/
structure Mirrors (strict : Prop) (name : String) (steps : List String) : Prop where
  last : steps.getLast? = Name.lastSegment? name
  segments : strict → steps = Name.segments name

/-- The artifact of a module or of a package that some steps lead to. -/
inductive IsArtifactOf (root : Path) : List String → Path → Prop
  | module {outer last artifact} :
      artifact.same (root.joinNames (outer ++ [Name.artifactFileName last])) = true →
      IsArtifactOf root (outer ++ [last]) artifact
  | package {steps artifact} :
      artifact.same (root.joinNames (steps ++ [Name.packageInitializer])) = true →
      IsArtifactOf root steps artifact

/-- An artifact stands where its module's name says, below an entry. -/
def ArtifactInside (base? : Option Path) (entries : List Path) (strict : Prop) (name : String)
    (artifact : Path) : Prop :=
  ∃ root steps, IsPlace base? entries root steps ∧ Mirrors strict name steps ∧
    IsArtifactOf root steps artifact

/-- A directory stands where its package's name says, below an entry. -/
def DirectoryInside (base? : Option Path) (entries : List Path) (strict : Prop) (name : String)
    (directory : Path) : Prop :=
  ∃ root steps, IsPlace base? entries root steps ∧ Mirrors strict name steps ∧
    directory.same (root.joinNames steps) = true

/-- A place to look a name up: an entry itself, or where its parent stands. -/
structure IsRootFor (base? : Option Path) (entries : List Path) (strict : Prop) (name : String)
    (root : Path) (outer : List String) (place : Path) : Prop where
  configured : ∃ entry ∈ entries, entry.absolute? base? = some root
  down : ∀ step ∈ outer, IsStep step
  absolute : place.isAbsolute = true
  names : place.names = root.names ++ outer
  strictly : strict → ∀ last, Name.lastSegment? name = some last →
    Name.segments name = outer ++ [last]

open ModuleImport.Path Repository

variable {base? : Option Path} {entries : List Path} {strict : Prop} {name : String}
  {root place p q : Path} {steps outer : List String} {fs : FileSystem}

theorem IsStep.isName {step : String} (isStep : IsStep step) : IsName step :=
  ⟨isStep.single, isStep.some, isStep.notHere⟩

theorem absolute?_alike (isBase : ∀ base ∈ base?, base.isAbsolute = true) (same : p.same q = true)
    (formed : p.absolute? base? = some root) :
    root.isAbsolute = true ∧
      ∃ root', q.absolute? base? = some root' ∧ root'.names = root.names := by
  obtain ⟨root', text, formed', absolute, around, around'⟩ := absolute?_of_same isBase same formed
  exact ⟨around.isAbsolute absolute, root', formed', around'.names.trans around.names.symm⟩

theorem IsPlace.isAbsolute (isBase : ∀ base ∈ base?, base.isAbsolute = true)
    (isPlace : IsPlace base? entries root steps) : root.isAbsolute = true := by
  obtain ⟨entry, -, formed⟩ := isPlace.configured
  exact (absolute?_alike isBase (same_refl entry) formed).1

theorem isRootFor_entry (isBase : ∀ base ∈ base?, base.isAbsolute = true)
    (isEntry : q ∈ entries) (same : p.same q = true) (formed : p.absolute? base? = some place)
    (outermost : Name.parent? name = none) (importable : Name.isImportable name = true) :
    ∃ root, IsRootFor base? entries strict name root [] place := by
  obtain ⟨absolute, root, formed', names⟩ := absolute?_alike isBase same formed
  refine ⟨root, ⟨q, isEntry, formed'⟩, List.forall_mem_nil _, absolute, ?_, fun _ last isLast => ?_⟩
  · rw [List.append_nil, names]
  · exact Name.segments_of_parent_eq_none outermost importable isLast

/-- The repository that stands where the parent of a name stands is a place to look for the name. -/
theorem isRootFor_parent {parent : String} (isBase : ∀ base ∈ base?, base.isAbsolute = true)
    (isPlace : IsPlace base? entries root steps) (there : q.same (root.joinNames steps) = true)
    (mirrors : strict → steps = Name.segments parent) (isParent : Name.parent? name = some parent)
    (same : p.same q = true) (formed : p.absolute? base? = some place) :
    IsRootFor base? entries strict name root steps place := by
  have absolute := isAbsolute_joinNames (isPlace.isAbsolute isBase) steps
  have absolute' : p.isAbsolute = true := by
    rw [isAbsolute_of_same same, isAbsolute_of_same there, absolute]
  have all : ∀ step ∈ steps, IsName step := fun step member => (isPlace.down step member).isName
  refine ⟨isPlace.configured, isPlace.down, (absolute?_alike isBase (same_refl p) formed).1, ?_, ?_⟩
  · rw [names_of_absolute? absolute' formed, names_of_same same, names_of_same there,
      names_joinNames (isPlace.isAbsolute isBase) all]
  · intro strictly last isLast
    rw [mirrors strictly]
    exact Name.segments_of_lastSegment isParent isLast

section Found

variable {segment : String}

theorem isStep_of_segment? (isLast : segment? name = some segment) : IsStep segment := by
  have isName := isName_of_segment? isLast
  have noDot := (some_of_lastSegment? (Option.filter_eq_some_iff.mp isLast).1).2
  refine ⟨isName.some, isName.noDot, ?_, isName.noSlash⟩
  rintro rfl
  exact noDot List.mem_cons_self

theorem IsRootFor.isPlace (isRoot : IsRootFor base? entries strict name root outer place)
    (isLast : segment? name = some segment) :
    IsPlace base? entries root (outer ++ [segment]) ∧ Mirrors strict name (outer ++ [segment]) := by
  have last := (Option.filter_eq_some_iff.mp isLast).1
  refine ⟨⟨isRoot.configured, by simp, ?_⟩, ?_, fun strictly => ?_⟩
  · exact List.forall_mem_append.mpr
      ⟨isRoot.down, List.forall_mem_singleton.mpr (isStep_of_segment? isLast)⟩
  · rw [List.getLast?_concat, last]
  · exact (isRoot.strictly strictly segment last).symm

theorem IsRootFor.same (isBase : ∀ base ∈ base?, base.isAbsolute = true)
    (isRoot : IsRootFor base? entries strict name root outer place) {inner : List String}
    (all : ∀ step ∈ inner, IsName step) (absolute : p.isAbsolute = true)
    (names : p.names = place.names ++ inner) : p.same (root.joinNames (outer ++ inner)) = true := by
  obtain ⟨entry, -, formed⟩ := isRoot.configured
  have isAbsolute := (absolute?_alike isBase (same_refl entry) formed).1
  have both : ∀ step ∈ outer ++ inner, IsName step :=
    List.forall_mem_append.mpr ⟨fun step member => (isRoot.down step member).isName, all⟩
  apply same_of_names absolute (isAbsolute_joinNames isAbsolute _)
  rw [names, isRoot.names, names_joinNames isAbsolute both, List.append_assoc]

theorem IsRootFor.resolved {resolution : Resolution}
    (isBase : ∀ base ∈ base?, base.isAbsolute = true)
    (isRoot : IsRootFor base? entries strict name root outer place)
    (resolved : resolve fs place name = .ok resolution) :
    (∀ artifact ∈ resolution.artifact?, ArtifactInside base? entries strict name artifact) ∧
      ∀ directory ∈ resolution.searchPath?,
        DirectoryInside base? entries strict name directory := by
  cases isLast : segment? name with
  | none =>
    rw [resolve_of_none isLast resolved]
    exact ⟨nofun, nofun⟩
  | some segment =>
    obtain ⟨isPlace, mirrors⟩ := isRoot.isPlace isLast
    have isName := isName_of_segment? isLast
    have file := isName_artifactFileName isName
    have base := isAbsolute_join isRoot.absolute segment
    have directory : DirectoryInside base? entries strict name (place.join segment) := by
      refine ⟨root, _, isPlace, mirrors, ?_⟩
      exact isRoot.same isBase (List.forall_mem_singleton.mpr isName) base
        (names_join isRoot.absolute isName)
    cases classified_of_resolve isLast resolved with
    | module _ =>
      refine ⟨fun artifact isArtifact => ?_, nofun⟩
      cases isArtifact
      refine ⟨root, _, isPlace, mirrors, .module ?_⟩
      exact isRoot.same isBase (List.forall_mem_singleton.mpr file)
        (isAbsolute_join isRoot.absolute _) (names_join isRoot.absolute file)
    | package _ _ _ _ =>
      constructor
      · intro artifact isArtifact
        cases isArtifact
        refine ⟨root, _, isPlace, mirrors, .package ?_⟩
        rw [List.append_assoc]
        refine isRoot.same isBase ?_ (isAbsolute_join base _) ?_
        · exact List.forall_mem_cons.mpr
            ⟨isName, List.forall_mem_singleton.mpr isName_packageInitializer⟩
        · rw [names_join base isName_packageInitializer, names_join isRoot.absolute isName,
            List.append_assoc]
      · intro other isDirectory
        cases isDirectory
        exact directory
    | portion =>
      refine ⟨nofun, fun other isDirectory => ?_⟩
      cases isDirectory
      exact directory
    | nothing => exact ⟨nofun, nofun⟩

end Found

end ModuleImport
