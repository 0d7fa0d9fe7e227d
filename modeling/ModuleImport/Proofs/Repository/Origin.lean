import Mathlib.Data.List.Forall2
import ModuleImport.Artifact.Frame
import ModuleImport.Proofs.Repository.Spelling

namespace ModuleImport

open FileSystem Repository

/-- What a module is made from. -/
inductive Origin where
  | artifact (artifact : Path) (searchPath? : Option Path) (code : Code)
  | portions (directories : List Path)

namespace Origin

/-- The directories in which submodules are searched for. An ordinary module has none. -/
def directories? : Origin → Option (List Path)
  | artifact _ searchPath? _ => searchPath?.map fun directory => [directory]
  | portions directories => some directories

/-- What a search comes to when a portion stands before the rest of its way. -/
def afterPortion (directory : Path) : Origin → Origin
  | artifact path searchPath? code => .artifact path searchPath? code
  | portions directories => .portions (directory :: directories)

/-- The paths of the two rows are the same one by one. -/
abbrev SamePaths : List Path → List Path → Prop :=
  List.Forall₂ fun p q => p.same q = true

/-- Origins that differ in the spelling of their paths only. -/
inductive Same : Origin → Origin → Prop
  | artifact {p q directory? directory?' code} : p.same q = true →
      (∀ d ∈ directory?, ∀ d' ∈ directory?', d.same d' = true) →
      Same (.artifact p directory? code) (.artifact q directory?' code)
  | portions {directories directories'} : SamePaths directories directories' →
      Same (.portions directories) (.portions directories')

theorem Same.directories {origin origin' : Origin} (same : origin.Same origin')
    {directories directories' : List Path} (some : origin.directories? = some directories)
    (some' : origin'.directories? = .some directories') : SamePaths directories directories' := by
  cases same with
  | artifact _ below =>
    obtain ⟨d, isBelow, rfl⟩ := Option.map_eq_some_iff.mp some
    obtain ⟨d', isBelow', rfl⟩ := Option.map_eq_some_iff.mp some'
    exact .cons (below d isBelow d' isBelow') .nil
  | portions paths =>
    cases some
    cases some'
    exact paths

theorem Same.afterPortion {origin origin' : Origin} (same : origin.Same origin')
    {directory directory' : Path} (first : directory.same directory' = true) :
    (origin.afterPortion directory).Same (origin'.afterPortion directory') := by
  cases same with
  | artifact path below => exact .artifact path below
  | portions paths => exact .portions (.cons first paths)

end Origin

namespace Repository

open Origin

variable {fs : FileSystem} {name : String} {entry entry' : Path}

/-- What the repository at an entry of a search path contributes to a name. -/
inductive Contributes (fs : FileSystem) (name : String) (entry : Path) : Resolution → Prop
  | closed {spelled e} : spelled.same entry = true → openRoot fs spelled = .error e →
      Contributes fs name entry .nothing
  | opened {spelled root resolution} : spelled.same entry = true →
      openRoot fs spelled = .ok root → resolve fs root name = .ok resolution →
      Contributes fs name entry resolution

/-- What entries contribute is the same if they are. -/
theorem Contributes.same {resolution resolution' : Resolution}
    (contributes : Contributes fs name entry resolution)
    (contributes' : Contributes fs name entry' resolution') (same : entry.same entry' = true) :
    Repository.Same resolution resolution' := by
  have spelled {p q : Path} (isEntry : p.same entry = true) (isEntry' : q.same entry' = true) :
      p.same q = true := by
    rw [Path.same_comm] at isEntry'
    exact Path.same_trans (Path.same_trans isEntry same) isEntry'
  cases contributes with
  | closed isEntry closed =>
    cases contributes' with
    | closed => exact .nothing
    | opened isEntry' opened resolved =>
      have back := spelled isEntry isEntry'
      rw [Path.same_comm] at back
      rw [resolve_of_closed back opened closed resolved]
      exact .nothing
  | opened isEntry opened resolved =>
    cases contributes' with
    | closed isEntry' closed =>
      rw [resolve_of_closed (spelled isEntry isEntry') opened closed resolved]
      exact .nothing
    | opened isEntry' opened' resolved' =>
      exact resolve_aliased (aliased_of_openRoot (spelled isEntry isEntry') opened opened')
        resolved resolved'

/-- A search along directories comes to an origin. The first directory whose artifact can be loaded
wins, whatever portions stand before it. -/
inductive ComesTo (fs : FileSystem) (name : String) : List Path → Origin → Prop
  | nil : ComesTo fs name [] (.portions [])
  | nothing {entry rest origin} : Contributes fs name entry .nothing → ComesTo fs name rest origin →
      ComesTo fs name (entry :: rest) origin
  | portion {entry rest directory origin} : Contributes fs name entry (.portion directory) →
      ComesTo fs name rest origin → ComesTo fs name (entry :: rest) (origin.afterPortion directory)
  | loaded {entry rest resolution artifact bytes code} : Contributes fs name entry resolution →
      resolution.artifact? = some artifact → fs.read artifact = .ok bytes →
      Artifact.decode bytes = .ok code →
      ComesTo fs name (entry :: rest) (.artifact artifact resolution.searchPath? code)

theorem same_of_artifacts {resolution resolution' : Resolution} {artifact artifact' : Path}
    {bytes bytes' : List UInt8} {code code' : Code} (same : Repository.Same resolution resolution')
    (isArtifact : resolution.artifact? = some artifact)
    (isArtifact' : resolution'.artifact? = some artifact') (read : fs.read artifact = .ok bytes)
    (read' : fs.read artifact' = .ok bytes') (decoded : Artifact.decode bytes = .ok code)
    (decoded' : Artifact.decode bytes' = .ok code') :
    (Origin.artifact artifact resolution.searchPath? code).Same
      (.artifact artifact' resolution'.searchPath? code') := by
  have codes (respelled : Respelled artifact artifact') : code = code' := by
    rw [respelled.read read read', decoded'] at decoded
    cases decoded
    rfl
  cases same with
  | nothing => cases isArtifact
  | portion => cases isArtifact
  | module respelled =>
    cases isArtifact
    cases isArtifact'
    rw [codes respelled]
    exact .artifact respelled.same (fun d absurd => by cases absurd)
  | package respelled base =>
    cases isArtifact
    cases isArtifact'
    rw [codes respelled]
    refine .artifact respelled.same ?_
    rintro d ⟨⟩ d' ⟨⟩
    exact base.same

theorem ComesTo.same {directories directories' : List Path} {origin origin' : Origin}
    (comes : ComesTo fs name directories origin) (comes' : ComesTo fs name directories' origin')
    (paths : SamePaths directories directories') : origin.Same origin' := by
  induction comes generalizing directories' origin' with
  | nil =>
    cases paths
    cases comes'
    exact .portions .nil
  | nothing contributes _ ih =>
    cases paths with
    | cons first rest =>
      cases comes' with
      | nothing _ later' => exact ih later' rest
      | portion contributes' => cases contributes.same contributes' first
      | loaded contributes' isArtifact' =>
        cases contributes.same contributes' first
        cases isArtifact'
  | portion contributes _ ih =>
    cases paths with
    | cons first rest =>
      cases comes' with
      | nothing contributes' => cases contributes.same contributes' first
      | portion contributes' later' =>
        cases contributes.same contributes' first with
        | portion respelled => exact (ih later' rest).afterPortion respelled.same
      | loaded contributes' isArtifact' =>
        cases contributes.same contributes' first
        cases isArtifact'
  | loaded contributes isArtifact read decoded =>
    cases paths with
    | cons first rest =>
      cases comes' with
      | nothing contributes' =>
        cases contributes.same contributes' first
        cases isArtifact
      | portion contributes' =>
        cases contributes.same contributes' first
        cases isArtifact
      | loaded contributes' isArtifact' read' decoded' =>
        exact same_of_artifacts (contributes.same contributes' first) isArtifact isArtifact' read
          read' decoded decoded'

/-- What a name comes from, given a search path. -/
inductive Originates (fs : FileSystem) (searchPath : List Path) : String → Origin → Prop
  | top {name origin} : Name.parent? name = none → ComesTo fs name searchPath origin →
      Originates fs searchPath name origin
  | sub {name parent enclosing directories origin} : Name.parent? name = some parent →
      Originates fs searchPath parent enclosing → enclosing.directories? = some directories →
      ComesTo fs name directories origin → Originates fs searchPath name origin

theorem samePaths_refl (paths : List Path) : SamePaths paths paths :=
  List.forall₂_same.mpr fun p _ => p.same_refl

/-- A name comes from one origin, up to spelling. -/
theorem Originates.same {searchPath : List Path} {origin origin' : Origin}
    (originates : Originates fs searchPath name origin)
    (originates' : Originates fs searchPath name origin') : origin.Same origin' := by
  induction originates generalizing origin' with
  | top isTop comes =>
    cases originates' with
    | top _ comes' => exact comes.same comes' (samePaths_refl searchPath)
    | sub isParent =>
      rw [isTop] at isParent
      cases isParent
  | sub isParent _ some comes ih =>
    cases originates' with
    | top isTop =>
      rw [isTop] at isParent
      cases isParent
    | sub isParent' enclosing' some' comes' =>
      rw [isParent] at isParent'
      cases isParent'
      exact comes.same comes' ((ih enclosing').directories some some')

/-- The code in the artifact that a name comes from. -/
def Holds (fs : FileSystem) (searchPath : List Path) (name : String) (code : Code) : Prop :=
  ∃ artifact directory?, Originates fs searchPath name (.artifact artifact directory? code)

theorem Holds.of_originates {searchPath : List Path} {code : Code} {origin : Origin}
    (holds : Holds fs searchPath name code) (originates : Originates fs searchPath name origin) :
    ∃ artifact directory?, origin = .artifact artifact directory? code := by
  obtain ⟨artifact, directory?, held⟩ := holds
  cases held.same originates with
  | artifact => exact ⟨_, _, rfl⟩

end Repository

end ModuleImport
