import ModuleImport.Artifact.Frame
import ModuleImport.Proofs.FileSystem.Shorter
import ModuleImport.Proofs.Repository.Checks

namespace ModuleImport

open ModuleImport.Path ModuleImport.FileSystem Name

namespace Repository

variable {fs : FileSystem} {directory place root artifact : Path} {name segment : String}
  {segments : List String}

/-- A path leads to the artifact of a body without instructions. -/
def EmptyBody (fs : FileSystem) (artifact : Path) : Prop :=
  ∃ content code, fs.stat artifact = .ok (.file content) ∧ Artifact.decode content = .ok code ∧
    code.instructions = []

/-- From a directory down along some segments to an artifact. Every segment but the last names a
directory that no artifact hides, and that has an initializer or none. -/
inductive Chain (fs : FileSystem) : Path → List String → Path → Prop
  | module {directory : Path} {segment : String} : IsSegment segment →
      EmptyBody fs (directory.join (artifactFileName segment)) →
      Chain fs directory [segment] (directory.join (artifactFileName segment))
  | package {directory artifact : Path} {segment : String} {rest : List String} :
      IsSegment segment →
      fs.stat (directory.join (artifactFileName segment)) = .error .notFound →
      fs.isDirectory (directory.join segment) = true →
      (EmptyBody fs ((directory.join segment).join packageInitializer) ∨
        fs.stat ((directory.join segment).join packageInitializer) = .error .notFound) →
      Chain fs (directory.join segment) rest artifact →
      Chain fs directory (segment :: rest) artifact

theorem EmptyBody.isReadable (empty : EmptyBody fs artifact) : fs.IsReadable artifact := by
  obtain ⟨content, _, found, -⟩ := empty
  exact isReadable_of_stat found

theorem EmptyBody.probe (empty : EmptyBody fs artifact) : probe fs artifact = .ok .file := by
  obtain ⟨content, _, found, -⟩ := empty
  rw [Repository.probe, found]

theorem EmptyBody.of_stat {other : Path} (empty : EmptyBody fs artifact)
    (same : fs.stat other = fs.stat artifact) : EmptyBody fs other := by
  obtain ⟨content, code, found, decodes⟩ := empty
  exact ⟨content, code, same.trans found, decodes⟩

theorem Chain.isReadable (chain : Chain fs directory segments artifact) :
    ∃ name, IsName name ∧ fs.IsReadable (directory.join name) := by
  cases chain with
  | module isSegment empty =>
    exact ⟨_, isName_artifactFileName (isName_of_isSegment isSegment), empty.isReadable⟩
  | package isSegment missing =>
    exact ⟨_, isName_artifactFileName (isName_of_isSegment isSegment),
      isReadable_of_notFound missing⟩

/-- The directory that a chain starts from is a repository, whatever shorter spelling it is opened
in. -/
theorem Chain.openRoot (chain : Chain fs directory segments artifact)
    (isDirectory : fs.isDirectory directory = true) (shortens : Shortens place directory) :
    ∃ root, openRoot fs place = .ok root ∧ Shortens root directory := by
  obtain ⟨name, isName, readable⟩ := chain.isReadable
  obtain ⟨root, formed, -⟩ := absolute?_of_isAbsolute shortens.absolute fs.workingPath?
  have shorter := shortens.absoluteForm formed
  have isNormal := isNormal_of_absolute?
    (fun relative => absurd shortens.absolute (by rw [relative]; decide)) formed
  refine ⟨root, ?_, shorter⟩
  rw [Repository.openRoot, formed]
  exact if_pos (shorter.isDirectory isNormal.noDot isName readable isDirectory)

theorem resolve_module (shortens : Shortens root directory) (isSegment : IsSegment segment)
    (isLast : segment? name = some segment)
    (empty : EmptyBody fs (directory.join (artifactFileName segment))) :
    resolve fs root name = .ok (.module (root.join (artifactFileName segment))) ∧
      EmptyBody fs (root.join (artifactFileName segment)) := by
  have isName := isName_artifactFileName (isName_of_isSegment isSegment)
  have here := empty.of_stat (shortens.stat_join isName empty.isReadable)
  refine ⟨?_, here⟩
  rw [resolve_of_some isLast, classify_of_file here.probe]

theorem resolve_package (shortens : Shortens root directory) (isSegment : IsSegment segment)
    (isLast : segment? name = some segment)
    (missing : fs.stat (directory.join (artifactFileName segment)) = .error .notFound)
    (isDirectory : fs.isDirectory (directory.join segment) = true)
    (initializer : EmptyBody fs ((directory.join segment).join packageInitializer) ∨
      fs.stat ((directory.join segment).join packageInitializer) = .error .notFound) :
    ∃ resolution, resolve fs root name = .ok resolution ∧
      resolution.searchPath? = some (root.join segment) ∧
      ∀ artifact ∈ resolution.artifact?, EmptyBody fs artifact := by
  have isName := isName_of_isSegment isSegment
  have base := shortens.join isName
  have noArtifact : probe fs (root.join (artifactFileName segment)) = .ok .missing := by
    apply probe_of_notFound
    rw [shortens.stat_join (isName_artifactFileName isName) (isReadable_of_notFound missing)]
    exact missing
  have inside : probe fs (root.join segment) = .ok .directory := by
    obtain ⟨entries, found⟩ := isDirectory_iff.mp isDirectory
    apply probe_of_isDirectory
    apply isDirectory_iff.mpr
    rw [shortens.stat_join isName (isReadable_of_stat found)]
    exact ⟨entries, found⟩
  rw [resolve_of_some isLast, classify_of_ne_file noArtifact (by decide), inside]
  rcases initializer with empty | missing'
  · have here := empty.of_stat (base.stat_join isName_packageInitializer empty.isReadable)
    rw [here.probe]
    exact ⟨_, rfl, rfl, fun _ isArtifact => Option.some.inj isArtifact ▸ here⟩
  · have gone : probe fs ((root.join segment).join packageInitializer) = .ok .missing := by
      apply probe_of_notFound
      rw [base.stat_join isName_packageInitializer (isReadable_of_notFound missing')]
      exact missing'
    rw [gone]
    exact ⟨_, rfl, rfl, nofun⟩

end Repository

end ModuleImport
