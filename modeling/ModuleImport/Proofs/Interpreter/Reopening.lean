import ModuleImport.Interpreter.Search
import ModuleImport.Proofs.Repository.Checks

namespace ModuleImport

open ModuleImport.Path ModuleImport.FileSystem

namespace Repository

variable {fs : FileSystem} {p root searchPath : Path} {name : String} {resolution : Resolution}

theorem openRoot_of_isNormal (isNormal : p.IsNormal) (directory : fs.isDirectory p = true) :
    openRoot fs p = .ok p := by
  rw [openRoot, isNormal.absolute?]
  exact if_pos directory

theorem searchPath_of_resolve (resolved : resolve fs root name = .ok resolution)
    (leads : resolution.searchPath? = some searchPath) :
    ∃ segment, IsName segment ∧ searchPath = root.join segment ∧
      fs.isDirectory searchPath = true := by
  cases isSegment : segment? name with
  | none =>
    rw [resolve_of_none isSegment resolved] at leads
    cases leads
  | some segment =>
    refine ⟨segment, isName_of_segment? isSegment, ?_⟩
    cases classified_of_resolve isSegment resolved with
    | module => cases leads
    | nothing => cases leads
    | package _ _ directory =>
      cases leads
      exact ⟨rfl, isDirectory_iff.mpr (stat_of_probe_directory directory)⟩
    | portion _ _ directory =>
      cases leads
      exact ⟨rfl, isDirectory_iff.mpr (stat_of_probe_directory directory)⟩

theorem openRoot_searchPath (isNormal : root.IsNormal)
    (resolved : resolve fs root name = .ok resolution)
    (leads : resolution.searchPath? = some searchPath) :
    openRoot fs searchPath = .ok searchPath := by
  obtain ⟨segment, isName, rfl, directory⟩ := searchPath_of_resolve resolved leads
  exact openRoot_of_isNormal (isNormal.join isName) directory

theorem importerFor_of_openRoot {s : Interpreter} (opened : openRoot fs p = .ok root)
    (unseen : s.importers.get? p.canonicalText = none) :
    ∃ importer, (s.importerFor fs p).1 = some importer ∧ importer.root = root := by
  refine ⟨(s.store.newImporter root s.entryPoint).1, ?_, rfl⟩
  simp only [Interpreter.importerFor, unseen, Store.openImporter, opened, Except.map]

/-- A root that was opened is absolute and opens as itself. So does the search path of every package
and portion in the repository, and an importer that is made for it has it as its root. -/
theorem openRoot_stable (opened : openRoot fs p = .ok root) :
    root.isAbsolute = true ∧ openRoot fs root = .ok root ∧
    ∀ name resolution searchPath, resolve fs root name = .ok resolution →
      resolution.searchPath? = some searchPath →
      openRoot fs searchPath = .ok searchPath ∧
      ∀ s : Interpreter, s.importers.get? searchPath.canonicalText = none →
        ∃ importer, (s.importerFor fs searchPath).1 = some importer ∧
          importer.root = searchPath := by
  have isNormal := isNormal_of_formed (openRoot_inv opened).1
  refine ⟨isNormal.isAbsolute, openRoot_of_isNormal isNormal (openRoot_inv opened).2, ?_⟩
  intro name resolution searchPath resolved leads
  have reopened := openRoot_searchPath isNormal resolved leads
  exact ⟨reopened, fun s => importerFor_of_openRoot reopened⟩

/-- Packages inside a directory that is opened from the one above it. -/
def reopenedFiles : FileSystem where
  entries := [
    ("home", .directory [
      ("lib", .directory [("pkg", .directory [("__init__.pyf", .file [])])])])]
  workingDirectory := .ofPath ⟨"/home"⟩

/-- The root keeps a slash at its end, and what is below it gets none. -/
theorem openRoot_stable_reopenedFiles :
    openRoot reopenedFiles ⟨".//lib/./"⟩ = .ok ⟨"/home/lib/"⟩ ∧
    openRoot reopenedFiles ⟨"/home/lib/"⟩ = .ok ⟨"/home/lib/"⟩ ∧
    resolve reopenedFiles ⟨"/home/lib/"⟩ "pkg" =
      .ok (.package ⟨"/home/lib/pkg/__init__.pyf"⟩ ⟨"/home/lib/pkg"⟩) ∧
    openRoot reopenedFiles ⟨"/home/lib/pkg"⟩ = .ok ⟨"/home/lib/pkg"⟩ ∧
    ∃ importer, ((Interpreter.new ⟨[], none, .stdout []⟩).importerFor reopenedFiles
      ⟨"/home/lib/pkg"⟩).1 = some importer ∧ importer.root = ⟨"/home/lib/pkg"⟩ := by
  have opened : openRoot reopenedFiles ⟨".//lib/./"⟩ = .ok ⟨"/home/lib/"⟩ := rfl
  have resolved : resolve reopenedFiles ⟨"/home/lib/"⟩ "pkg" =
      .ok (.package ⟨"/home/lib/pkg/__init__.pyf"⟩ ⟨"/home/lib/pkg"⟩) := rfl
  obtain ⟨-, again, inside⟩ := openRoot_stable opened
  obtain ⟨reopened, importer⟩ := inside _ _ _ resolved rfl
  exact ⟨opened, again, resolved, reopened, importer _ rfl⟩

end Repository

end ModuleImport
