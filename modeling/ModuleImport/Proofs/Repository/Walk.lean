import ModuleImport.Proofs.Path.Names
import ModuleImport.Repository.Resolution

namespace ModuleImport

/-- A look at an entry of a search path, with the files as they were then. -/
structure Sighting where
  files : FileSystem
  entry : Path

namespace Sighting

/-- The root of the repository that the entry was then, or none if it was no existing directory. -/
def root? (sighting : Sighting) : Option Path :=
  (Repository.openRoot sighting.files sighting.entry).toOption

/-- What the first of some sightings of an entry came to, in whatever spelling it was looked at, or none
if it was not among them. -/
def first? (sightings : List Sighting) (entry : Path) : Option (Option Path) :=
  (sightings.find? fun sighting => sighting.entry.same entry).map root?

/-- The repository that an entry was when it was first seen. -/
def firstSeen (sightings : List Sighting) (entry : Path) : Option Path :=
  (first? sightings entry).join

/-- Sightings that are followed by looks at some entries in a row. -/
def along (seen : List Sighting) (fs : FileSystem) (entries : List Path) : List Sighting :=
  seen ++ entries.map (Sighting.mk fs)

variable {seen : List Sighting} {fs : FileSystem} {entry other : Path}

@[simp] theorem along_nil (seen : List Sighting) (fs : FileSystem) : along seen fs [] = seen :=
  List.append_nil seen

theorem along_append (seen : List Sighting) (fs : FileSystem) (xs ys : List Path) :
    along seen fs (xs ++ ys) = along (along seen fs xs) fs ys := by
  simp [along]

theorem along_cons (seen : List Sighting) (fs : FileSystem) (entry : Path) (rest : List Path) :
    along seen fs (entry :: rest) = along (along seen fs [entry]) fs rest :=
  along_append seen fs [entry] rest

@[simp] theorem first?_append (xs ys : List Sighting) (entry : Path) :
    first? (xs ++ ys) entry = (first? xs entry).or (first? ys entry) := by
  simp [first?, List.find?_append, Option.map_or]

theorem first?_congr (same : entry.canonicalText = other.canonicalText) :
    first? seen entry = first? seen other := by
  simp [first?, Path.same, same]

theorem first?_look (fs : FileSystem) (same : other.canonicalText = entry.canonicalText) :
    first? [⟨fs, entry⟩] other = some (Repository.openRoot fs entry).toOption := by
  simp [first?, Path.same, same, root?]

theorem first?_look_of_ne (fs : FileSystem) (apart : other.canonicalText ≠ entry.canonicalText) :
    first? [⟨fs, entry⟩] other = none := by
  simp [first?, Path.same, apart.symm]

end Sighting

namespace Repository

/-- A repository can be looked into and has nothing to load for a name. -/
def Passed (fs : FileSystem) (name : String) (root : Path) : Prop :=
  ∃ resolution, resolve fs root name = .ok resolution ∧ resolution.isLoadable = false

/-- The directory that a repository adds to a namespace package. -/
def portion? (fs : FileSystem) (name : String) (root : Path) : Option Path :=
  match resolve fs root name with
  | .ok (.portion directory) => some directory
  | _ => none

end Repository

end ModuleImport
