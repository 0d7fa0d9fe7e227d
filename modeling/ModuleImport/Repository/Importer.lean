import ModuleImport.Repository.Resolution

namespace ModuleImport

structure Importer where
  id : Nat
  root : Path
deriving DecidableEq, Repr

inductive Offer where
  | loader
  | portion (directory : Path)
  | nothing
deriving DecidableEq, Repr

def Resolution.offer : Resolution → Offer
  | .module _ | .package _ _ => .loader
  | .portion directory => .portion directory
  | .nothing => .nothing

namespace Importer

def resolve (fs : FileSystem) (importer : Importer) (name : String) :
    Except ProbeError Resolution :=
  Repository.resolve fs importer.root name

def offer (fs : FileSystem) (importer : Importer) (name : String) : Except ProbeError Offer :=
  (importer.resolve fs name).map Resolution.offer

end Importer

/-- An importer offers to load exactly what is loadable. -/
theorem Resolution.offer_eq_loader_iff (r : Resolution) :
    r.offer = .loader ↔ r.isLoadable = true := by
  cases r <;> simp [Resolution.offer, isLoadable, artifact?]

end ModuleImport
