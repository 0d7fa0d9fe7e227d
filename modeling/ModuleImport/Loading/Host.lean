import ModuleImport.Code.Basic
import ModuleImport.Repository.Importer

namespace ModuleImport

structure Registration (μ : Type) where
  module : μ
  created : Bool

inductive ModuleAttribute where
  | loader (importer : Importer)
  | searchPath (directories : List Path)

def loaderAttribute : String := "__loader__"

def searchPathAttribute : String := "__path__"

def nameAttribute : String := "__name__"

def fileAttribute : String := "__file__"

def ModuleAttribute.name : ModuleAttribute → String
  | loader _ => loaderAttribute
  | searchPath _ => searchPathAttribute

/-- A host whose operations have effects in `m`. Modules are of type `μ` and its errors of type
`ε`. -/
structure Host (m : Type → Type) (μ ε : Type) where
  getOrCreate : String → ExceptT ε m (Registration μ)
  setAttribute : μ → ModuleAttribute → ExceptT ε m Unit
  execute : μ → Code → Path → ExceptT ε m Unit
  remove : String → m Unit

end ModuleImport
