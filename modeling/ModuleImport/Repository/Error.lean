import ModuleImport.FileSystem.Error
import ModuleImport.Path

namespace ModuleImport

structure InvalidRepository where
  path : Path
deriving DecidableEq, Repr

def InvalidRepository.message (e : InvalidRepository) : String :=
  "not a valid module repository: " ++ e.path.text

/-- A place could not be inspected, for a reason other than that nothing is there. -/
structure ProbeError where
  path : Path
  cause : IoError
deriving DecidableEq, Repr

def ProbeError.message (e : ProbeError) : String :=
  "cannot inspect " ++ e.path.text ++ ": " ++ e.cause.message

end ModuleImport
