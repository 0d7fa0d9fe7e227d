import ModuleImport.Artifact.Error
import ModuleImport.Repository.Resolution

namespace ModuleImport

/-- A failed load; `ε` is the host's own kind of error. -/
inductive LoadError (ε : Type) where
  | nameNotFound (name : String)
  | probe (cause : ProbeError)
  | artifactUnreadable (name : String) (path : Path) (cause : IoError)
  | corruptArtifact (name : String) (path : Path) (cause : ArtifactError)
  /-- A load was asked for with a resolution that has no artifact. -/
  | notLoadable (name : String) (resolution : Resolution)
  | registry (name : String) (cause : ε)
  | execution (name : String) (cause : ε)

namespace LoadError

variable {ε : Type}

def hostError? : LoadError ε → Option ε
  | registry _ cause => some cause
  | execution _ cause => some cause
  | _ => none

def messageAround (hostMessage : String) : LoadError ε → String
  | nameNotFound name => "cannot find module '" ++ name ++ "'"
  | probe cause => cause.message
  | artifactUnreadable name path _ =>
    "error opening file for module '" ++ name ++ "': " ++ path.text
  | corruptArtifact name path _ =>
    "corrupt compiled code for module '" ++ name ++ "' in " ++ path.text
  | notLoadable name resolution =>
    "cannot load module '" ++ name ++ "': it resolved to " ++ resolution.description
  | registry name _ => "module registry rejected '" ++ name ++ "': " ++ hostMessage
  | execution name _ => "module '" ++ name ++ "' failed during execution: " ++ hostMessage

def message (hostMessage : ε → String) (e : LoadError ε) : String :=
  e.messageAround ((e.hostError?.map hostMessage).getD "")

def moduleName? : LoadError ε → Option String
  | probe _ => none
  | nameNotFound name => some name
  | artifactUnreadable name _ _ => some name
  | corruptArtifact name _ _ => some name
  | notLoadable name _ => some name
  | registry name _ => some name
  | execution name _ => some name

end LoadError

end ModuleImport
