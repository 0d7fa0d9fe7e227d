import ModuleImport.Artifact.Frame
import ModuleImport.Loading.Error
import ModuleImport.Loading.Host

namespace ModuleImport

structure LoadPlan where
  target : String
  artifact : Path
  searchPath? : Option Path
  code : Code

/-- Reads what a resolution leads to. The name under which the module will be registered depends on
the entry point that the importer knows. -/
def LoadPlan.make {ε : Type} (fs : FileSystem) (entryPoint : Option String) (name : String)
    (resolution : Resolution) : Except (LoadError ε) LoadPlan :=
  match resolution.artifact? with
  | none => .error (.notLoadable name resolution)
  | some artifact =>
    match fs.read artifact with
    | .error cause => .error (.artifactUnreadable name artifact cause)
    | .ok bytes =>
      match Artifact.decode bytes with
      | .error cause => .error (.corruptArtifact name artifact cause)
      | .ok code => .ok ⟨Name.registered entryPoint name, artifact, resolution.searchPath?, code⟩

namespace Host

variable {m : Type → Type} [Monad m] {μ ε : Type}

def setSearchPath (host : Host m μ ε) (plan : LoadPlan) (module : μ) : ExceptT ε m Unit :=
  match plan.searchPath? with
  | some directory => host.setAttribute module (.searchPath [directory])
  | none => pure ()

def fill (host : Host m μ ε) (importer : Importer) (plan : LoadPlan) (module : μ) :
    ExceptT (LoadError ε) m Unit := do
  ExceptT.adapt (.registry plan.target) (host.setAttribute module (.loader importer))
  ExceptT.adapt (.registry plan.target) (host.setSearchPath plan module)
  ExceptT.adapt (.execution plan.target) (host.execute module plan.code plan.artifact)

def takeBack (host : Host m μ ε) (target : String) (created : Bool) : m Unit :=
  if created then host.remove target else pure ()

/-- Registers a module and fills it, and takes the registration back if that fails. -/
def carryOut (host : Host m μ ε) (importer : Importer) (plan : LoadPlan) :
    ExceptT (LoadError ε) m μ := do
  let found ← ExceptT.adapt (.registry plan.target) (host.getOrCreate plan.target)
  tryCatch (host.fill importer plan found.module) fun e => do
    host.takeBack plan.target found.created
    throw e
  return found.module

def load (host : Host m μ ε) (fs : FileSystem) (importer : Importer) (entryPoint : Option String)
    (name : String) (resolution : Resolution) : ExceptT (LoadError ε) m μ := do
  match LoadPlan.make fs entryPoint name resolution with
  | .error e => throw e
  | .ok plan => host.carryOut importer plan

def loadModule (host : Host m μ ε) (fs : FileSystem) (importer : Importer)
    (entryPoint : Option String) (name : String) : ExceptT (LoadError ε) m μ := do
  match importer.resolve fs name with
  | .error cause => throw (.probe cause)
  | .ok resolution =>
    if resolution.isLoadable then host.load fs importer entryPoint name resolution
    else throw (.nameNotFound name)

end Host

end ModuleImport
