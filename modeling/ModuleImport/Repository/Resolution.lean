import ModuleImport.FileSystem.Basic
import ModuleImport.Name
import ModuleImport.Repository.Error

namespace ModuleImport

inductive Resolution where
  | nothing
  | module (artifact : Path)
  | package (artifact searchPath : Path)
  | portion (searchPath : Path)
deriving DecidableEq, Repr

namespace Resolution

def description : Resolution → String
  | nothing => "nothing"
  | module _ => "a module"
  | package _ _ => "a package"
  | portion _ => "a namespace package"

def artifact? : Resolution → Option Path
  | module artifact => some artifact
  | package artifact _ => some artifact
  | nothing | portion _ => none

def searchPath? : Resolution → Option Path
  | package _ searchPath => some searchPath
  | portion searchPath => some searchPath
  | nothing | module _ => none

def isLoadable (r : Resolution) : Bool :=
  r.artifact?.isSome

end Resolution

namespace Repository

inductive Entry where
  | missing
  | file
  | directory
  | other
deriving DecidableEq, Repr

/-- Looks at a path. That nothing is there is an answer; any other failure is an error. -/
def probe (fs : FileSystem) (p : Path) : Except ProbeError Entry :=
  match fs.stat p with
  | .ok (.file _) => .ok .file
  | .ok (.directory _) => .ok .directory
  | .ok _ => .ok .other
  | .error .notFound => .ok .missing
  | .error cause => .error ⟨p, cause⟩

def classifyWith {m : Type → Type} [Monad m] (look : Path → m Entry) (root : Path)
    (segment : String) : m Resolution := do
  let artifact := root.join (Name.artifactFileName segment)
  let base := root.join segment
  let initializer := base.join Name.packageInitializer
  match ← look artifact with
  | .file => return .module artifact
  | _ =>
    match ← look base with
    | .directory =>
      match ← look initializer with
      | .file => return .package initializer base
      | _ => return .portion base
    | _ => return .nothing

/-- The segment of a name that can be looked up: its last one, if that is a single component of a
path. -/
def segment? (name : String) : Option String :=
  (Name.lastSegment? name).filter Path.isSingleComponent

def resolveWith {m : Type → Type} [Monad m] (look : Path → m Entry) (root : Path)
    (name : String) : m Resolution :=
  match segment? name with
  | some segment => classifyWith look root segment
  | none => return .nothing

def classify (fs : FileSystem) (root : Path) (segment : String) : Except ProbeError Resolution :=
  classifyWith (probe fs) root segment

def resolve (fs : FileSystem) (root : Path) (name : String) : Except ProbeError Resolution :=
  resolveWith (probe fs) root name

/-- The root of the repository at a path: the absolute form of the path, which must lead to a
directory. -/
def openRoot (fs : FileSystem) (p : Path) : Except InvalidRepository Path :=
  match p.absolute? fs.workingPath? with
  | some root => if fs.isDirectory root then .ok root else .error ⟨p⟩
  | none => .error ⟨p⟩

end Repository

end ModuleImport
